import FlowRules.Proofs.Table.Ordered
import FlowRules.Toml.Tree

/-!
# Changes of a document in the making

A statement changes one table of the document, the one under a path. Changes of the same
table that come one after the other are one change of it (`within_bind`), and a change of
a table is a change of the one around it (`within_append`), so what the statements of the
tables inside a table do adds up to a change of that table.

A change makes the table that it changes if there is none. Once it is there, changing
nothing in it leaves the document as it is (`HasTable`).
-/

namespace FlowRules.Toml.Node

open Table (ordered)

/-! ## Changes of a table -/

/-- A change of the members of a table, which may fail. -/
abbrev Change := Members → Option Members

/-- The change of what stands under a name that changes the table there. -/
def inside (f : Change) : Option Node → Option Node
  | none => (f []).map (.table .onTheWay)
  | some (.table origin inner) => (f inner).map (.table origin)
  | some (.tables (last :: others)) => (f last).map fun t => .tables (t :: others)
  | _ => none

theorem within_cons (f : Change) (name : String) (path : List String) (members : Members) :
    within f (name :: path) members = alter name (inside (within f path)) members := rfl

theorem alter_bind (name : String) (f g : Option Node → Option Node) (members : Members) :
    (alter name f members).bind (alter name g) =
      alter name (fun o => (f o).bind fun node => g (some node)) members := by
  unfold alter
  cases hnode : f (Table.find? name members) with
  | none => simp only [hnode, Option.map_none, Option.bind_none]
  | some node =>
    simp only [hnode, Option.map_some, Option.bind_some, Table.find?_insertEntry, if_pos,
      Table.insertEntry_insertEntry]

theorem inside_bind (f g : Change) (o : Option Node) :
    ((inside f o).bind fun node => inside g (some node)) =
      inside (fun members => (f members).bind g) o := by
  match o with
  | none => simp only [inside]; cases f [] <;> rfl
  | some (.value _) => rfl
  | some (.table origin inner) => simp only [inside]; cases f inner <;> rfl
  | some (.tables []) => rfl
  | some (.tables (last :: others)) => simp only [inside]; cases f last <;> rfl

/-- Two changes of the table under a path are one change of it. -/
theorem within_bind (f g : Change) (path : List String) (members : Members) :
    (within f path members).bind (within g path) =
      within (fun members => (f members).bind g) path members := by
  induction path generalizing members with
  | nil => rfl
  | cons name path ih =>
    have hboth : within (fun members => (f members).bind g) path =
        fun members => (within f path members).bind (within g path) :=
      funext fun members => (ih members).symm
    have hcons : within g (name :: path) = alter name (inside (within g path)) :=
      funext (within_cons g name path)
    rw [within_cons, within_cons, hcons, alter_bind, hboth]
    simp only [inside_bind]

/-- A change of a table inside is a change of the table around it. -/
theorem within_append (f : Change) (q path : List String) (members : Members) :
    within f (q ++ path) members = within (within f path) q members := by
  induction q generalizing members with
  | nil => rfl
  | cons name q ih =>
    have hq : within f (q ++ path) = within (within f path) q := funext ih
    rw [List.cons_append, within_cons, within_cons, hq]

section Mono

variable {members members' : Members}

theorem alter_eq_some_iff {name : String} {f : Option Node → Option Node} :
    alter name f members = some members' ↔
      ∃ node, f (Table.find? name members) = some node ∧
        Table.insertEntry name node members = members' :=
  Option.map_eq_some_iff

/-- What a change does, another one does that does as much and more. -/
theorem within_mono {f g : Change} (h : ∀ {m m'}, f m = some m' → g m = some m')
    {path : List String} (hf : within f path members = some members') :
    within g path members = some members' := by
  induction path generalizing members members' with
  | nil => exact h hf
  | cons name path ih =>
    rw [within_cons, alter_eq_some_iff] at hf ⊢
    obtain ⟨node, hnode, hmembers⟩ := hf
    refine ⟨node, ?_, hmembers⟩
    unfold inside at hnode ⊢
    split at hnode
    · obtain ⟨inner, hinner, rfl⟩ := Option.map_eq_some_iff.mp hnode
      rw [ih hinner, Option.map_some]
    · obtain ⟨inner, hinner, rfl⟩ := Option.map_eq_some_iff.mp hnode
      simp only [ih hinner, Option.map_some]
    · obtain ⟨inner, hinner, rfl⟩ := Option.map_eq_some_iff.mp hnode
      simp only [ih hinner, Option.map_some]
    · exact absurd hnode (by simp)

end Mono

/-- Is there a table under the path already? -/
def HasTable (path : List String) (members : Members) : Prop :=
  within some path members = some members

theorem hasTable_of_within {f : Change} {path : List String} {members members' : Members}
    (h : within f path members = some members') : HasTable path members' := by
  have hboth := within_bind f some path members
  simp only [Option.bind_fun_some] at hboth
  rwa [h, Option.bind_some] at hboth

/-! ## Changes under a name -/

/-- What changes a part and then the table in it is two changes. -/
theorem within_alter_bind (f : Option Node → Option Node) (g : Change) (name : String)
    (q : List String) (members : Members) :
    within (alter name fun o => (f o).bind fun node => inside g (some node)) q members =
      (within (alter name f) q members).bind (within g (q ++ [name])) := by
  have hinner : within g (q ++ [name]) = within (alter name (inside g)) q :=
    funext (within_append g q [name])
  rw [hinner, within_bind]
  congr 1
  funext members
  exact (alter_bind name f (inside g) members).symm

/-- A table that was opened is there. -/
theorem hasTable_of_openTable {name : String} {q : List String} {members members' : Members}
    (h : within (alter name openTable) q members = some members') :
    HasTable (q ++ [name]) members' := by
  have hopen : (fun o => (openTable o).bind fun node => inside some (some node)) = openTable := by
    funext o
    unfold openTable
    split <;> rfl
  have hboth := within_alter_bind openTable some name q members
  rw [hopen, h] at hboth
  exact hboth.symm

/-- The part put where there was none. -/
def put (node : Node) : Option Node → Option Node
  | none => some node
  | some _ => none

/-- Where a part can be put, it is put by every change that makes it out of nothing. -/
theorem within_alter_of_put {f : Option Node → Option Node} {node : Node} (hf : f none = some node)
    {name : String} {q : List String} {members members' : Members}
    (h : within (alter name (put node)) q members = some members') :
    within (alter name f) q members = some members' := by
  refine within_mono (fun {m m'} hput => ?_) h
  obtain ⟨node', hnode, hm'⟩ := alter_eq_some_iff.mp hput
  refine alter_eq_some_iff.mpr ⟨node', ?_, hm'⟩
  cases hfind : Table.find? name m with
  | none =>
    rw [hfind] at hnode
    exact hf.trans hnode
  | some _ =>
    rw [hfind] at hnode
    exact absurd hnode (by simp [put])

/-! ## New members -/

/-- The parts put under their names, one after the other. -/
def putAll (es : Members) : Change := fun members =>
  es.foldlM (fun members e => alter e.1 (put e.2) members) members

theorem putAll_cons (e : String × Node) (es members : Members) :
    putAll (e :: es) members = (alter e.1 (put e.2) members).bind (putAll es) := rfl

theorem within_putAll_cons {e : String × Node} {es : Members} {path : List String}
    {members members' : Members} (h : within (putAll (e :: es)) path members = some members') :
    ∃ ms, within (alter e.1 (put e.2)) path members = some ms ∧
      within (putAll es) path ms = some members' := by
  have hcons : putAll (e :: es) = fun members => (alter e.1 (put e.2) members).bind (putAll es) :=
    funext (putAll_cons e es)
  rwa [hcons, ← within_bind, Option.bind_eq_some_iff] at h

theorem putAll_append (es ds members : Members) :
    putAll (es ++ ds) members = (putAll es members).bind (putAll ds) := by
  simp only [putAll, List.foldlM_append]
  rfl

/-- Parts under distinct new names can be put. -/
theorem exists_putAll {es members : Members} (hes : (es.map Prod.fst).Nodup)
    (hnew : ∀ e ∈ es, e.1 ∉ members.map Prod.fst)
    (hsorted : members.Pairwise fun a b => compare a.1 b.1 = .lt) :
    ∃ ms, putAll es members = some ms ∧ ms.Perm (es ++ members) ∧
      ms.Pairwise fun a b => compare a.1 b.1 = .lt := by
  induction es generalizing members with
  | nil => exact ⟨members, rfl, .refl _, hsorted⟩
  | cons e es ih =>
    rw [List.map_cons, List.nodup_cons] at hes
    have he := hnew e (List.mem_cons_self ..)
    have hperm := Table.insertEntry_perm he e.2
    have hput : alter e.1 (put e.2) members = some (Table.insertEntry e.1 e.2 members) :=
      alter_eq_some_iff.mpr ⟨e.2, by rw [Table.find?_eq_none_iff.mpr he]; rfl, rfl⟩
    obtain ⟨ms, hms, hall, hord⟩ := ih hes.2 (fun d hd hmem => by
      rw [(hperm.map Prod.fst).mem_iff, List.map_cons, List.mem_cons] at hmem
      rcases hmem with heq | hmem
      · exact hes.1 (heq ▸ List.mem_map_of_mem hd)
      · exact hnew d (List.mem_cons_of_mem e hd) hmem) (Table.insertEntry_sorted e.1 e.2 hsorted)
    refine ⟨ms, by rw [putAll_cons, hput, Option.bind_some, hms], ?_, hord⟩
    exact hall.trans ((hperm.append_left es).trans List.perm_middle)

/-- Parts put into an empty table are in order there. -/
theorem putAll_nil {es : Members} (hes : (es.map Prod.fst).Nodup) :
    putAll es [] = some (ordered es) := by
  obtain ⟨ms, hms, hperm, hsorted⟩ := exists_putAll hes (fun _ _ => List.not_mem_nil) .nil
  rw [List.append_nil] at hperm
  rw [hms, Table.eq_ordered hsorted hes hperm]

end FlowRules.Toml.Node
