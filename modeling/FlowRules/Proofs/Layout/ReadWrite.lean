import FlowRules.Layout.Document
import FlowRules.Proofs.Layout.WellFormed
import Mathlib.Data.List.Forall2

/-!
# Values read back from documents

A notation has a writer, which makes trees, and a reader, which looks at places in a
document. It is faithful (`DataReader.Inverts`) if each part that the writer can make is
recognised wherever it stands, with the trees inside it standing at the places that are
handed out. In a faithful notation the value of a well-formed layout is read back from
every place where its tree stands (`Layout.read_write`).

The members of a record may stand in another order than they were written. They are found
by their names, of which no two in one record are equal, so each field meets its own value
(`Fields.readNamed_write`).
-/

namespace FlowRules

variable {σ τ : Type}

/-! ## Faithful notations -/

/-- Entries that all have names. -/
def Entries.ofMembers (es : List (String × σ)) : Entries σ :=
  { values := es.map fun e => (some e.1, e.2) }

section Holding

variable (Stands : σ → τ → Prop)

/-- Do the trees stand at the places, all under their names and in their order? -/
def MembersStand : List (String × σ) → List (String × τ) → Prop :=
  List.Forall₂ fun e m => e.1 = m.1 ∧ Stands e.2 m.2

/-- Are these items closed and do the trees stand there in their order? -/
def Items.Hold (items : Items σ) (vs : List τ) : Prop :=
  items.closed = true ∧ List.Forall₂ Stands items.values vs

/-- Are these the fields of a record with the members, in whatever order? -/
def Parts.Hold (parts : Parts σ) (ms : List (String × τ)) : Prop :=
  ∃ es ms', parts = .named (.ofMembers es) ∧ MembersStand Stands es ms' ∧ ms'.Perm ms

/-- May the variant be taken to carry what is written? -/
def Choice.Holds (choice : Choice σ) : Carried τ → Prop
  | .nothing => choice.nothing = true
  | .value v => ∃ p, choice.value = some p ∧ Stands p v
  | .fields ms => ∃ parts, choice.fields = some parts ∧ parts.Hold Stands ms

end Holding

/-- What a reader recognises where a tree of the writer stands. -/
structure DataReader.Inverts (r : DataReader σ) (w : DataWriter τ) (Stands : σ → τ → Prop) :
    Prop where
  bool : ∀ {p b}, Stands p (w.bool b) → r.bool? p = some b
  nat : ∀ {p n} bits, Stands p (w.nat n) → r.nat? bits p = some (n, true)
  text : ∀ {p s}, Stands p (w.text s) → r.text? p = some s
  uuid : ∀ {p bits}, Stands p (w.text (uuidText bits)) → r.uuid? p = some bits
  tuple : ∀ {p vs}, Stands p (w.tuple vs) → ∃ items, r.tuple? p = some items ∧ items.Hold Stands vs
  list : ∀ {p vs}, Stands p (w.list vs) → ∃ items, r.list? p = some items ∧ items.Hold Stands vs
  dict : ∀ {p ms}, Stands p (w.dict ms) →
    ∃ es, r.dict? p = some (.ofMembers es) ∧ MembersStand Stands es ms
  record : ∀ {p ms} name, Stands p (w.record ms) →
    ∃ parts, r.record? name p = some parts ∧ parts.Hold Stands ms
  absent : ∀ {p v}, w.optional none = some v → Stands p v → r.optional? p = some none
  /-- The tree of a value is never left out, nor taken for an absent one. -/
  present : ∀ {α : Type} (l : Layout α) (a : α), ∃ v, w.optional (some (l.write w a)) = some v ∧
    ∀ {p}, Stands p v → ∃ q, r.optional? p = some (some (q, true)) ∧ Stands q (l.write w a)
  variant : ∀ {p name carried}, Stands p (w.variant name carried) →
    ∃ choice, r.variant? p = some choice ∧ choice.name = name ∧ choice.ends = true ∧
      choice.Holds Stands carried

variable {r : DataReader σ} {w : DataWriter τ} {Stands : σ → τ → Prop}

/-! ## Words and rows -/

theorem readWord_toNat {n : Nat} (x : BitVec n) : readWord n x.toNat = .ok x := by
  have hx : BitVec.ofNat n x.toNat = x := by rw [BitVec.ofNat_toNat, BitVec.setWidth_eq]
  simp [readWord, hx]

theorem readPrefixLen_val (len : PrefixLen) : readPrefixLen len.val = .ok len := by
  have hlt : len.val < 256 := Nat.lt_of_le_of_lt len.le (by decide)
  have hread : PrefixLen.ofOctet (BitVec.ofNat 8 len.val) = .ok len := len.ofOctet_toOctet
  simp only [readPrefixLen, if_pos hlt, hread]

namespace DataReader.Inverts

theorem readNat {α : Type} (h : r.Inverts w Stands) {make : Nat → Except DecodeError α}
    {n bits : Nat} {a : α} {p : σ} (hmake : make n = .ok a) (hp : Stands p (w.nat n)) :
    r.readNat bits make p = .ok a := by
  simp only [DataReader.readNat, h.nat bits hp, recognised, bind, Except.bind, hmake, ensure,
    if_pos]
  rfl

theorem readWord (h : r.Inverts w Stands) {bits : Nat} {x : BitVec bits} {p : σ}
    (hp : Stands p (w.nat x.toNat)) : r.readWord bits p = .ok x :=
  h.readNat (readWord_toNat x) hp

theorem readOctets (h : r.Inverts w Stands) {n : Nat} {v : Vector Octet n} {ps : List σ}
    (hps : List.Forall₂ Stands ps (v.toList.map fun o => w.nat o.toNat)) :
    r.readOctets n ps = .ok (v, []) := by
  induction n generalizing ps with
  | zero =>
    obtain rfl : v = #v[] := by simp
    cases hps
    rfl
  | succ n ih =>
    obtain ⟨o, os, rfl, hlist⟩ := exists_insertIdx_zero v
    rw [hlist] at hps
    cases hps with
    | cons hp hps =>
      simp only [DataReader.readOctets, h.readWord hp, ih hps, bind, Except.bind]
      rfl

/-- Only an absent value is left out. -/
theorem eq_none_of_left_out {α : Type} (h : r.Inverts w Stands) {l : Layout α} {o : Option α}
    (hv : w.optional (o.map (l.write w)) = none) : o = none := by
  cases o with
  | none => rfl
  | some a =>
    obtain ⟨v, hpresent, -⟩ := h.present l a
    exact absurd (hpresent.symm.trans hv) (by simp)

/-- An optional field is read back as absent or as its value. -/
theorem readOptional {α : Type} (h : r.Inverts w Stands) {l : Layout α} {o : Option α}
    (hl : ∀ a ∈ o, ∀ p, Stands p (l.write w a) → l.read r p = .ok a) {v : τ} {p : σ}
    (hv : w.optional (o.map (l.write w)) = some v) (hp : Stands p v) :
    r.readOptional (l.read r) p = .ok o := by
  cases o with
  | none =>
    simp only [DataReader.readOptional, h.absent hv hp, recognised, bind, Except.bind]
    rfl
  | some a =>
    obtain ⟨v', hv', hstands⟩ := h.present l a
    obtain rfl : v' = v := Option.some.inj (hv'.symm.trans hv)
    obtain ⟨q, hread, hq⟩ := hstands hp
    simp only [DataReader.readOptional, hread, recognised, bind, Except.bind, hl a rfl q hq, ensure,
      if_pos]
    rfl

end DataReader.Inverts

theorem mapM_of_forall₂ {α : Type} {read : σ → Except DecodeError α} {write : α → τ} {ps : List σ}
    {as : List α} (h : ∀ a ∈ as, ∀ p, Stands p (write a) → read p = .ok a)
    (hps : List.Forall₂ Stands ps (as.map write)) : ps.mapM read = .ok as := by
  induction as generalizing ps with
  | nil =>
    cases hps
    rfl
  | cons a as ih =>
    cases hps with
    | cons hp hps =>
      have hmore := ih (fun b hb => h b (List.mem_cons_of_mem a hb)) hps
      simp only [List.mapM_cons, h a (List.mem_cons_self ..) _ hp, hmore, bind, Except.bind]
      rfl

/-! ## Entries with names -/

namespace MembersStand

variable {es : List (String × σ)} {ms : List (String × τ)}

theorem filter_name (h : MembersStand Stands es ms) (name : String) :
    MembersStand Stands (es.filter fun e => e.1 = name) (ms.filter fun m => m.1 = name) := by
  refine List.rel_filter (fun e m hem => ?_) h
  show decide (e.1 = name) = true ↔ decide (m.1 = name) = true
  rw [hem.1]

theorem exists_name (h : MembersStand Stands es ms) {e : String × σ} (he : e ∈ es) :
    ∃ m ∈ ms, e.1 = m.1 := by
  induction h with
  | nil => exact absurd he List.not_mem_nil
  | cons hem _ ih =>
    rcases List.mem_cons.mp he with rfl | he
    · exact ⟨_, List.mem_cons_self .., hem.1⟩
    · obtain ⟨m, hm, hname⟩ := ih he
      exact ⟨m, List.mem_cons_of_mem _ hm, hname⟩

end MembersStand

theorem Entries.readValues_ofMembers {α : Type} {read : σ → Except DecodeError α} {write : α → τ}
    {es : List (String × σ)} {as : List (String × α)}
    (h : ∀ a ∈ as, ∀ p, Stands p (write a.2) → read p = .ok a.2)
    (hes : MembersStand Stands es (as.map fun a => (a.1, write a.2))) :
    readValues read (ofMembers es).values = .ok as := by
  induction as generalizing es with
  | nil =>
    cases hes
    rfl
  | cons a as ih =>
    cases hes with
    | cons he hes =>
      obtain ⟨hname, hp⟩ := he
      have hmore := ih (fun b hb => h b (List.mem_cons_of_mem a hb)) hes
      simp only [ofMembers] at hmore
      simp only [ofMembers, List.map_cons, readValues, recognised, hname,
        h a (List.mem_cons_self ..) _ hp, hmore, bind, Except.bind]
      rfl

/-- Without their places the entries with names are what they were. -/
theorem Entries.map_snd_placed (entries : Entries σ) :
    entries.placed.map Prod.snd = entries.values.filterMap fun e => e.1.map (·, e.2) := by
  have hfrom : ∀ (es : List (Option String × σ)) (k : Nat),
      ((es.zipIdx k).filterMap fun e => e.1.1.map fun s => (e.2, s, e.1.2)).map Prod.snd =
        es.filterMap fun e => e.1.map (·, e.2) := by
    intro es
    induction es with
    | nil => exact fun _ => rfl
    | cons e es ih =>
      intro k
      obtain ⟨name, v⟩ := e
      cases name <;> simp [ih]
  exact hfrom entries.values 0

theorem Entries.placed_ofMembers (es : List (String × σ)) :
    (ofMembers es).placed.map Prod.snd = es := by
  rw [map_snd_placed]
  simp [ofMembers]

theorem checkMembers_eq_ok_iff {ok : String → σ → Bool} {members : Members σ} :
    checkMembers ok members = .ok () ↔ ∀ e ∈ members.map Prod.snd, ok e.1 e.2 = true := by
  unfold checkMembers
  cases hfound : members.find? fun m => !ok m.2.1 m.2.2 with
  | none =>
    refine iff_of_true rfl fun e he => ?_
    obtain ⟨m, hm, rfl⟩ := List.mem_map.mp he
    simpa using List.find?_eq_none.mp hfound m hm
  | some m =>
    refine iff_of_false nofun fun hall => ?_
    have hm := List.find?_some hfound
    have hok := hall _ (List.mem_map_of_mem (List.mem_of_find?_eq_some hfound))
    simp [hok] at hm

/-- Nothing is wrong with members that are fields or can be skipped. -/
theorem Entries.check_ofMembers_iff {es : List (String × σ)} {names : List String} :
    (ofMembers es).check r names = .ok () ↔ ∀ e ∈ es, e.1 ∈ names ∨ r.skippable e.2 = true := by
  have hnames : (ofMembers es).checkNames = .ok () := by
    have hnone : ((es.map fun e => (some e.1, e.2)).findIdx? fun e => e.1.isNone) = none := by
      simp
    simp only [checkNames, ofMembers, hnone]
  have hclosed : (ofMembers es).checkClosed = .ok () := rfl
  have hskipped : checkMembers (fun name v => names.contains name || r.skippable v)
      (ofMembers es).placed = .ok () ↔ _ := checkMembers_eq_ok_iff
  simp only [placed_ofMembers, Bool.or_eq_true, List.contains_iff_mem] at hskipped
  rw [← hskipped]
  simp only [check, hnames, hclosed]
  cases checkMembers _ (ofMembers es).placed <;>
    simp [Located.both, bind, Except.bind, pure, Except.pure]

/-! ## Fields by their names -/

section Pick

variable {α : Type} {read : σ → Except DecodeError α} {default : Option α} {name : String}
  {members : Members σ} {size : Nat}

theorem filter_placed (members : Members σ) (name : String) :
    (members.map Prod.snd).filter (fun e => e.1 = name) =
      (members.filter fun m => m.2.1 = name).map Prod.snd := by
  rw [List.filter_map]
  rfl

/-- A field that no member names has its default. -/
theorem pick_of_missing {a : α}
    (h : (members.map Prod.snd).filter (fun e => e.1 = name) = []) :
    pick read (some a) name members size = .ok a := by
  rw [filter_placed, List.map_eq_nil_iff] at h
  simp only [pick, h]

/-- A field that one member names has the value of the member. -/
theorem pick_of_single {e : String × σ} {a : α}
    (h : (members.map Prod.snd).filter (fun e => e.1 = name) = [e]) (hread : read e.2 = .ok a) :
    pick read default name members size = .ok a := by
  rw [filter_placed, List.map_eq_singleton_iff] at h
  obtain ⟨m, hm, rfl⟩ := h
  simp only [pick, hm, hread, Located.placed]

end Pick

/-- The members that are written have names of fields, each at most once. -/
theorem Fields.names_write_sublist (w : DataWriter τ) :
    {α : Type} → (fields : Fields α) → (a : α) →
      ((fields.write w a).map Prod.fst).Sublist fields.names
  | _, .nil, _ => .slnil
  | _, .needed _ _ l rest, (a, b) => (Fields.names_write_sublist w rest b).cons_cons _
  | _, .optional _ _ l rest, (o, b) => by
    have hrest := Fields.names_write_sublist w rest b
    simp only [Fields.write, Fields.names]
    cases w.optional (o.map (l.write w)) with
    | none => exact hrest.cons _
    | some v => exact hrest.cons_cons _

/-- Among members with distinct names their order does not matter. -/
theorem filter_name_of_perm {ms ms' : List (String × τ)} (hperm : ms'.Perm ms)
    (hms : (ms.map Prod.fst).Nodup) (name : String) :
    ms'.filter (fun m => m.1 = name) = ms.filter (fun m => m.1 = name) := by
  have hfilter := hperm.filter (fun m => m.1 = name)
  have hcount : (ms.filter fun m => m.1 = name).length ≤ 1 := by
    have hle := List.nodup_iff_count.mp hms name
    rwa [List.count_eq_countP, List.countP_map, List.countP_eq_length_filter] at hle
  cases hms' : ms.filter (fun m => m.1 = name) with
  | nil => rwa [hms', List.perm_nil] at hfilter
  | cons m rest =>
    rw [hms', List.length_cons] at hcount
    obtain rfl : rest = [] := List.eq_nil_of_length_eq_zero (by omega)
    rwa [hms', List.perm_singleton] at hfilter

theorem filter_name_of_notMem {ms : List (String × τ)} {name : String}
    (h : name ∉ ms.map Prod.fst) : ms.filter (fun m => m.1 = name) = [] := by
  rw [List.filter_eq_nil_iff]
  intro m hm heq
  exact h (of_decide_eq_true heq ▸ List.mem_map_of_mem hm)

/-- Are the written members found by the names, and nothing else under these? -/
def FoundByName (Stands : σ → τ → Prop) (names : List String) (es : List (String × σ))
    (ms : List (String × τ)) : Prop :=
  ∀ name ∈ names, MembersStand Stands (es.filter fun e => e.1 = name)
    (ms.filter fun m => m.1 = name)

namespace FoundByName

variable {names : List String} {name : String} {v : τ} {es : List (String × σ)}
  {ms : List (String × τ)}

/-- A member that is written stands under its name. -/
theorem single (h : FoundByName Stands (name :: names) es ((name, v) :: ms))
    (hms : name ∉ ms.map Prod.fst) :
    ∃ e, es.filter (fun e => e.1 = name) = [e] ∧ Stands e.2 v := by
  have hname := h name (List.mem_cons_self ..)
  rw [List.filter_cons_of_pos (by simp), filter_name_of_notMem hms] at hname
  obtain ⟨e, es', ⟨-, he⟩, hnil, heq⟩ := List.forall₂_cons_right_iff.mp hname
  cases hnil
  exact ⟨e, heq, he⟩

/-- Nothing stands under the name of a member that is left out. -/
theorem missing (h : FoundByName Stands (name :: names) es ms) (hms : name ∉ ms.map Prod.fst) :
    es.filter (fun e => e.1 = name) = [] := by
  have hname := h name (List.mem_cons_self ..)
  rw [filter_name_of_notMem hms] at hname
  exact List.forall₂_nil_right_iff.mp hname

theorem rest (h : FoundByName Stands (name :: names) es ms) : FoundByName Stands names es ms :=
  fun name' hname' => h name' (List.mem_cons_of_mem _ hname')

theorem rest_cons (h : FoundByName Stands (name :: names) es ((name, v) :: ms))
    (hnames : name ∉ names) : FoundByName Stands names es ms := by
  intro name' hname'
  have hne : name ≠ name' := fun heq => hnames (heq ▸ hname')
  have hfound := h.rest name' hname'
  rwa [List.filter_cons_of_neg (by simpa using hne)] at hfound

end FoundByName

/-! ## Layouts -/

variable {good : String → Bool}

mutual

/-- The value of a layout is read back from a place where its tree stands. -/
theorem Layout.read_write (h : r.Inverts w Stands) : {α : Type} → (l : Layout α) → {a : α} →
    {p : σ} → l.wellFormed good = true → Stands p (l.write w a) → l.read r p = .ok a
  | _, .bool, _, _, _, hp => by
    simp only [Layout.write] at hp
    simp only [Layout.read, h.bool hp, recognised]
  | _, .word _, _, _, _, hp => by
    simp only [Layout.write] at hp
    simp only [Layout.read, h.readWord hp]
  | _, .prefixLen, len, _, _, hp => by
    simp only [Layout.write] at hp
    simp only [Layout.read, h.readNat (readPrefixLen_val len) hp]
  | _, .text, _, _, _, hp => by
    simp only [Layout.write] at hp
    simp only [Layout.read, h.text hp, recognised]
  | _, .uuid, _, _, _, hp => by
    simp only [Layout.write] at hp
    simp only [Layout.read, h.uuid hp, recognised]
  | _, .octets _, _, _, _, hp => by
    simp only [Layout.write] at hp
    obtain ⟨items, hitems, hclosed, hvalues⟩ := h.tuple hp
    simp only [Layout.read, hitems, recognised, bind, Except.bind, h.readOctets hvalues,
      Items.endsAt, hclosed, List.isEmpty_nil, Bool.or_true, Bool.and_self, ensure, if_pos]
    rfl
  | _, .list l, _, _, hl, hp => by
    simp only [Layout.write] at hp
    obtain ⟨items, hitems, hclosed, hvalues⟩ := h.list hp
    have hread := mapM_of_forall₂ (fun a _ q hq => Layout.read_write h l hl hq) hvalues
    simp only [Layout.read, hitems, recognised, bind, Except.bind, hread, hclosed, ensure, if_pos]
    rfl
  | _, .dict l, _, _, hl, hp => by
    simp only [Layout.write] at hp
    obtain ⟨es, hdict, hes⟩ := h.dict hp
    have hread := Entries.readValues_ofMembers (fun a _ q hq => Layout.read_write h l hl hq) hes
    have hclosed : (Entries.ofMembers es).closed = true := rfl
    simp only [Layout.read, hdict, recognised, bind, Except.bind, hread, hclosed, ensure, if_pos]
    rfl
  | _, .record name fields, _, _, hl, hp => by
    simp only [Layout.wellFormed, Bool.and_eq_true, decide_eq_true_iff] at hl
    simp only [Layout.write] at hp
    obtain ⟨parts, hrecord, hparts⟩ := h.record name hp
    simp only [Layout.read, hrecord, recognised, bind, Except.bind]
    exact Fields.read_write h fields hl.1.2 hl.2 hparts
  | _, .choice variants, _, _, hl, hp => by
    simp only [Layout.wellFormed, Bool.and_eq_true, decide_eq_true_iff] at hl
    simp only [Layout.write] at hp
    obtain ⟨choice, hvariant, hends, -, hread⟩ := Variants.read_write h variants hl.1.2 hl.2 hp
    simp only [Layout.read, hvariant, recognised, bind, Except.bind, hread, hends, ensure, if_pos]
    rfl
  | _, .via make parts make_parts l, b, _, hl, hp => by
    simp only [Layout.write] at hp
    simp only [Layout.read, Layout.read_write h l hl hp, Except.map, make_parts]

theorem Fields.read_write (h : r.Inverts w Stands) : {α : Type} → (fields : Fields α) → {a : α} →
    {parts : Parts σ} → fields.names.Nodup → fields.wellFormed good = true →
      parts.Hold Stands (fields.write w a) → fields.read r parts = .ok a
  | _, fields, a, _, hnodup, hfields, ⟨es, ms, hparts, hes, hperm⟩ => by
    subst hparts
    have hsub := Fields.names_write_sublist w fields a
    have hfound : FoundByName Stands fields.names ((Entries.ofMembers es).placed.map Prod.snd)
        (fields.write w a) := fun name _ => by
      rw [Entries.placed_ofMembers, ← filter_name_of_perm hperm (hnodup.sublist hsub)]
      exact hes.filter_name name
    have hread := Fields.readNamed_write h fields (Entries.ofMembers es).values.length hnodup
      hfields hfound
    have hcheck : (Entries.ofMembers es).check r fields.names = .ok () := by
      refine Entries.check_ofMembers_iff.mpr fun e he => .inl ?_
      obtain ⟨m, hm, hname⟩ := hes.exists_name he
      rw [hname]
      exact hsub.subset (List.mem_map_of_mem (hperm.subset hm))
    simp only [Fields.read, hread, hcheck, Located.both, Located.value, bind, Except.bind]
    rfl

/-- Each field is found under its name. -/
theorem Fields.readNamed_write (h : r.Inverts w Stands) : {α : Type} → (fields : Fields α) →
    {a : α} → {members : Members σ} → (size : Nat) → fields.names.Nodup →
      fields.wellFormed good = true →
      FoundByName Stands fields.names (members.map Prod.snd) (fields.write w a) →
      fields.readNamed r members size = .ok a
  | _, .nil, (), _, _, _, _, _ => by simp only [Fields.readNamed]
  | _, .needed name default l rest, (a, b), _, size, hnodup, hfields, hes => by
    simp only [Fields.wellFormed, Bool.and_eq_true] at hfields
    simp only [Fields.names, Fields.write] at hnodup hes
    obtain ⟨hname, hnodup⟩ := List.nodup_cons.mp hnodup
    have hwritten := mt (fun hmem => (Fields.names_write_sublist w rest b).subset hmem) hname
    obtain ⟨e, hsingle, he⟩ := hes.single hwritten
    have hread := Layout.read_write h l hfields.1.2 he
    have hrest := Fields.readNamed_write h rest size hnodup hfields.2 (hes.rest_cons hname)
    simp only [Fields.readNamed, pick_of_single hsingle hread, hrest, Located.both]
  | _, .optional name _ l rest, (o, b), _, size, hnodup, hfields, hes => by
    simp only [Fields.wellFormed, Bool.and_eq_true] at hfields
    simp only [Fields.names, Fields.write] at hnodup hes
    obtain ⟨hname, hnodup⟩ := List.nodup_cons.mp hnodup
    have hwritten := mt (fun hmem => (Fields.names_write_sublist w rest b).subset hmem) hname
    cases hv : w.optional (o.map (l.write w)) with
    | none =>
      obtain rfl : o = none := h.eq_none_of_left_out hv
      rw [hv, Option.map_none, Option.toList_none, List.nil_append] at hes
      have hrest := Fields.readNamed_write h rest size hnodup hfields.2 hes.rest
      simp only [Fields.readNamed, pick_of_missing (hes.missing hwritten), hrest, Located.both]
    | some v =>
      rw [hv, Option.map_some, Option.toList_some, List.singleton_append] at hes
      obtain ⟨e, hsingle, he⟩ := hes.single hwritten
      have hread := h.readOptional (fun a _ q hq => Layout.read_write h l hfields.1.2 hq) hv he
      have hrest := Fields.readNamed_write h rest size hnodup hfields.2 (hes.rest_cons hname)
      simp only [Fields.readNamed, pick_of_single hsingle hread, hrest, Located.both]

theorem Payload.read_write (h : r.Inverts w Stands) : {α : Type} → (payload : Payload α) →
    {a : α} → {choice : Choice σ} → payload.wellFormed good = true →
      choice.Holds Stands (payload.write w a) → payload.read r choice = .ok a
  | _, .nothing, _, _, _, hc => by
    simp only [Payload.write, Choice.Holds] at hc
    simp only [Payload.read, hc, ensure, if_pos]
  | _, .value l, _, _, hl, hc => by
    simp only [Payload.write, Choice.Holds] at hc
    obtain ⟨p, hvalue, hp⟩ := hc
    simp only [Payload.read, hvalue, recognised, bind, Except.bind, Layout.read_write h l hl hp]
  | _, .fields fields, _, _, hl, hc => by
    simp only [Payload.wellFormed, Bool.and_eq_true, decide_eq_true_iff] at hl
    simp only [Payload.write, Choice.Holds] at hc
    obtain ⟨parts, hparts, hhold⟩ := hc
    simp only [Payload.read, hparts, recognised, bind, Except.bind]
    exact Fields.read_write h fields hl.1.2 hl.2 hhold

/-- No variant in front has the name of the one that was written. -/
theorem Variants.read_write (h : r.Inverts w Stands) : {α : Type} → (variants : Variants α) →
    {a : α} → {p : σ} → variants.names.Nodup → variants.wellFormed good = true →
      Stands p (variants.write w a) →
      ∃ choice, r.variant? p = some choice ∧ choice.ends = true ∧ choice.name ∈ variants.names ∧
        variants.read r choice = .ok a
  | _, .nil, e, _, _, _, _ => nomatch e
  | _, .cons name payload rest, .inl a, _, _, hl, hp => by
    simp only [Variants.wellFormed, Bool.and_eq_true] at hl
    simp only [Variants.write] at hp
    obtain ⟨choice, hvariant, hname, hends, hc⟩ := h.variant hp
    refine ⟨choice, hvariant, hends, by simp [Variants.names, hname], ?_⟩
    simp only [Variants.read, if_pos hname, Payload.read_write h payload hl.1.2 hc, Except.map]
  | _, .cons name payload rest, .inr b, _, hnodup, hl, hp => by
    simp only [Variants.wellFormed, Bool.and_eq_true] at hl
    simp only [Variants.write] at hp
    rw [Variants.names, List.nodup_cons] at hnodup
    obtain ⟨choice, hvariant, hends, hmem, hread⟩ :=
      Variants.read_write h rest hnodup.2 hl.2 hp
    have hne : choice.name ≠ name := fun heq => hnodup.1 (heq ▸ hmem)
    refine ⟨choice, hvariant, hends, List.mem_cons_of_mem _ hmem, ?_⟩
    simp only [Variants.read, if_neg hne, hread, Except.map]

end

end FlowRules
