import FlowRules.Proofs.Toml.Changes
import FlowRules.Proofs.Toml.Lines

/-!
# Printed documents read back

A document of tables with distinct names is read back from its text, with the members of
each table in ascending order of their names (`parse_print`).

What the statements of one table do is said as one change of the table around it : the
part that they make (`node`) is put under the table's name (`Writes`). The part tells
whether the table is opened or comes about on the way to the tables in it. The values of
a table come first, while it is open. The tables in it come after them, each with
statements of its own that name the whole path, so it does not matter for them what is
open.
-/

namespace FlowRules.Toml

open Node
open Table (ordered)

/-! ## Trees of tables -/

/-- A value that is read back from a line, or a table of such values and tables under
distinct names, with tables in it that are nested no deeper than the depth. -/
inductive IsTree : Nat → Toml → Prop
  | value {depth : Nat} {v : Toml} (h : IsPlain maxDepth v) : IsTree depth v
  | table {depth : Nat} {members : List (String × Toml)} (hnames : (members.map Prod.fst).Nodup)
    (h : ∀ m ∈ members, IsTree depth m.2) : IsTree (depth + 1) (.table members)

theorem isTable_of_isPlain {depth : Nat} {v : Toml} (h : IsPlain depth v) : v.isTable = false := by
  cases h <;> rfl

mutual

/-- The value with the members of its tables in ascending order. -/
def arranged : Toml → Toml
  | table members => table (ordered (arrangedMembers members))
  | v => v

/-- The members, each arranged. -/
def arrangedMembers : List (String × Toml) → List (String × Toml)
  | [] => []
  | (name, v) :: ms => (name, v.arranged) :: arrangedMembers ms

end

theorem arrangedMembers_eq_map (members : List (String × Toml)) :
    arrangedMembers members = members.map fun m => (m.1, m.2.arranged) := by
  induction members with
  | nil => rfl
  | cons m ms ih => rw [arrangedMembers, ih, List.map_cons]

theorem arranged_of_not_isTable {v : Toml} (h : v.isTable = false) : v.arranged = v := by
  cases v with
  | table => exact absurd h (by simp [isTable])
  | _ => rfl

/-! ## The statements of a table -/

theorem valueStatements_eq_map (members : List (String × Toml)) :
    valueStatements members =
      (members.filter fun m => !m.2.isTable).map fun m => .assign [m.1] m.2 := by
  induction members with
  | nil => rfl
  | cons m ms ih =>
    cases hm : m.2.isTable <;> simp [valueStatements, ih, hm]

theorem tableStatements_of_not_isTable (path : List String) {v : Toml} (h : v.isTable = false) :
    tableStatements path v = [] := by
  cases v with
  | table => exact absurd h (by simp [isTable])
  | _ => rfl

theorem innerStatements_eq_flatMap (path : List String) (members : List (String × Toml)) :
    innerStatements path members = (members.filter fun m => m.2.isTable).flatMap fun m =>
      tableStatements (path ++ [m.1]) m.2 := by
  induction members with
  | nil => rfl
  | cons m ms ih =>
    cases hm : m.2.isTable with
    | true => simp [innerStatements, ih, hm]
    | false => simp [innerStatements, ih, hm, tableStatements_of_not_isTable _ hm]

/-- Every statement of a document is read back from its line. -/
theorem isPlain_of_mem_tableStatements {depth : Nat} {v : Toml} (hv : IsTree depth v)
    {path : List String} (hpath : path.length + depth ≤ maxNames + 1) {s : Statement}
    (hs : s ∈ tableStatements path v) : s.IsPlain := by
  induction hv generalizing path with
  | value hplain =>
    rw [tableStatements_of_not_isTable path (isTable_of_isPlain hplain)] at hs
    exact absurd hs List.not_mem_nil
  | @table depth members _ hmembers ih =>
    rw [tableStatements, List.mem_append, List.mem_append] at hs
    rcases hs with (hs | hs) | hs
    · split at hs
      · exact absurd hs List.not_mem_nil
      · rename_i hopen
        obtain rfl := List.mem_singleton.mp hs
        simp only [Bool.or_eq_true, not_or, Bool.not_eq_true] at hopen
        simp only [Statement.IsPlain, isPath, hopen.1, Bool.not_false, Bool.true_and,
          decide_eq_true_iff]
        omega
    · rw [valueStatements_eq_map, List.mem_map] at hs
      obtain ⟨m, hm, rfl⟩ := hs
      rw [List.mem_filter, Bool.not_eq_true'] at hm
      refine ⟨rfl, ?_⟩
      have hvalue := hmembers m hm.1
      generalize m.2 = v at hm hvalue
      cases hvalue with
      | value hplain => exact hplain
      | table => exact absurd hm.2 (by simp [isTable])
    · rw [innerStatements_eq_flatMap, List.mem_flatMap] at hs
      obtain ⟨m, hm, hs⟩ := hs
      refine ih m (List.mem_filter.mp hm).1 ?_ hs
      rw [List.length_append, List.length_singleton]
      omega

/-! ## The part that a value makes -/

mutual

/-- The part of a document that the statements of the value make. -/
def node : Toml → Node
  | table members =>
    .table (if (valueStatements members).isEmpty && !members.isEmpty then .onTheWay else .opened)
      (ordered (nodes members))
  | v => .value v

/-- The parts that the members make. -/
def nodes : List (String × Toml) → Node.Members
  | [] => []
  | (name, v) :: ms => (name, v.node) :: nodes ms

end

theorem nodes_eq_map (members : List (String × Toml)) :
    nodes members = members.map fun m => (m.1, m.2.node) := by
  induction members with
  | nil => rfl
  | cons m ms ih => rw [nodes, ih, List.map_cons]

theorem node_of_not_isTable {v : Toml} (h : v.isTable = false) : v.node = .value v := by
  cases v with
  | table => exact absurd h (by simp [isTable])
  | _ => rfl

theorem membersToToml_eq_map (members : Node.Members) :
    membersToToml members = members.map fun m => (m.1, m.2.toToml) := by
  induction members with
  | nil => rfl
  | cons m ms ih => rw [membersToToml, ih, List.map_cons]

theorem membersToToml_ordered (members : Node.Members) :
    membersToToml (ordered members) = ordered (membersToToml members) := by
  rw [membersToToml_eq_map, membersToToml_eq_map, Table.ordered_map]

mutual

/-- The part is the arranged value in the end. -/
theorem toToml_node : (v : Toml) → v.node.toToml = v.arranged
  | table members => by
    rw [node, toToml, arranged, membersToToml_ordered, membersToToml_nodes]
  | bool _ => rfl
  | int _ => rfl
  | number _ => rfl
  | text _ => rfl
  | time => rfl
  | array _ => rfl

theorem membersToToml_nodes : (members : List (String × Toml)) →
    membersToToml (nodes members) = arrangedMembers members
  | [] => rfl
  | (name, v) :: ms => by
    rw [nodes, membersToToml, arrangedMembers, toToml_node v, membersToToml_nodes ms]

end

/-- The parts that the values among the members make. -/
def valueNodes (members : List (String × Toml)) : Node.Members :=
  nodes (members.filter fun m => !m.2.isTable)

/-- The parts that the tables among the members make. -/
def tableNodes (members : List (String × Toml)) : Node.Members :=
  nodes (members.filter fun m => m.2.isTable)

/-- Values first and tables after them, the members are complete. -/
theorem putAll_nodes {members : List (String × Toml)} (hnames : (members.map Prod.fst).Nodup) :
    (putAll (valueNodes members) []).bind (putAll (tableNodes members)) =
      some (ordered (nodes members)) := by
  have hperm : (valueNodes members ++ tableNodes members).Perm (nodes members) := by
    simp only [valueNodes, tableNodes, nodes_eq_map, ← List.map_append]
    exact List.Perm.map _ (List.perm_append_comm.trans (List.filter_append_perm ..))
  have hnodes : ((nodes members).map Prod.fst).Nodup := by
    rw [nodes_eq_map, List.map_map]
    exact hnames
  have hboth : ((valueNodes members ++ tableNodes members).map Prod.fst).Nodup :=
    (hperm.map Prod.fst).nodup_iff.mpr hnodes
  rw [← putAll_append, putAll_nil hboth]
  exact congrArg some (Table.eq_ordered (Table.ordered_sorted _) hnodes
    ((Table.ordered_perm hboth).trans hperm))

/-! ## Statements carried out -/

section Steps

variable {q : List String} {doc doc' : Node.Members}

theorem step_openTable (q : List String) (name : String) (opened : List String)
    (doc : Node.Members) :
    step (opened, doc) (.openTable (q ++ [name])) =
      (within (alter name openTable) q doc).map fun ms => (q ++ [name], ms) := by
  simp [step, step.openAt]

theorem step_assign (name : String) (v : Toml) (q : List String) (doc : Node.Members) :
    step (q, doc) (.assign [name] v) =
      (within (alter name (put (.value v))) q doc).map fun ms => (q, ms) := by
  have hassign : assign v [name] = alter name (put (.value v)) := by
    funext members
    rw [assign]
    congr 1
  rw [step, hassign]

/-- Values are put into the open table. -/
theorem foldlM_assign {values : List (String × Toml)} (hvalues : ∀ m ∈ values, m.2.isTable = false)
    (hq : HasTable q doc) (h : within (putAll (nodes values)) q doc = some doc') :
    (values.map fun m => Statement.assign [m.1] m.2).foldlM step (q, doc) = some (q, doc') := by
  induction values generalizing doc with
  | nil =>
    obtain rfl := Option.some.inj (hq.symm.trans h)
    rfl
  | cons m ms ih =>
    obtain ⟨d, hm, hms⟩ := within_putAll_cons h
    rw [node_of_not_isTable (hvalues m (List.mem_cons_self ..))] at hm
    rw [List.map_cons, List.foldlM_cons, step_assign, hm]
    exact ih (fun m' hm' => hvalues m' (List.mem_cons_of_mem m hm')) (hasTable_of_within hm) hms

/-- Do the statements of the table put its part under its name, whatever table is open? -/
def Writes (v : Toml) : Prop :=
  ∀ (opened q : List String) {name : String} {doc doc' : Node.Members},
    within (alter name (put v.node)) q doc = some doc' →
      ∃ opened', (tableStatements (q ++ [name]) v).foldlM step (opened, doc) = some (opened', doc')

/-- Tables are put into the table around them, which the first of them may have to make. -/
theorem foldlM_tables (opened : List String) {tables : List (String × Toml)}
    (htables : ∀ m ∈ tables, Writes m.2) (hq : tables = [] → HasTable q doc)
    (h : within (putAll (nodes tables)) q doc = some doc') :
    ∃ opened', (tables.flatMap fun m => tableStatements (q ++ [m.1]) m.2).foldlM step
      (opened, doc) = some (opened', doc') := by
  induction tables generalizing opened doc with
  | nil =>
    obtain rfl := Option.some.inj ((hq rfl).symm.trans h)
    exact ⟨opened, rfl⟩
  | cons m ms ih =>
    obtain ⟨d, hm, hms⟩ := within_putAll_cons h
    obtain ⟨opened', hstep⟩ := htables m (List.mem_cons_self ..) opened q hm
    obtain ⟨opened'', hrest⟩ := ih opened' (fun m' hm' => htables m' (List.mem_cons_of_mem m hm'))
      (fun _ => hasTable_of_within hm) hms
    refine ⟨opened'', ?_⟩
    rw [List.flatMap_cons, List.foldlM_append, hstep]
    exact hrest

/-- The statements of what is in a table carry out what is put there, values first. -/
theorem foldlM_members {members : List (String × Toml)}
    (htables : ∀ m ∈ members, m.2.isTable = true → Writes m.2) (hq : HasTable q doc)
    (h : (within (putAll (valueNodes members)) q doc).bind
      (within (putAll (tableNodes members)) q) = some doc') :
    ∃ opened', (valueStatements members ++ innerStatements q members).foldlM step (q, doc) =
      some (opened', doc') := by
  obtain ⟨d, hvalues, hinner⟩ := Option.bind_eq_some_iff.mp h
  have hfirst := foldlM_assign (fun m hm => by simpa using (List.mem_filter.mp hm).2) hq hvalues
  obtain ⟨opened', hrest⟩ := foldlM_tables q
    (fun m hm => htables m (List.mem_filter.mp hm).1 (List.mem_filter.mp hm).2)
    (fun _ => hasTable_of_within hvalues) hinner
  refine ⟨opened', ?_⟩
  rw [valueStatements_eq_map, innerStatements_eq_flatMap, List.foldlM_append, hfirst]
  exact hrest

/-- A table that comes about on the way to the tables in it. -/
theorem writes_of_onTheWay {members : List (String × Toml)}
    (hnames : (members.map Prod.fst).Nodup)
    (htables : ∀ m ∈ members, m.2.isTable = true → Writes m.2)
    (hway : ((valueStatements members).isEmpty && !members.isEmpty) = true) :
    Writes (table members) := by
  intro opened q name doc doc' h
  have hpath : (q ++ [name]).isEmpty = false := by simp
  have hway' := hway
  rw [Bool.and_eq_true, List.isEmpty_iff, valueStatements_eq_map, List.map_eq_nil_iff,
    Bool.not_eq_true', List.isEmpty_eq_false_iff] at hway'
  obtain ⟨hvalues, hne⟩ := hway'
  have hput := putAll_nodes hnames
  have hmake : inside (putAll (tableNodes members)) none = some (node (table members)) := by
    rw [valueNodes, hvalues] at hput
    have hinner : putAll (tableNodes members) [] = some (ordered (nodes members)) := hput
    rw [inside, hinner, node, hway]
    rfl
  have hinner : within (putAll (tableNodes members)) (q ++ [name]) doc = some doc' := by
    rw [within_append]
    exact within_alter_of_put hmake h
  have hsome : members.filter (fun m => m.2.isTable) ≠ [] := by
    obtain ⟨m, hm⟩ := List.exists_mem_of_ne_nil members hne
    refine List.ne_nil_of_mem (List.mem_filter.mpr ⟨hm, ?_⟩)
    simpa using List.filter_eq_nil_iff.mp hvalues m hm
  rw [tableStatements, hpath, hway, innerStatements_eq_flatMap, valueStatements_eq_map, hvalues]
  exact foldlM_tables opened
    (fun m hm => htables m (List.mem_filter.mp hm).1 (List.mem_filter.mp hm).2)
    (fun hnil => absurd hnil hsome) hinner

/-- A table that is opened. -/
theorem writes_of_opened {members : List (String × Toml)} (hnames : (members.map Prod.fst).Nodup)
    (htables : ∀ m ∈ members, m.2.isTable = true → Writes m.2)
    (hopen : ((valueStatements members).isEmpty && !members.isEmpty) = false) :
    Writes (table members) := by
  intro opened q name doc doc' h
  have hpath : (q ++ [name]).isEmpty = false := by simp
  obtain ⟨ms, hvalues, hinner⟩ := Option.bind_eq_some_iff.mp (putAll_nodes hnames)
  have hnode : node (table members) = .table .opened (ordered (nodes members)) := by
    rw [node, hopen]
    rfl
  have hmake : ((openTable none).bind fun n => inside (putAll (valueNodes members)) (some n)).bind
      (fun n => inside (putAll (tableNodes members)) (some n)) = some (node (table members)) := by
    simp only [openTable, inside, Option.bind_some, hvalues, hinner, Option.map_some, hnode]
  have hchange := within_alter_of_put (f := fun o => ((openTable o).bind fun n =>
    inside (putAll (valueNodes members)) (some n)).bind fun n =>
      inside (putAll (tableNodes members)) (some n)) hmake h
  rw [within_alter_bind, within_alter_bind] at hchange
  obtain ⟨d, hd, hrest⟩ := Option.bind_eq_some_iff.mp hchange
  obtain ⟨d₀, hopened, hd⟩ := Option.bind_eq_some_iff.mp hd
  obtain ⟨opened', hsteps⟩ := foldlM_members htables (hasTable_of_openTable hopened)
    (Option.bind_eq_some_iff.mpr ⟨d, hd, hrest⟩)
  refine ⟨opened', ?_⟩
  rw [tableStatements, hpath, hopen, List.append_assoc, List.foldlM_append]
  simp only [Bool.or_self, Bool.false_eq_true, if_false, List.foldlM_cons, List.foldlM_nil,
    step_openTable, hopened]
  exact hsteps

theorem writes_of_isTree {depth : Nat} {v : Toml} (hv : IsTree depth v)
    (htable : v.isTable = true) : Writes v := by
  induction hv with
  | value h => exact absurd (htable.symm.trans (isTable_of_isPlain h)) (by decide)
  | @table depth members hnames _ ih =>
    by_cases hway : ((valueStatements members).isEmpty && !members.isEmpty) = true
    · exact writes_of_onTheWay hnames ih hway
    · exact writes_of_opened hnames ih (Bool.eq_false_iff.mpr hway)

end Steps

/-! ## Documents -/

section Documents

variable {members : List (String × Toml)} {depth : Nat}

/-- The statements of a document make the document. -/
theorem ofStatements?_toStatements (h : IsTree depth (table members)) :
    ofStatements? (toStatements members) = some (ordered (arrangedMembers members)) := by
  cases h with
  | value h => exact absurd (isTable_of_isPlain h) (by simp [isTable])
  | @table depth _ hnames hinner =>
    obtain ⟨opened, hsteps⟩ := foldlM_members (q := [])
      (fun m hm htable => writes_of_isTree (hinner m hm) htable) rfl (putAll_nodes hnames)
    have hstatements : toStatements members =
        valueStatements members ++ innerStatements [] members := by
      rw [toStatements, tableStatements]
      rfl
    have hmembers :
        membersToToml (ordered (nodes members)) = ordered (arrangedMembers members) := by
      rw [membersToToml_ordered, membersToToml_nodes]
    rw [ofStatements?, hstatements, hsteps]
    exact congrArg some hmembers

/-- A document is read back from its text, with its members in order. -/
theorem parse_print (h : IsTree (maxNames + 1) (table members)) :
    parse (print members) = some (ordered (arrangedMembers members)) := by
  have hplain : ∀ s ∈ toStatements members, s.IsPlain := fun s hs =>
    isPlain_of_mem_tableStatements h (by simp) hs
  rw [parse, print, statements?_printStatements hplain, Option.bind_some,
    ofStatements?_toStatements h]

end Documents

end FlowRules.Toml
