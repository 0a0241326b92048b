import FlowRules.Proofs.Layout.ReadWrite
import FlowRules.Proofs.Text.Identifier
import FlowRules.Proofs.Toml.Tables
import FlowRules.Rules.RuleSet

/-!
# Sets of rules in TOML read back

A set of rules is read back from its text (`ConditionSet.ofToml_toToml`). The text is that of
a document of tables, since whatever a condition holds is either written in a line or a
record again (`Layout.isTabular`), and such a document is read back but for the order of the
members in each table. The fields of a record are found by their names in any order. Only a
dictionary needs its members in the order they had, and a set of rules lists them in that
order already (`orderedWriter`).
-/

namespace FlowRules

namespace Toml

/-! ## What is recognised -/

/-- Does the tree stand there with its tables in order? -/
def StandsArranged (p v : Toml) : Prop := (∃ depth, IsTree depth v) ∧ p = v.arranged

/-- How values are written in TOML, for dictionaries in ascending order only. Instead of any
other one there is something that cannot be read back. -/
def orderedWriter : DataWriter Toml :=
  { writer with
    dict := fun ms =>
      if ms.Pairwise fun a b => compare a.1 b.1 = .lt then table ms else number false }

theorem IsPlain.succ {depth : Nat} {v : Toml} (h : IsPlain depth v) : IsPlain (depth + 1) v := by
  induction h with
  | bool _ b => exact .bool _ b
  | nat _ n => exact .nat _ n
  | text _ s => exact .text _ s
  | array _ ih => exact .array ih

theorem IsPlain.of_mem {depth : Nat} {items : List Toml} (h : IsPlain depth (.array items)) :
    ∀ v ∈ items, IsPlain depth v := by
  cases h with
  | array h => exact fun v hv => (h v hv).succ

theorem IsTree.isPlain {depth : Nat} {v : Toml} (h : IsTree depth v) (hv : v.isTable = false) :
    IsPlain maxDepth v := by
  cases h with
  | value h => exact h
  | table => exact absurd hv (by simp [isTable])

theorem IsTree.of_table {depth : Nat} {members : List (String × Toml)}
    (h : IsTree depth (.table members)) :
    (members.map Prod.fst).Nodup ∧ ∀ m ∈ members, ∃ depth, IsTree depth m.2 := by
  cases h with
  | value h => exact absurd (isTable_of_isPlain h) (by simp [isTable])
  | table hnames h => exact ⟨hnames, fun m hm => ⟨_, h m hm⟩⟩

/-- The items of an array stand where they are. -/
theorem items_hold {depth : Nat} {vs : List Toml} (h : IsTree depth (array vs)) :
    (Items.mk vs true true).Hold StandsArranged vs := by
  refine ⟨rfl, List.forall₂_same.mpr fun v hv => ?_⟩
  have hplain := (h.isPlain rfl).of_mem v hv
  exact ⟨⟨0, .value hplain⟩, (arranged_of_not_isTable (isTable_of_isPlain hplain)).symm⟩

theorem membersStand_arranged {members : List (String × Toml)}
    (h : ∀ m ∈ members, ∃ depth, IsTree depth m.2) :
    MembersStand StandsArranged (arrangedMembers members) members := by
  rw [arrangedMembers_eq_map]
  exact List.forall₂_map_left_iff.mpr (List.forall₂_same.mpr fun m hm => ⟨rfl, h m hm, rfl⟩)

theorem parts_hold {depth : Nat} {members : List (String × Toml)}
    (h : IsTree depth (table members)) :
    ∃ parts, (table members).arranged.parts? = some parts ∧ parts.Hold StandsArranged members := by
  obtain ⟨hnames, hmembers⟩ := h.of_table
  have hperm := Table.ordered_perm hnames
  have horder : Table.ordered (arrangedMembers members) =
      arrangedMembers (Table.ordered members) := by
    rw [arrangedMembers_eq_map, arrangedMembers_eq_map, Table.ordered_map]
  refine ⟨_, rfl, arrangedMembers (Table.ordered members), Table.ordered members, ?_,
    membersStand_arranged fun m hm => hmembers m (hperm.mem_iff.mp hm), hperm⟩
  rw [horder]
  rfl

/-- The reader recognises what the writer makes. -/
theorem reader_inverts : reader.Inverts orderedWriter StandsArranged where
  bool := by
    rintro p b ⟨-, rfl⟩
    rfl
  nat := by
    rintro p n bits ⟨-, rfl⟩
    rfl
  text := by
    rintro p s ⟨-, rfl⟩
    rfl
  uuid := by
    rintro p bits ⟨-, rfl⟩
    simp only [reader, orderedWriter, writer, arranged, identifier?]
    exact uuid?_uuidText bits
  tuple := by
    rintro p vs ⟨⟨depth, htree⟩, rfl⟩
    exact ⟨_, rfl, items_hold htree⟩
  list := by
    rintro p vs ⟨⟨depth, htree⟩, rfl⟩
    exact ⟨_, rfl, items_hold htree⟩
  dict := by
    rintro p ms ⟨⟨depth, htree⟩, rfl⟩
    simp only [orderedWriter] at htree ⊢
    split at htree
    · rename_i hsorted
      have horder : Table.ordered (arrangedMembers ms) = arrangedMembers ms := by
        refine Table.ordered_of_sorted ?_
        rw [arrangedMembers_eq_map]
        exact List.pairwise_map.mpr hsorted
      refine ⟨arrangedMembers ms, ?_, membersStand_arranged htree.of_table.2⟩
      rw [if_pos hsorted, arranged, horder]
      rfl
    · exact absurd (htree.isPlain rfl) nofun
  record := by
    rintro p ms name ⟨⟨depth, htree⟩, rfl⟩
    exact parts_hold htree
  absent := by
    intro p v hv
    exact absurd hv (by simp [orderedWriter, writer])
  present := by
    intro α l a
    exact ⟨_, rfl, fun {p} hp => ⟨p, rfl, hp⟩⟩
  variant := by
    rintro p name carried ⟨⟨depth, htree⟩, rfl⟩
    cases carried with
    | nothing => exact ⟨_, rfl, rfl, rfl, rfl⟩
    | value v =>
      have hv := htree.of_table.2 (name, v) (List.mem_singleton.mpr rfl)
      exact ⟨_, rfl, rfl, rfl, _, rfl, hv, rfl⟩
    | fields ms =>
      obtain ⟨depth', hms⟩ := htree.of_table.2 (name, table ms) (List.mem_singleton.mpr rfl)
      obtain ⟨parts, hparts, hold⟩ := parts_hold hms
      exact ⟨_, rfl, rfl, rfl, parts, hparts, hold⟩

end Toml

/-! ## The trees of values -/

/-- Is the value one that is written in a line, in arrays that are nested no deeper than the
depth? -/
def Layout.isLine : {α : Type} → Nat → Layout α → Bool
  | _, depth, .octets _ => 0 < depth
  | _, depth, .list l => 0 < depth && l.isLine (depth - 1)
  | _, depth, .via _ _ _ l => l.isLine depth
  | _, _, .dict _ => false
  | _, _, .record _ _ => false
  | _, _, .choice _ => false
  | _, _, _ => true

mutual

/-- Is the value one that is written in a line, or a record of such values and records under
distinct names, with records in it that are nested no deeper than the depth? -/
def Layout.isTabular : {α : Type} → Nat → Layout α → Bool
  | _, depth, .record _ fields =>
    0 < depth && fields.names.Nodup && fields.isTabular (depth - 1)
  | _, depth, .via _ _ _ l => l.isTabular depth
  | _, _, l => l.isLine Toml.maxDepth

/-- Are the fields tabular, each by itself? -/
def Fields.isTabular : {α : Type} → Nat → Fields α → Bool
  | _, _, .nil => true
  | _, depth, .needed _ _ l rest => l.isTabular depth && rest.isTabular depth
  | _, depth, .optional _ _ l rest => l.isTabular depth && rest.isTabular depth

end

/-- What is written in a line is read back from it. -/
theorem Layout.isPlain_write : {α : Type} → (l : Layout α) → {depth : Nat} →
    l.isLine depth = true → (a : α) → Toml.IsPlain depth (l.write Toml.writer a)
  | _, .bool, _, _, b => .bool _ b
  | _, .word _, _, _, x => .nat _ x.toNat
  | _, .prefixLen, _, _, len => .nat _ len.val
  | _, .text, _, _, s => .text _ s
  | _, .uuid, _, _, bits => .text _ (uuidText bits)
  | _, .octets _, depth + 1, _, v => by
    refine .array fun o ho => ?_
    obtain ⟨o, -, rfl⟩ := List.mem_map.mp ho
    exact .nat _ o.toNat
  | _, .list l, depth + 1, hl, as => by
    refine .array fun v hv => ?_
    obtain ⟨a, -, rfl⟩ := List.mem_map.mp hv
    exact Layout.isPlain_write l hl a
  | _, .via _ parts _ l, _, hl, b => Layout.isPlain_write l hl (parts b)

mutual

/-- A tabular value is written as a tree of tables. -/
theorem Layout.isTree_write : {α : Type} → (l : Layout α) → {depth : Nat} →
    l.isTabular depth = true → (a : α) → Toml.IsTree depth (l.write Toml.writer a)
  | _, .record _ fields, depth + 1, hl, a => by
    rw [Layout.isTabular, Bool.and_eq_true, Bool.and_eq_true, decide_eq_true_iff,
      decide_eq_true_iff] at hl
    exact .table (hl.1.2.sublist (Fields.names_write_sublist Toml.writer fields a))
      (Fields.isTree_write fields hl.2 a)
  | _, .via _ parts _ l, _, hl, b => Layout.isTree_write l hl (parts b)
  | _, .bool, _, hl, b => .value (Layout.isPlain_write .bool hl b)
  | _, .word w, _, hl, x => .value (Layout.isPlain_write (.word w) hl x)
  | _, .prefixLen, _, hl, len => .value (Layout.isPlain_write .prefixLen hl len)
  | _, .text, _, hl, s => .value (Layout.isPlain_write .text hl s)
  | _, .uuid, _, hl, bits => .value (Layout.isPlain_write .uuid hl bits)
  | _, .octets n, _, hl, v => .value (Layout.isPlain_write (.octets n) hl v)
  | _, .list l, _, hl, as => .value (Layout.isPlain_write (.list l) hl as)

theorem Fields.isTree_write : {α : Type} → (fields : Fields α) → {depth : Nat} →
    fields.isTabular depth = true → (a : α) →
      ∀ m ∈ fields.write Toml.writer a, Toml.IsTree depth m.2
  | _, .nil, _, _, _ => fun _ hm => absurd hm List.not_mem_nil
  | _, .needed _ _ l rest, _, hl, (a, b) => by
    rw [Fields.isTabular, Bool.and_eq_true] at hl
    rintro m (_ | ⟨_, hm⟩)
    · exact Layout.isTree_write l hl.1 a
    · exact Fields.isTree_write rest hl.2 b m hm
  | _, .optional _ _ l rest, _, hl, (none, b) => by
    rw [Fields.isTabular, Bool.and_eq_true] at hl
    exact Fields.isTree_write rest hl.2 b
  | _, .optional _ _ l rest, _, hl, (some a, b) => by
    rw [Fields.isTabular, Bool.and_eq_true] at hl
    rintro m (_ | ⟨_, hm⟩)
    · exact Layout.isTree_write l hl.1 a
    · exact Fields.isTree_write rest hl.2 b m hm

end

/-! ## Values in tables -/

/-- A value that is written as tables, with its dictionaries in order, is read back from its
text. -/
theorem Layout.parseToml_printToml {α : Type} {l : Layout α} {a : α} {good : String → Bool}
    (hgood : l.wellFormed good = true) (htable : ∃ members, l.write Toml.writer a = .table members)
    (htree : Toml.IsTree (Toml.maxNames + 1) (l.write Toml.writer a))
    (hordered : l.write Toml.orderedWriter a = l.write Toml.writer a) :
    l.parseToml (l.printToml a) = .ok a := by
  have hread : l.read Toml.reader (l.write Toml.writer a).arranged = .ok a := by
    refine Layout.read_write Toml.reader_inverts l hgood ?_
    rw [hordered]
    exact ⟨⟨_, htree⟩, rfl⟩
  obtain ⟨members, hwrite⟩ := htable
  rw [hwrite] at htree hread
  simp only [parseToml, printToml, hwrite, Toml.members, Toml.parse_print htree, recognised, bind,
    Except.bind]
  exact hread

/-! ## Dictionaries in a field -/

section

variable {α : Type} {l : Layout α} {name field : String} {default : Option (List (String × α))}
  {entries : List (String × α)}

/-- The tables in which a dictionary is written are those of its values. -/
theorem Layout.isTree_write_dict (hl : l.isTabular (Toml.maxNames - 1) = true)
    (hsorted : entries.Pairwise fun a b => compare a.1 b.1 = .lt) :
    Toml.IsTree (Toml.maxNames + 1)
      ((record name (.needed field default (.dict l) .nil)).write Toml.writer (entries, ())) := by
  refine .table (List.pairwise_singleton ..) fun m hm => ?_
  obtain rfl := List.mem_singleton.mp hm
  refine @Toml.IsTree.table (Toml.maxNames - 1) _ ?_ fun m hm => ?_
  · rw [List.map_map]
    exact Table.nodup_of_sorted hsorted
  · obtain ⟨e, -, rfl⟩ := List.mem_map.mp hm
    exact Layout.isTree_write l hl e.2

/-- A dictionary in order is written in that order. -/
theorem Layout.write_orderedWriter_dict
    (hplain : ∀ a, l.write Toml.orderedWriter a = l.write Toml.writer a)
    (hsorted : entries.Pairwise fun a b => compare a.1 b.1 = .lt) :
    (record name (.needed field default (.dict l) .nil)).write Toml.orderedWriter (entries, ()) =
      (record name (.needed field default (.dict l) .nil)).write Toml.writer (entries, ()) := by
  have hvalues : (entries.map fun e => (e.1, l.write Toml.orderedWriter e.2)) =
      entries.map fun e => (e.1, l.write Toml.writer e.2) :=
    List.map_congr_left fun e _ => congrArg (e.1, ·) (hplain e.2)
  have hdict : Toml.orderedWriter.dict (entries.map fun e => (e.1, l.write Toml.writer e.2)) =
      .table (entries.map fun e => (e.1, l.write Toml.writer e.2)) :=
    if_pos (List.pairwise_map.mpr hsorted)
  exact congrArg (fun v => Toml.table [(field, v)])
    ((congrArg Toml.orderedWriter.dict hvalues).trans hdict)

/-- A dictionary in order is read back from its text. -/
theorem Layout.parseToml_printToml_dict {good : String → Bool}
    (hgood : (record name (.needed field default (.dict l) .nil)).wellFormed good = true)
    (hl : l.isTabular (Toml.maxNames - 1) = true)
    (hplain : ∀ a, l.write Toml.orderedWriter a = l.write Toml.writer a)
    (hsorted : entries.Pairwise fun a b => compare a.1 b.1 = .lt) :
    (record name (.needed field default (.dict l) .nil)).parseToml
      ((record name (.needed field default (.dict l) .nil)).printToml (entries, ())) =
        .ok (entries, ()) :=
  parseToml_printToml hgood ⟨_, rfl⟩ (isTree_write_dict hl hsorted)
    (write_orderedWriter_dict hplain hsorted)

end

/-! ## A type that is written as another one -/

section

variable {α β : Type} {make : α → β} {parts : β → α} {hmake : ∀ b, make (parts b) = b}
  {l : Layout α}

theorem Layout.parseToml_via (cs : List Char) :
    (via make parts hmake l).parseToml cs = (l.parseToml cs).map make := by
  simp only [parseToml, read]
  cases Toml.parse cs <;> rfl

/-- If what a value is written as is read back, so is the value. -/
theorem Layout.parseToml_printToml_via {b : β}
    (h : l.parseToml (l.printToml (parts b)) = .ok (parts b)) :
    (via make parts hmake l).parseToml ((via make parts hmake l).printToml b) = .ok b := by
  have hprint : (via make parts hmake l).printToml b = l.printToml (parts b) := rfl
  rw [parseToml_via, hprint, h]
  exact congrArg Except.ok (hmake b)

end

/-! ## Sets of rules -/

namespace ConditionSet

theorem isTabular_layout : Condition.layout.isTabular (Toml.maxNames - 1) = true := by
  decide +kernel

/-- Every set of rules is read back from its text. -/
theorem ofToml_toToml (set : ConditionSet) : ofToml set.toToml = .ok set := by
  have hparse : conditionSetLayout.parseToml set.toToml = .ok set :=
    Layout.parseToml_printToml_via <|
      Layout.parseToml_printToml_dict StoredType.conditionSet.wellFormed_layout isTabular_layout
        (fun _ => rfl) set.sorted
  rw [ofToml, hparse]
  rfl

end ConditionSet

end FlowRules
