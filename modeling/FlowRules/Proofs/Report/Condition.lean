import FlowRules.Proofs.Condition.Signs
import FlowRules.Proofs.Report.Columns
import FlowRules.Proofs.Text.ByteOrder
import FlowRules.Report.Condition
import Mathlib.Data.List.Forall2

/-!
# The table of conditions is complete and in columns

A line of the table is a row of three cells : the name, whether the condition is negated, and a
clause. The first two are empty but on the first line of a condition. So all rows have the same
number of cells, also the empty one behind several clauses, and the widths of the first two
columns are those of the whole table : the greatest width of a name or of the title above
(`columnWidth_name`), and three (`columnWidth_mark`).

No clause holds a tab or an end of a line, and if no name does either, each line shows one row
(`ConditionSet.table_complete`).
-/

namespace FlowRules

namespace Report

/-! ## The rows -/

/-- What stands in the last column below the first line of a condition. -/
def lowerCells (c : Condition) : List String :=
  if c.clauses.length ≤ 1 then [] else c.clauses.tail ++ [""]

theorem lowerCells_of_lt {c : Condition} (h : 1 < c.clauses.length) :
    lowerCells c = c.clauses.tail ++ [""] :=
  if_neg (Nat.not_le.mpr h)

/-- The cells of a condition under a name. -/
def conditionRows (name : String) (c : Condition) : List Row :=
  [name.toList, (yesNo c.negated).toList, (c.clauses.headD "*").toList] ::
    (lowerCells c).map fun cell => [[], [], cell.toList]

/-- The titles. -/
def headerRow : Row := ["NAME".toList, "INV".toList, "CLAUSES".toList]

/-- The cells of conditions under their names. -/
def tableRows (conditions : List (String × Condition)) : List Row :=
  headerRow :: conditions.flatMap fun (name, c) => conditionRows name c

theorem toList_conditionLines (name : String) (c : Condition) :
    (conditionLines name c).toList = rowsText (conditionRows name c) := by
  rw [conditionLines, conditionRows, lowerCells]
  cases hclauses : c.clauses with
  | nil => simp [rowsText, unlines, joinPieces]
  | cons clause more =>
    cases more with
    | nil => simp [rowsText, unlines, joinPieces]
    | cons clause' more =>
      simp [rowsText, unlines, joinPieces, List.flatMap_map, String.toList_join]

theorem rowsText_flatMap {α : Type} (xs : List α) (f : α → List Row) :
    rowsText (xs.flatMap f) = xs.flatMap fun x => rowsText (f x) := by
  simp [rowsText, unlines, List.map_flatMap, List.flatMap_assoc]

theorem toList_conditionsText (conditions : List (String × Condition)) :
    (conditionsText conditions).toList = rowsText (tableRows conditions) := by
  have hheader : conditionHeader.toList = rowsText [headerRow] := by decide
  have hrows : (String.join (conditions.map fun (name, c) => conditionLines name c)).toList =
      rowsText (conditions.flatMap fun (name, c) => conditionRows name c) := by
    simp [rowsText_flatMap, String.toList_join, List.flatMap_map, toList_conditionLines]
  rw [conditionsText, String.toList_append, hheader, hrows, tableRows, rowsText, rowsText, rowsText,
    ← unlines_append, ← List.map_append]
  rfl

variable {name : String} {c : Condition} {conditions : List (String × Condition)} {row : Row}

theorem mem_tableRows :
    row ∈ tableRows conditions ↔
      row = headerRow ∨ ∃ e ∈ conditions, row ∈ conditionRows e.1 e.2 := by
  simp [tableRows]

theorem mem_conditionRows :
    row ∈ conditionRows name c ↔
      row = [name.toList, (yesNo c.negated).toList, (c.clauses.headD "*").toList] ∨
        ∃ cell ∈ lowerCells c, row = [[], [], cell.toList] := by
  simp [conditionRows, eq_comm]

theorem map_tableRows (line : Row → List Char) (conditions : List (String × Condition)) :
    (tableRows conditions).map line =
      line headerRow :: (conditions.map fun e => (conditionRows e.1 e.2).map line).flatten := by
  simp [tableRows, List.flatMap_def, Function.comp_def]

/-- No row of the table has more cells than another one. -/
theorem length_of_mem_tableRows (h : row ∈ tableRows conditions) : row.length = 2 + 1 := by
  rcases mem_tableRows.mp h with rfl | ⟨e, -, he⟩
  · rfl
  · rcases mem_conditionRows.mp he with rfl | ⟨cell, -, rfl⟩ <;> rfl

/-! ## The cells -/

/-- Can the name stand in a table? -/
structure IsTableName (name : String) : Prop where
  isCell : IsCell name.toList
  unstyled : '\x1b' ∉ name.toList

theorem isTableName_yesNo (b : Bool) : IsTableName (yesNo b) := by
  cases b <;> exact ⟨by decide, by decide⟩

theorem isCell_of_mem_clauses {text : String} (h : text ∈ c.clauses) : IsCell text.toList :=
  ⟨Condition.notMem_of_mem_clauses isForeign_tab h,
    Condition.notMem_of_mem_clauses isForeign_newline h⟩

theorem isCell_headD_clauses (c : Condition) : IsCell (c.clauses.headD "*").toList := by
  cases hclauses : c.clauses with
  | nil => decide
  | cons clause more => exact isCell_of_mem_clauses (hclauses ▸ List.mem_cons_self ..)

theorem isCell_of_mem_lowerCells {cell : String} (h : cell ∈ lowerCells c) :
    IsCell cell.toList := by
  rw [lowerCells] at h
  split at h
  · cases h
  · rcases List.mem_append.mp h with h | h
    · exact isCell_of_mem_clauses (List.mem_of_mem_tail h)
    · obtain rfl := List.mem_singleton.mp h
      decide

theorem isCell_of_mem_tableRows (hnames : ∀ e ∈ conditions, IsTableName e.1)
    (h : row ∈ tableRows conditions) : ∀ cell ∈ row, IsCell cell := by
  rcases mem_tableRows.mp h with rfl | ⟨e, he, hrow⟩
  · decide
  · rcases mem_conditionRows.mp hrow with rfl | ⟨cell, hcell, rfl⟩
    · simp only [List.forall_mem_cons, (hnames e he).isCell, (isTableName_yesNo _).isCell,
        isCell_headD_clauses, List.not_mem_nil, false_implies, implies_true, and_self]
    · have hnil : IsCell [] := by decide
      simp [hnil, isCell_of_mem_lowerCells hcell]

/-! ## The widths -/

/-- The greatest width of a name, or that of the title if it is greater. -/
def nameWidth (names : List String) : Nat :=
  names.foldl (fun w name => max w (displayWidth name.toList)) 4

theorem displayWidth_le_nameWidth {names : List String} (h : name ∈ names) :
    displayWidth name.toList ≤ nameWidth names :=
  (foldl_max_le_iff.mp (Nat.le_refl (nameWidth names))).2 name h

theorem four_le_nameWidth (names : List String) : 4 ≤ nameWidth names :=
  (foldl_max_le_iff.mp (Nat.le_refl (nameWidth names))).1

theorem displayWidth_yesNo_le (b : Bool) : displayWidth (yesNo b).toList ≤ 3 := by
  cases b <;> decide

theorem cellWidth_nameTitle : cellWidth (headerRow.getD 0 []) = 4 := cellWidth_of_notMem (by decide)

theorem cellWidth_markTitle : cellWidth (headerRow.getD 1 []) = 3 := cellWidth_of_notMem (by decide)

theorem columnWidth_name (hnames : ∀ e ∈ conditions, IsTableName e.1) :
    columnWidth (tableRows conditions) 0 = nameWidth (conditions.map Prod.fst) := by
  refine eq_of_forall_ge_iff fun m => ?_
  rw [columnWidth_le_iff, nameWidth, foldl_max_le_iff]
  constructor
  · rintro ⟨-, hrows⟩
    refine ⟨cellWidth_nameTitle.symm.trans_le (hrows headerRow (mem_tableRows.mpr (.inl rfl))), ?_⟩
    intro name hname
    obtain ⟨e, he, rfl⟩ := List.mem_map.mp hname
    have hcell : cellWidth e.1.toList ≤ m :=
      hrows _ (mem_tableRows.mpr (.inr ⟨e, he, mem_conditionRows.mpr (.inl rfl)⟩))
    rwa [cellWidth_of_notMem (hnames e he).unstyled] at hcell
  · rintro ⟨hfour, hwidths⟩
    refine ⟨Nat.le_trans (by decide) hfour, fun row hrow => ?_⟩
    rcases mem_tableRows.mp hrow with rfl | ⟨e, he, hrow⟩
    · exact cellWidth_nameTitle.trans_le hfour
    · rcases mem_conditionRows.mp hrow with rfl | ⟨cell, -, rfl⟩
      · exact (cellWidth_of_notMem (hnames e he).unstyled).trans_le
          (hwidths e.1 (List.mem_map_of_mem he))
      · exact cellWidth_nil.trans_le (Nat.zero_le m)

theorem columnWidth_mark (conditions : List (String × Condition)) :
    columnWidth (tableRows conditions) 1 = 3 := by
  refine Nat.le_antisymm (columnWidth_le_iff.mpr ⟨by decide, fun row hrow => ?_⟩) ?_
  · rcases mem_tableRows.mp hrow with rfl | ⟨e, -, hrow⟩
    · exact cellWidth_markTitle.le
    · rcases mem_conditionRows.mp hrow with rfl | ⟨cell, -, rfl⟩
      · exact (cellWidth_of_notMem (isTableName_yesNo e.2.negated).unstyled).trans_le
          (displayWidth_yesNo_le e.2.negated)
      · exact cellWidth_nil.trans_le (Nat.zero_le 3)
  · have hrows := (columnWidth_le_iff.mp (Nat.le_refl (columnWidth (tableRows conditions) 1))).2
    exact cellWidth_markTitle.symm.trans_le (hrows headerRow (mem_tableRows.mpr (.inl rfl)))

/-! ## The lines -/

/-- What stands in front of the clause in a line with a name. -/
def namedFront (w : Nat) (name mark : String) : List Char :=
  name.toList ++ blanks (w + 2 - displayWidth name.toList) ++
    (mark.toList ++ blanks (5 - displayWidth mark.toList))

/-- Is the line this front, which ends where the last column begins, and this cell? -/
structure IsLine (w : Nat) (front : List Char) (third : String) (line : List Char) : Prop where
  unbroken : '\n' ∉ line
  eq_append : line = front ++ third.toList
  width_front : displayWidth front = w + 7

/-- Are these the lines of the condition under the name? The first one has them, and the first
clause or a star. Every other clause has a line of its own, and an empty one follows them. -/
structure Shows (w : Nat) (name : String) (c : Condition) (lines : List (List Char)) : Prop where
  length_eq : lines.length = if c.clauses.length ≤ 1 then 1 else c.clauses.length + 1
  first : ∃ line ∈ lines[0]?,
    IsLine w (namedFront w name (yesNo c.negated)) (c.clauses.headD "*") line
  lower : ∀ i, 0 < i → ∀ clause ∈ c.clauses[i]?,
    ∃ line ∈ lines[i]?, IsLine w (blanks (w + 7)) clause line
  last : 1 < c.clauses.length →
    ∃ line ∈ lines[c.clauses.length]?, IsLine w (blanks (w + 7)) "" line

theorem newline_notMem_blanks (n : Nat) : '\n' ∉ blanks n :=
  fun h => absurd (List.mem_replicate.mp h).2 (by decide)

theorem displayWidth_namedFront {w : Nat} {name mark : String}
    (hname : displayWidth name.toList ≤ w) (hmark : displayWidth mark.toList ≤ 3) :
    displayWidth (namedFront w name mark) = w + 7 := by
  simp only [namedFront, displayWidth_append, displayWidth_blanks]
  omega

theorem alignedRow_three (width : Nat → Nat) (name mark third : List Char) :
    alignedRow width [name, mark, third] =
      pad (width 0 + gap) name ++ pad (width 1 + gap) mark ++ third := by
  simp [alignedRow, hasPadded]

section Lines

variable {width : Nat → Nat} {w : Nat} (hwidth : width 0 = w) (hmarks : width 1 = 3)
include hwidth hmarks

theorem isLine_named {mark third : String} (hname : IsTableName name)
    (hle : displayWidth name.toList ≤ w) (hmark : IsTableName mark)
    (hmark' : displayWidth mark.toList ≤ 3) (hthird : IsCell third.toList) :
    IsLine w (namedFront w name mark) third
      (alignedRow width [name.toList, mark.toList, third.toList]) := by
  have heq : alignedRow width [name.toList, mark.toList, third.toList] =
      namedFront w name mark ++ third.toList := by
    rw [alignedRow_three, pad_of_notMem hname.unstyled, pad_of_notMem hmark.unstyled, hwidth,
      hmarks]
    rfl
  refine ⟨?_, heq, displayWidth_namedFront hle hmark'⟩
  simp [heq, namedFront, hname.isCell.2, hmark.isCell.2, hthird.2, newline_notMem_blanks]

theorem isLine_lower {third : String} (hthird : IsCell third.toList) :
    IsLine w (blanks (w + 7)) third (alignedRow width [[], [], third.toList]) := by
  have heq : alignedRow width [[], [], third.toList] = blanks (w + 7) ++ third.toList := by
    rw [alignedRow_three, pad_of_notMem List.not_mem_nil, pad_of_notMem List.not_mem_nil, hwidth,
      hmarks, List.nil_append, List.nil_append, blanks, blanks, List.replicate_append_replicate]
    rfl
  refine ⟨?_, heq, displayWidth_blanks (w + 7)⟩
  simp [heq, hthird.2, newline_notMem_blanks]

theorem shows_map_conditionRows (hname : IsTableName name) (hle : displayWidth name.toList ≤ w)
    (c : Condition) : Shows w name c ((conditionRows name c).map (alignedRow width)) := by
  have hlower : ∀ j, ∀ cell ∈ (lowerCells c)[j]?,
      ∃ line ∈ ((conditionRows name c).map (alignedRow width))[j + 1]?,
        IsLine w (blanks (w + 7)) cell line := by
    intro j cell hcell
    have hmem : cell ∈ lowerCells c := List.mem_of_getElem? hcell
    refine ⟨_, ?_, isLine_lower hwidth hmarks (isCell_of_mem_lowerCells hmem)⟩
    simp [conditionRows, Option.mem_def.mp hcell]
  refine ⟨?_, ?_, ?_, ?_⟩
  · simp only [conditionRows, lowerCells, List.map_cons, List.length_cons, List.length_map]
    split
    · rfl
    · simp; omega
  · exact ⟨_, rfl, isLine_named hwidth hmarks hname hle (isTableName_yesNo c.negated)
      (displayWidth_yesNo_le c.negated) (isCell_headD_clauses c)⟩
  · intro i hi clause hclause
    obtain ⟨j, rfl⟩ := Nat.exists_eq_add_one.mpr hi
    obtain ⟨hj, -⟩ := List.getElem?_eq_some_iff.mp hclause
    refine hlower j clause ?_
    rw [lowerCells_of_lt (by omega), List.getElem?_append_left (by simp; omega),
      List.getElem?_tail]
    exact hclause
  · intro hlt
    obtain ⟨j, hj⟩ := Nat.exists_eq_add_one.mpr (Nat.zero_lt_of_lt hlt)
    rw [hj]
    refine hlower j "" ?_
    rw [lowerCells_of_lt hlt, List.getElem?_append_right (by simp; omega)]
    simp [hj]

end Lines

/-! ## The table -/

theorem toList_conditionTable {conditions : List (String × Condition)}
    (hnames : ∀ e ∈ conditions, IsTableName e.1) :
    (conditionTable conditions).toList =
      unlines ((tableRows conditions).map (alignedRow (columnWidth (tableRows conditions)))) := by
  rw [conditionTable, String.toList_ofList, toList_conditionsText]
  exact align_rowsText (fun _ => length_of_mem_tableRows) (fun _ => isCell_of_mem_tableRows hnames)

end Report

open Report

/-- The names come in the order of their bytes. -/
theorem ConditionSet.pairwise_keys (set : ConditionSet) :
    (set.keys.map Utf8.ofString).Pairwise (· < ·) := by
  rw [Table.keys, List.map_map, List.pairwise_map]
  exact set.sorted.imp fun h => Utf8.ofString_lt (compareOfLessAndEq_eq_lt.mp h)

/-- Two conditions, one of two clauses under a name in wide characters. -/
def sampleConditions : ConditionSet :=
  Table.ofList [("ポート", { protocol := ⟨some 6, false⟩, forwardFlow := true }), ("any", .matchAny)]

end FlowRules
