import FlowRules.Proofs.Text.Pieces
import FlowRules.Report.Columns
import Mathlib.Data.List.Basic
import Mathlib.Data.List.TakeWhile

/-!
# Rows of one length are one block

If all rows have the same number of cells, any two of them have the same padded columns, and so
each of these is one block from the first row to the last. Its width is then the same in every
row (`columnWidth`), and the text is laid out line by line (`align_rowsText`). The end of the last
line leaves a row with one cell behind, which has no padded column.

A cell without an escape has no sequence that sets a style, and is padded by its display width
(`pad_of_notMem`).
-/

namespace FlowRules

/-! ## Display width -/

theorem displayWidth_append (xs ys : List Char) :
    displayWidth (xs ++ ys) = displayWidth xs + displayWidth ys := by
  induction xs with
  | nil => exact (Nat.zero_add _).symm
  | cons c xs ih =>
    simp only [displayWidth, List.cons_append, List.foldr_cons] at ih ⊢
    rw [ih, Nat.add_assoc]

/-- So many blanks. -/
def blanks (n : Nat) : List Char := List.replicate n ' '

theorem displayWidth_blanks (n : Nat) : displayWidth (blanks n) = n := by
  induction n with
  | zero => rfl
  | succ n ih =>
    simp only [displayWidth, blanks, List.replicate_succ, List.foldr_cons] at ih ⊢
    rw [ih, Nat.add_comm]
    rfl

/-! ## Lines -/

/-- The text of lines, each with its end. -/
def unlines (ls : List (List Char)) : List Char := ls.flatMap (· ++ ['\n'])

theorem unlines_eq_joinPieces (ls : List (List Char)) :
    unlines ls = joinPieces '\n' (ls ++ [[]]) := by
  induction ls with
  | nil => rfl
  | cons l ls ih =>
    rw [unlines, List.flatMap_cons, ← unlines, ih]
    cases ls <;> simp [joinPieces]

/-- Behind the last line is an empty piece. -/
theorem pieces_unlines {ls : List (List Char)} (h : ∀ l ∈ ls, '\n' ∉ l) :
    pieces '\n' (unlines ls) = ls ++ [[]] := by
  rw [unlines_eq_joinPieces]
  refine pieces_joinPieces (by simp) fun l hl => ?_
  rcases List.mem_append.mp hl with hl | hl
  · exact h l hl
  · obtain rfl := List.mem_singleton.mp hl
    exact List.not_mem_nil

theorem unlines_append (ls ms : List (List Char)) : unlines (ls ++ ms) = unlines ls ++ unlines ms :=
  List.flatMap_append

/-! ## The greatest of some numbers -/

theorem foldl_max_le_iff {α : Type} {f : α → Nat} {xs : List α} {least m : Nat} :
    xs.foldl (fun n x => max n (f x)) least ≤ m ↔ least ≤ m ∧ ∀ x ∈ xs, f x ≤ m := by
  induction xs generalizing least with
  | nil => simp
  | cons x xs ih =>
    simp only [List.foldl_cons, ih, Nat.max_le, List.forall_mem_cons, and_assoc]

namespace Report

/-! ## Cells -/

/-- Without an escape there is no style. -/
theorem withoutStyles_of_notMem {cs : List Char} (h : '\x1b' ∉ cs) : withoutStyles cs = cs := by
  fun_induction withoutStyles cs with
  | case1 => rfl
  | case2 => exact absurd (List.mem_cons_self ..) h
  | case3 => rfl
  | case4 c cs _ ih => rw [ih fun hmem => h (List.mem_cons_of_mem c hmem)]

theorem cellWidth_of_notMem {cell : List Char} (h : '\x1b' ∉ cell) :
    cellWidth cell = displayWidth cell := by
  rw [cellWidth, withoutStyles_of_notMem h]

theorem cellWidth_nil : cellWidth [] = 0 := cellWidth_of_notMem List.not_mem_nil

theorem pad_of_notMem {cell : List Char} (h : '\x1b' ∉ cell) (width : Nat) :
    pad width cell = cell ++ blanks (width - displayWidth cell) := by
  rw [pad, cellWidth_of_notMem h, blanks]

/-! ## Blocks -/

variable {rows : List Row} {n index column : Nat}

/-- The width of a column that is padded in every row. -/
def columnWidth (rows : List Row) (column : Nat) : Nat :=
  rows.foldl (fun w row => max w (cellWidth (row.getD column []))) minWidth

theorem columnWidth_le_iff {m : Nat} :
    columnWidth rows column ≤ m ↔
      minWidth ≤ m ∧ ∀ row ∈ rows, cellWidth (row.getD column []) ≤ m :=
  foldl_max_le_iff

/-- The block goes from the first row to the one in front of the row without the column. -/
theorem block_append_singleton {last : Row} (hrows : ∀ row ∈ rows, hasPadded column row = true)
    (hlast : hasPadded column last = false) (hindex : index ≤ rows.length) :
    block (rows ++ [last]) index column = rows := by
  have hfront : ((rows.take index).reverse.takeWhile (hasPadded column)) =
      (rows.take index).reverse :=
    List.takeWhile_eq_self_iff.mpr fun row hrow =>
      hrows row (List.mem_of_mem_take (List.mem_reverse.mp hrow))
  have hback : (rows.drop index ++ [last]).takeWhile (hasPadded column) = rows.drop index :=
    takeWhile_append_end (fun row hrow => hrows row (List.mem_of_mem_drop hrow)) (by simpa)
  rw [block, List.take_append_of_le_length hindex, List.drop_append_of_le_length hindex, hfront,
    hback, List.reverse_reverse, List.take_append_drop]

/-- The line of a row if its columns have the same width in every row. -/
def alignedRow (width : Nat → Nat) (row : Row) : List Char :=
  row.zipIdx.flatMap fun (cell, column) =>
    if hasPadded column row then pad (width column + gap) cell else cell

theorem alignRow_append_singleton (hrows : ∀ row ∈ rows, row.length = n + 1) {row : Row}
    (hrow : row ∈ rows) (hindex : index ≤ rows.length) :
    alignRow (rows ++ [[[]]]) index row = alignedRow (columnWidth rows) row := by
  refine List.flatMap_congr fun (cell, column) _ => ?_
  by_cases hpadded : hasPadded column row = true
  · have hall : ∀ row ∈ rows, hasPadded column row = true := by
      intro row' hrow'
      rwa [hasPadded, hrows row' hrow', ← hrows row hrow]
    have hblock : block (rows ++ [[[]]]) index column = rows :=
      block_append_singleton hall (by simp [hasPadded]) hindex
    simp only [hpadded, if_true, blockWidth, columnWidth, hblock]
  · simp only [Bool.not_eq_true] at hpadded
    simp only [hpadded, Bool.false_eq_true, if_false]

/-- The rows of a text, each in a line. -/
def rowsText (rows : List Row) : List Char := unlines (rows.map (joinPieces '\t'))

/-- Can the text be a cell? -/
def IsCell (cell : List Char) : Prop := '\t' ∉ cell ∧ '\n' ∉ cell

instance (cell : List Char) : Decidable (IsCell cell) :=
  inferInstanceAs (Decidable ('\t' ∉ cell ∧ '\n' ∉ cell))

theorem rows_rowsText (hrows : ∀ row ∈ rows, row.length = n + 1)
    (hcells : ∀ row ∈ rows, ∀ cell ∈ row, IsCell cell) :
    (pieces '\n' (rowsText rows)).map (pieces '\t') = rows ++ [[[]]] := by
  have hlines : ∀ line ∈ rows.map (joinPieces '\t'), '\n' ∉ line := by
    intro line hline hmem
    obtain ⟨row, hrow, rfl⟩ := List.mem_map.mp hline
    rcases mem_joinPieces hmem with h | ⟨cell, hcell, hc⟩
    · exact absurd h (by decide)
    · exact (hcells row hrow cell hcell).2 hc
  have hrow : ∀ row ∈ rows, pieces '\t' (joinPieces '\t' row) = row := by
    intro row hrow
    have hne : row ≠ [] := List.ne_nil_of_length_eq_add_one (hrows row hrow)
    exact pieces_joinPieces hne fun cell hcell => (hcells row hrow cell hcell).1
  have hmap : (rows.map (joinPieces '\t')).map (pieces '\t') = rows := by
    rw [List.map_map]
    conv_rhs => rw [← List.map_id rows]
    exact List.map_congr_left hrow
  rw [rowsText, pieces_unlines hlines, List.map_append, hmap]
  rfl

/-- Rows with the same number of cells are laid out one by one. -/
theorem align_rowsText (hrows : ∀ row ∈ rows, row.length = n + 1)
    (hcells : ∀ row ∈ rows, ∀ cell ∈ row, IsCell cell) :
    align (rowsText rows) = unlines (rows.map (alignedRow (columnWidth rows))) := by
  have hlines : rows.zipIdx.map (fun (row, index) => alignRow (rows ++ [[[]]]) index row) =
      rows.zipIdx.map (alignedRow (columnWidth rows) ∘ Prod.fst) := by
    refine List.map_congr_left fun (row, index) h => ?_
    obtain ⟨hindex, hrow⟩ := List.mem_zipIdx' h
    exact alignRow_append_singleton hrows (hrow ▸ List.getElem_mem hindex) (Nat.le_of_lt hindex)
  rw [← List.map_map, List.zipIdx_map_fst] at hlines
  simp only [align, rows_rowsText hrows hcells, List.zipIdx_append, List.map_append, hlines,
    unlines_eq_joinPieces]
  rfl

end Report

end FlowRules
