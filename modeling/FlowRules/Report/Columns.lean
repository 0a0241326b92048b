import FlowRules.Text.Pieces
import FlowRules.Text.Width

/-!
# Elastic columns

`align` lays out a text whose lines have cells with tabs between them. All cells but
the last one of a line are padded with blanks. A padded cell is as wide as the widest
one in its block, which is the run of adjacent lines that have a padded cell in the
same column, and at least `minWidth`; `gap` blanks stand behind that. Sequences that
set the style of a terminal take no columns.
-/

namespace FlowRules.Report

/-- Yes or no. -/
def yesNo (b : Bool) : String := if b then "yes" else "no"

/-- The least width of a padded cell. -/
def minWidth : Nat := 2

/-- The blanks behind the widest cell of a block. -/
def gap : Nat := 2

/-- The text without the sequences from an escape and a bracket up to the letter `m`. -/
def withoutStyles (cs : List Char) : List Char :=
  match cs with
  | [] => []
  | '\x1b' :: '[' :: cs =>
    match h : cut 'm' cs with
    | some (_, rest) =>
      have := length_cut h
      withoutStyles rest
    | none => '\x1b' :: '[' :: cs
  | c :: cs => c :: withoutStyles cs
termination_by cs.length

/-- The columns that a cell takes. -/
def cellWidth (cell : List Char) : Nat := displayWidth (withoutStyles cell)

/-- The cells of a line. -/
abbrev Row := List (List Char)

/-- Does the row have a padded cell in the column? -/
def hasPadded (column : Nat) (row : Row) : Bool := column + 1 < row.length

/-- The rows around the one at the index with a padded cell in the column. -/
def block (rows : List Row) (index column : Nat) : List Row :=
  ((rows.take index).reverse.takeWhile (hasPadded column)).reverse ++
    (rows.drop index).takeWhile (hasPadded column)

/-- The width of a block. -/
def blockWidth (rows : List Row) (index column : Nat) : Nat :=
  (block rows index column).foldl (fun w row => max w (cellWidth (row.getD column []))) minWidth

/-- A cell filled up with blanks to a width. -/
def pad (width : Nat) (cell : List Char) : List Char :=
  cell ++ List.replicate (width - cellWidth cell) ' '

/-- The line of the row at the index. -/
def alignRow (rows : List Row) (index : Nat) (row : Row) : List Char :=
  row.zipIdx.flatMap fun (cell, column) =>
    if hasPadded column row then pad (blockWidth rows index column + gap) cell else cell

/-- The text with its cells in columns. -/
def align (cs : List Char) : List Char :=
  let rows := (pieces '\n' cs).map (pieces '\t')
  joinPieces '\n' (rows.zipIdx.map fun (row, index) => alignRow rows index row)

end FlowRules.Report
