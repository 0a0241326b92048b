/-!
# Texts in pieces

`pieces sep cs` are the pieces of a text between the separators, as many as there are
separators and one more (`length_pieces`), and joining them with the separator gives
the text back (`join_pieces`). `cut` splits at the first separator only.
-/

namespace FlowRules

/-- The pieces of a text between separators. -/
def pieces (sep : Char) : List Char → List (List Char)
  | [] => [[]]
  | c :: cs =>
    if c = sep then [] :: pieces sep cs
    else match pieces sep cs with
      | [] => [[c]]
      | p :: ps => (c :: p) :: ps

/-- The pieces with the separator between them. -/
def joinPieces (sep : Char) : List (List Char) → List Char
  | [] => []
  | [p] => p
  | p :: ps => p ++ sep :: joinPieces sep ps

/-- The text before and after the first separator. -/
def cut (sep : Char) : List Char → Option (List Char × List Char)
  | [] => none
  | c :: cs => if c = sep then some ([], cs) else (cut sep cs).map fun (l, r) => (c :: l, r)

theorem length_cut {sep : Char} {cs l r : List Char} (h : cut sep cs = some (l, r)) :
    r.length < cs.length := by
  induction cs generalizing l with
  | nil => simp [cut] at h
  | cons c cs ih => grind [cut, Option.map_eq_some_iff]

theorem length_dropWhile {α : Type} (p : α → Bool) (xs : List α) :
    (xs.dropWhile p).length ≤ xs.length :=
  (List.dropWhile_sublist p).length_le

/-- What is taken from the front is missing behind. -/
theorem length_dropWhile_lt {α : Type} {p : α → Bool} {xs : List α} (h : xs.takeWhile p ≠ []) :
    (xs.dropWhile p).length < xs.length := by
  have hsum := congrArg List.length (List.takeWhile_append_dropWhile (p := p) (l := xs))
  have hpos := List.length_pos_iff.2 h
  rw [List.length_append] at hsum
  omega

theorem pieces_ne_nil (sep : Char) (cs : List Char) : pieces sep cs ≠ [] := by
  cases cs with
  | nil => simp [pieces]
  | cons c cs =>
    simp only [pieces]
    split
    · simp
    · split <;> simp

/-- Joining the pieces of a text gives the text. -/
theorem join_pieces (sep : Char) (cs : List Char) : joinPieces sep (pieces sep cs) = cs := by
  induction cs with
  | nil => rfl
  | cons c cs ih =>
    have hne := pieces_ne_nil sep cs
    simp only [pieces]
    split
    · subst_vars
      cases h : pieces c cs with
      | nil => exact absurd h hne
      | cons p ps => rw [h] at ih; simp [joinPieces, ih]
    · cases h : pieces sep cs with
      | nil => exact absurd h hne
      | cons p ps =>
        rw [h] at ih
        cases ps with
        | nil => simpa [joinPieces] using ih
        | cons q qs => simpa [joinPieces] using ih

/-- A text has one piece more than separators. -/
theorem length_pieces (sep : Char) (cs : List Char) :
    (pieces sep cs).length = cs.count sep + 1 := by
  induction cs with
  | nil => rfl
  | cons c cs ih =>
    have hne := pieces_ne_nil sep cs
    by_cases hc : c = sep
    · simp [pieces, hc, ih]
    · cases h : pieces sep cs with
      | nil => exact absurd h hne
      | cons p ps => rw [h] at ih; simpa [pieces, hc, h] using ih

end FlowRules
