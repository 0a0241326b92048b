import FlowRules.Text.Pieces

/-!
# Pieces joined and cut again

Joining pieces that do not hold the separator and splitting the text at it gives the
pieces back (`pieces_joinPieces`), so such pieces are determined by the text
(`joinPieces_inj`). The same holds of a text that is cut once (`cut_append`), and of one
that is cut where a test fails (`takeWhile_append_end`, `dropWhile_append_end`).

A row may leave out some of its parts. If each part that stands in it tells which one it
is, the row still determines every part (`filterMap_parts_inj`).
-/

namespace FlowRules

variable {sep : Char}

theorem pieces_of_notMem {p : List Char} (h : sep ∉ p) : pieces sep p = [p] := by
  induction p with
  | nil => rfl
  | cons c cs ih =>
    rw [List.mem_cons, not_or] at h
    simp [pieces, Ne.symm h.1, ih h.2]

theorem pieces_append {p : List Char} (h : sep ∉ p) (cs : List Char) :
    pieces sep (p ++ sep :: cs) = p :: pieces sep cs := by
  induction p with
  | nil => simp [pieces]
  | cons c p ih =>
    rw [List.mem_cons, not_or] at h
    simp [pieces, Ne.symm h.1, ih h.2]

/-- No piece holds the separator. -/
theorem notMem_of_mem_pieces {cs p : List Char} (h : p ∈ pieces sep cs) : sep ∉ p := by
  induction cs generalizing p with
  | nil =>
    obtain rfl := List.mem_singleton.mp h
    exact List.not_mem_nil
  | cons c cs ih =>
    simp only [pieces] at h
    split at h
    · rcases List.mem_cons.mp h with rfl | h
      · exact List.not_mem_nil
      · exact ih h
    · rename_i hc
      split at h
      · rename_i hnil
        exact absurd hnil (pieces_ne_nil sep cs)
      · rename_i q qs hcons
        rcases List.mem_cons.mp h with rfl | h
        · have hq : sep ∉ q := ih (hcons ▸ List.mem_cons_self ..)
          exact List.not_mem_cons_of_ne_of_not_mem (Ne.symm hc) hq
        · exact ih (hcons ▸ List.mem_cons_of_mem _ h)

/-- Pieces without the separator are what the joined text is split into. -/
theorem pieces_joinPieces :
    ∀ {ps : List (List Char)}, ps ≠ [] → (∀ p ∈ ps, sep ∉ p) → pieces sep (joinPieces sep ps) = ps
  | [], hne, _ => absurd rfl hne
  | [p], _, h => pieces_of_notMem (h p (by simp))
  | p :: q :: qs, _, h => by
    rw [joinPieces, pieces_append (h p (by simp)),
      pieces_joinPieces (by simp) fun r hr => h r (List.mem_cons_of_mem _ hr)]
    simp

theorem joinPieces_inj {ps qs : List (List Char)} (hp : ps ≠ []) (hq : qs ≠ [])
    (hps : ∀ p ∈ ps, sep ∉ p) (hqs : ∀ q ∈ qs, sep ∉ q)
    (h : joinPieces sep ps = joinPieces sep qs) : ps = qs := by
  rw [← pieces_joinPieces hp hps, h, pieces_joinPieces hq hqs]

/-- What stands in the joined text is a separator or stands in a piece. -/
theorem mem_joinPieces {sep c : Char} :
    ∀ {ps : List (List Char)}, c ∈ joinPieces sep ps → c = sep ∨ ∃ p ∈ ps, c ∈ p
  | [], h => by simp [joinPieces] at h
  | [p], h => Or.inr ⟨p, by simp, h⟩
  | p :: q :: qs, h => by
    simp only [joinPieces, List.mem_append, List.mem_cons] at h
    rcases h with h | h | h
    · exact Or.inr ⟨p, by simp, h⟩
    · exact Or.inl h
    · rcases mem_joinPieces h with h | ⟨r, hr, hc⟩
      · exact Or.inl h
      · exact Or.inr ⟨r, List.mem_cons_of_mem _ hr, hc⟩

theorem joinPieces_ne_nil {p : List Char} (hp : p ≠ []) (ps : List (List Char)) :
    joinPieces sep (p :: ps) ≠ [] := by
  cases ps <;> simp [joinPieces, hp]

/-- Where no piece is empty, there may also be none. -/
theorem joinPieces_inj_of_ne_nil {ps qs : List (List Char)} (hps : ∀ p ∈ ps, p ≠ [] ∧ sep ∉ p)
    (hqs : ∀ q ∈ qs, q ≠ [] ∧ sep ∉ q) (h : joinPieces sep ps = joinPieces sep qs) : ps = qs := by
  cases ps with
  | nil =>
    cases qs with
    | nil => rfl
    | cons q qs => exact absurd h.symm (joinPieces_ne_nil (hqs q (List.mem_cons_self ..)).1 qs)
  | cons p ps =>
    cases qs with
    | nil => exact absurd h (joinPieces_ne_nil (hps p (List.mem_cons_self ..)).1 ps)
    | cons q qs =>
      exact joinPieces_inj (List.cons_ne_nil _ _) (List.cons_ne_nil _ _) (fun p hp => (hps p hp).2)
        (fun q hq => (hqs q hq).2) h

theorem intercalate_eq_joinPieces (sep : Char) :
    ∀ ps : List (List Char), [sep].intercalate ps = joinPieces sep ps
  | [] => rfl
  | [p] => by simp [List.intercalate, joinPieces]
  | p :: q :: qs => by
    rw [List.intercalate_cons_cons, intercalate_eq_joinPieces sep (q :: qs), List.append_assoc]
    rfl

/-- A text is cut at its first separator. -/
theorem cut_append {l : List Char} (h : sep ∉ l) (r : List Char) :
    cut sep (l ++ sep :: r) = some (l, r) := by
  induction l with
  | nil => simp [cut]
  | cons c l ih =>
    rw [List.mem_cons, not_or] at h
    simp [cut, Ne.symm h.1, ih h.2]

theorem cut_eq_some_iff {cs l r : List Char} :
    cut sep cs = some (l, r) ↔ cs = l ++ sep :: r ∧ sep ∉ l := by
  constructor
  · intro h
    induction cs generalizing l with
    | nil => cases h
    | cons c cs ih =>
      rw [cut] at h
      split at h
      · rename_i hc
        obtain ⟨rfl, rfl⟩ := Prod.mk.inj (Option.some.inj h)
        exact ⟨by rw [hc]; rfl, List.not_mem_nil⟩
      · rename_i hc
        obtain ⟨⟨l', r'⟩, hcut, heq⟩ := Option.map_eq_some_iff.mp h
        obtain ⟨rfl, rfl⟩ := Prod.mk.inj heq
        obtain ⟨rfl, hl⟩ := ih hcut
        exact ⟨rfl, List.not_mem_cons_of_ne_of_not_mem (Ne.symm hc) hl⟩
  · rintro ⟨rfl, hl⟩
    exact cut_append hl r

theorem cut_eq_none_iff {cs : List Char} : cut sep cs = none ↔ sep ∉ cs := by
  constructor
  · intro h hmem
    obtain ⟨l, r, rfl, hl⟩ := List.eq_append_cons_of_mem hmem
    rw [cut_append hl] at h
    cases h
  · intro h
    rw [Option.eq_none_iff_forall_ne_some]
    rintro ⟨l, r⟩ hcut
    obtain ⟨rfl, -⟩ := cut_eq_some_iff.mp hcut
    exact h (by simp)

theorem append_cons_inj {l l' r r' : List Char} (hl : sep ∉ l) (hl' : sep ∉ l')
    (h : l ++ sep :: r = l' ++ sep :: r') : l = l' ∧ r = r' := by
  have hcut := congrArg (cut sep) h
  rw [cut_append hl, cut_append hl'] at hcut
  exact Prod.mk.inj (Option.some.inj hcut)

/-! ## A front part that passes a test -/

section Front

variable {α : Type} {p : α → Bool} {xs ys : List α}

theorem takeWhile_append_end (hxs : ∀ x ∈ xs, p x = true) (hys : ∀ y ∈ ys.head?, p y = false) :
    (xs ++ ys).takeWhile p = xs := by
  rw [List.takeWhile_append_of_pos hxs]
  cases ys with
  | nil => exact List.append_nil xs
  | cons y ys => simp [hys y rfl]

theorem dropWhile_append_end (hxs : ∀ x ∈ xs, p x = true) (hys : ∀ y ∈ ys.head?, p y = false) :
    (xs ++ ys).dropWhile p = ys := by
  rw [List.dropWhile_append_of_pos hxs]
  cases ys with
  | nil => rfl
  | cons y ys => simp [hys y rfl]

end Front

/-! ## Parts that may be left out -/

section Parts

variable {ι α κ : Type} {part part' : ι → Option α} {key : α → κ} {name : ι → κ} {is : List ι}

/-- A part is what stands in the row under its name. -/
theorem part_eq_some_iff (hname : ∀ i j, name i = name j → i = j)
    (hkey : ∀ i a, part i = some a → key a = name i) {i : ι} (hi : i ∈ is) {a : α} :
    part i = some a ↔ a ∈ is.filterMap part ∧ key a = name i := by
  rw [List.mem_filterMap]
  constructor
  · intro h
    exact ⟨⟨i, hi, h⟩, hkey i a h⟩
  · rintro ⟨⟨j, -, hj⟩, ha⟩
    obtain rfl := hname j i ((hkey j a hj).symm.trans ha)
    exact hj

theorem filterMap_parts_inj (key : α → κ) (name : ι → κ)
    (hname : ∀ i j, name i = name j → i = j) (hkey : ∀ i a, part i = some a → key a = name i)
    (hkey' : ∀ i a, part' i = some a → key a = name i)
    (h : is.filterMap part = is.filterMap part') {i : ι} (hi : i ∈ is) : part i = part' i := by
  refine Option.ext fun a => ?_
  rw [part_eq_some_iff hname hkey hi, h, ← part_eq_some_iff hname hkey' hi]

end Parts

end FlowRules
