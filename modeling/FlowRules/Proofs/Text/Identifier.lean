import FlowRules.Identifier
import FlowRules.Proofs.Text.Numeral
import FlowRules.Proofs.Text.Pieces

/-!
# Identifiers read back

The text of an identifier is its digits in groups with hyphens between them. Split at the
hyphens it gives the groups back, and these the identifier (`uuid?_uuidText`). None of the
other accepted forms stands in the way : the text starts with a digit, and it is longer
than the digits alone.
-/

namespace FlowRules

/-! ## Groups of digits -/

theorem flatten_groupDigits :
    ∀ {lens : List Nat} {cs : List Char}, cs.length = lens.sum → (groupDigits lens cs).flatten = cs
  | [], cs, h => by
    rw [List.sum_nil, List.length_eq_zero_iff] at h
    simp [groupDigits, h]
  | n :: lens, cs, h => by
    rw [List.sum_cons] at h
    have hdrop : (cs.drop n).length = lens.sum := by rw [List.length_drop]; omega
    rw [groupDigits, List.flatten_cons, flatten_groupDigits hdrop, List.take_append_drop]

theorem mem_of_mem_groupDigits :
    ∀ {lens : List Nat} {cs g : List Char} {c : Char}, g ∈ groupDigits lens cs → c ∈ g → c ∈ cs
  | [], _, _, _, hg, _ => by simp [groupDigits] at hg
  | n :: lens, cs, g, c, hg, hc => by
    rw [groupDigits, List.mem_cons] at hg
    rcases hg with rfl | hg
    · exact List.mem_of_mem_take hc
    · exact List.mem_of_mem_drop (mem_of_mem_groupDigits hg hc)

theorem length_uuidDigits (bits : BitVec 128) : (hexDigits 32 bits.toNat).length = 32 :=
  length_hexDigits (by decide) (Nat.lt_of_lt_of_eq bits.isLt (by decide))

theorem hyphen_notMem_uuidGroup {bits : BitVec 128} {g : List Char}
    (hg : g ∈ groupDigits uuidGroups (hexDigits 32 bits.toNat)) : '-' ∉ g :=
  fun hc => notMem_hexDigits (by decide) 32 bits.toNat (mem_of_mem_groupDigits hg hc)

/-- A sign that is no digit and no hyphen is not in the text of an identifier. -/
theorem notMem_uuidText {c : Char} (hdigit : isDigitOf 16 c = false) (hhyphen : c ≠ '-')
    (bits : BitVec 128) : c ∉ (uuidText bits).toList := by
  rw [uuidText, String.toList_ofList]
  intro hmem
  rcases mem_joinPieces hmem with h | ⟨g, hg, hc⟩
  · exact hhyphen h
  · exact notMem_hexDigits hdigit 32 bits.toNat (mem_of_mem_groupDigits hg hc)

/-! ## Reading -/

theorem eq_of_toLower_eq_u {c : Char} (h : c.toLower = 'u') : c = 'u' ∨ c = 'U' := by
  delta Char.toLower at h
  split at h
  · rename_i hupper
    have hle : c.val.toNat ≤ 90 := UInt32.le_iff_toNat_le.mp hupper.2
    have hadd : (c.val + 32).toNat = (c.val.toNat + 32) % 2 ^ 32 := UInt32.toNat_add ..
    have hu : (c.val + 32).toNat = 117 := congrArg (fun d : Char => d.val.toNat) h
    have hc : c.val.toNat = 85 := by omega
    exact Or.inr (Char.toNat_inj.mp hc)
  · exact Or.inl h

/-- A digit is no sign that another form of an identifier starts with. -/
theorem ne_of_isDigitOf_16 {c : Char} (h : isDigitOf 16 c = true) :
    c ≠ '\x7b' ∧ c.toLower ≠ 'u' := by
  constructor
  · rintro rfl
    exact absurd h (by decide)
  · intro hlower
    rcases eq_of_toLower_eq_u hlower with rfl | rfl <;> exact absurd h (by decide)

theorem length_uuidText (bits : BitVec 128) : (uuidText bits).toList.length = 36 := by
  have hlength := length_uuidDigits bits
  rw [uuidText, String.toList_ofList]
  simp [uuidGroups, groupDigits, joinPieces, hlength]

/-- The text starts with a digit. -/
theorem exists_cons_uuidText (bits : BitVec 128) :
    ∃ c cs, (uuidText bits).toList = c :: cs ∧ isDigitOf 16 c = true := by
  have hlength := length_uuidDigits bits
  have hdigits := isDigitOf_of_ofDigits? (ofDigits?_hexDigits 32 bits.toNat)
  rw [uuidText, String.toList_ofList]
  cases hds : hexDigits 32 bits.toNat with
  | nil => rw [hds] at hlength; exact absurd hlength (by decide)
  | cons d ds =>
    refine ⟨d, _, by simp [uuidGroups, groupDigits, joinPieces]; rfl, hdigits d ?_⟩
    rw [hds]
    exact List.mem_cons_self ..

theorem length_groupDigits :
    ∀ {lens : List Nat} {cs : List Char}, cs.length = lens.sum →
      (groupDigits lens cs).map List.length = lens
  | [], _, _ => rfl
  | n :: lens, cs, h => by
    rw [List.sum_cons] at h
    have hdrop : (cs.drop n).length = lens.sum := by rw [List.length_drop]; omega
    rw [groupDigits, List.map_cons, length_groupDigits hdrop, List.length_take]
    have hmin : min n cs.length = n := by omega
    rw [hmin]

theorem hyphenated?_uuidText (bits : BitVec 128) :
    hyphenated? (uuidText bits).toList = some bits := by
  have hlength := length_uuidDigits bits
  have hpieces : pieces '-' (uuidText bits).toList =
      groupDigits uuidGroups (hexDigits 32 bits.toNat) := by
    rw [uuidText, String.toList_ofList]
    exact pieces_joinPieces (by simp [uuidGroups, groupDigits]) fun _ => hyphen_notMem_uuidGroup
  have hbits : BitVec.ofNat 128 bits.toNat = bits := by
    rw [BitVec.ofNat_toNat, BitVec.setWidth_eq]
  simp only [hyphenated?, hpieces]
  rw [if_pos (length_groupDigits hlength), flatten_groupDigits hlength, uuidDigits?, if_pos hlength,
    ofDigits?_hexDigits, Option.map_some, hbits]

/-- The text of an identifier is read as the identifier. -/
theorem uuid?_uuidText (bits : BitVec 128) : uuid? (uuidText bits).toList = some bits := by
  obtain ⟨c, cs, htext, hdigit⟩ := exists_cons_uuidText bits
  obtain ⟨hbrace, hurn⟩ := ne_of_isDigitOf_16 hdigit
  have hplain : uuidDigits? (uuidText bits).toList = none := by
    rw [uuidDigits?, if_neg (by rw [length_uuidText]; decide)]
  have hbraces : betweenBraces? (uuidText bits).toList = none := by
    rw [htext, betweenBraces?, if_neg (fun h => hbrace h.1)]
  have hscheme : afterUrn? (uuidText bits).toList = none := by
    rw [htext]
    unfold afterUrn?
    split
    · rename_i heq
      obtain ⟨rfl, -⟩ := List.cons.inj heq
      refine if_neg fun h => hurn ?_
      exact (List.cons.inj h).1
    · rfl
  rw [uuid?, hplain, hbraces, hscheme, hyphenated?_uuidText]

/-- Identifiers with the same text are equal. -/
theorem uuidText_inj {x y : BitVec 128} (h : (uuidText x).toList = (uuidText y).toList) :
    x = y := by
  have hread := uuid?_uuidText x
  rw [h, uuid?_uuidText] at hread
  exact (Option.some.inj hread).symm

end FlowRules
