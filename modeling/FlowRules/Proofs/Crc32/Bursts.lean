import FlowRules.Crc32
import Mathlib.Data.List.Basic
import Mathlib.Tactic.Common

/-!
# Bursts that a cyclic redundancy check tells apart

Two messages that differ in at most four octets next to each other, and in nothing else, have
different checksums (`checksum_ne_of_burst`). Before the burst the remainders are the same.
Behind it they stay different, since a remainder can be told from the one after another octet
(`step_injective`).

In between, a shift is linear in exclusive or (`shift_xor`), and moves down a word whose lowest
bit is clear. So octets may as well be added to the remainder all at once, each in its place, as
long as they fit into it (`remainder_eq_shifts`). At most four octets do, and then they can be
told from the word that they make (`packed_inj`).
-/

namespace FlowRules

/-- Do the rows agree, but for at most four octets next to each other, of which some differ? -/
def BurstApart (xs ys : List Octet) : Prop :=
  ∃ before mid mid' after, xs = before ++ mid ++ after ∧ ys = before ++ mid' ++ after ∧
    mid.length = mid'.length ∧ mid.length ≤ 4 ∧ mid ≠ mid'

namespace BurstApart

variable {xs ys : List Octet}

theorem of_ne (hlength : xs.length = ys.length) (hle : xs.length ≤ 4) (hne : xs ≠ ys) :
    BurstApart xs ys :=
  ⟨[], xs, ys, [], by simp, by simp, hlength, hle, hne⟩

/-- What stands around both rows does not matter. -/
theorem around (h : BurstApart xs ys) (before after : List Octet) :
    BurstApart (before ++ xs ++ after) (before ++ ys ++ after) := by
  obtain ⟨b, mid, mid', a, rfl, rfl, hlength, hle, hne⟩ := h
  exact ⟨before ++ b, mid, mid', a ++ after, by simp, by simp, hlength, hle, hne⟩

theorem behind (h : BurstApart xs ys) (before : List Octet) :
    BurstApart (before ++ xs) (before ++ ys) := by
  simpa using h.around before []

theorem length_eq (h : BurstApart xs ys) : xs.length = ys.length := by
  obtain ⟨b, mid, mid', a, rfl, rfl, hlength, -, -⟩ := h
  simp [hlength]

end BurstApart

namespace Crc32

/-! ## One shift -/

/-- The polynomial marks in the highest bit that it was added. -/
theorem getLsbD_shift_last (r : BitVec 32) : (shift r).getLsbD 31 = r.getLsbD 0 := by
  unfold shift
  cases h : r.getLsbD 0 <;> simp [poly]

theorem shift_injective : Function.Injective shift := by
  intro r s h
  have hlow : r.getLsbD 0 = s.getLsbD 0 := by
    rw [← getLsbD_shift_last r, h, getLsbD_shift_last]
  have hhigh : r >>> 1 = s >>> 1 := by
    unfold shift at h
    rw [hlow] at h
    split at h
    · exact (BitVec.xor_left_inj poly).mp h
    · exact h
  apply BitVec.eq_of_getLsbD_eq
  intro i hi
  cases i with
  | zero => exact hlow
  | succ i =>
    have hbit := congrArg (fun x => x.getLsbD i) hhigh
    simpa [Nat.add_comm 1 i] using hbit

/-- The shift of a sum is the sum of the shifts. -/
theorem shift_xor (r s : BitVec 32) : shift (r ^^^ s) = shift r ^^^ shift s := by
  have hcancel : ∀ x y p : BitVec 32, x ^^^ p ^^^ (y ^^^ p) = x ^^^ y := by
    intro x y p
    rw [BitVec.xor_assoc, BitVec.xor_comm y p, ← BitVec.xor_assoc p p y, BitVec.xor_self,
      BitVec.zero_xor]
  unfold shift
  rw [BitVec.getLsbD_xor, BitVec.ushiftRight_xor_distrib]
  cases r.getLsbD 0 <;> cases s.getLsbD 0
  · rfl
  · exact BitVec.xor_assoc ..
  · simp only [Bool.true_xor, Bool.not_false, if_true, Bool.false_eq_true, if_false]
    rw [BitVec.xor_assoc, BitVec.xor_comm (s >>> 1), ← BitVec.xor_assoc]
  · exact (hcancel ..).symm

/-! ## Several shifts -/

theorem shifts_injective (n : Nat) : Function.Injective (shifts n) := by
  induction n with
  | zero => exact Function.injective_id
  | succ n ih => exact ih.comp shift_injective

theorem shifts_xor (n : Nat) (r s : BitVec 32) :
    shifts n (r ^^^ s) = shifts n r ^^^ shifts n s := by
  induction n generalizing r s with
  | zero => rfl
  | succ n ih => rw [shifts, shift_xor, ih, shifts, shifts]

theorem shifts_add (m n : Nat) (r : BitVec 32) : shifts (m + n) r = shifts n (shifts m r) := by
  induction m generalizing r with
  | zero => rw [Nat.zero_add, shifts]
  | succ m ih => rw [Nat.succ_add, shifts, ih, shifts]

/-- As long as only clear bits are shifted out, the word moves down. -/
theorem shifts_of_clear {n : Nat} {r : BitVec 32} (h : ∀ i < n, r.getLsbD i = false) :
    shifts n r = r >>> n := by
  induction n generalizing r with
  | zero => rw [shifts, BitVec.ushiftRight_zero]
  | succ n ih =>
    have hmoved : shift r = r >>> 1 := by
      rw [shift, h 0 (Nat.succ_pos n), if_neg Bool.false_ne_true]
    have hclear : ∀ i < n, (r >>> 1).getLsbD i = false := by
      intro i hi
      rw [BitVec.getLsbD_ushiftRight]
      exact h (1 + i) (by omega)
    rw [shifts, hmoved, ih hclear, ← BitVec.shiftRight_add, Nat.add_comm]

/-! ## Octets -/

theorem step_injective (o : Octet) : Function.Injective fun r => step r o :=
  fun _ _ h => (BitVec.xor_left_inj _).mp (shifts_injective 8 h)

/-- Remainders that are different stay different. -/
theorem remainder_injective (octets : List Octet) :
    Function.Injective fun r => remainder r octets := by
  induction octets with
  | nil => exact Function.injective_id
  | cons o octets ih => exact ih.comp (step_injective o)

/-- The word with the octets in their places, the first of them lowest. -/
def packed : List Octet → BitVec 32
  | [] => 0
  | o :: os => o.setWidth 32 ^^^ packed os <<< 8

theorem getLsbD_packed_of_ge {os : List Octet} {i : Nat} (h : 8 * os.length ≤ i) :
    (packed os).getLsbD i = false := by
  induction os generalizing i with
  | nil => exact BitVec.getLsbD_zero
  | cons o os ih =>
    rw [List.length_cons] at h
    have hmore := ih (i := i - 8) (by omega)
    have hoctet : o.getLsbD i = false := BitVec.getLsbD_of_ge o i (by omega)
    simp [packed, hmore, hoctet]

/-- Three octets can be moved up without losing a bit. -/
theorem packed_shift {os : List Octet} (h : os.length ≤ 3) : packed os <<< 8 >>> 8 = packed os := by
  apply BitVec.eq_of_getLsbD_eq
  intro i hi
  rw [BitVec.getLsbD_ushiftRight, BitVec.getLsbD_shiftLeft]
  by_cases hin : 8 + i < 32
  · simp [hin]
  · rw [getLsbD_packed_of_ge (show 8 * os.length ≤ i by omega)]
    simp [hin]

/-- Octets that fit into a word are told by it. -/
theorem packed_inj {os os' : List Octet} (hlength : os.length = os'.length) (hle : os.length ≤ 4)
    (h : packed os = packed os') : os = os' := by
  induction os generalizing os' with
  | nil => exact (List.length_eq_zero_iff.mp hlength.symm).symm
  | cons o os ih =>
    obtain _ | ⟨o', os'⟩ := os'
    · cases hlength
    have hrest : os.length = os'.length := Nat.succ.inj hlength
    have hfew : os.length ≤ 3 := Nat.le_of_succ_le_succ hle
    have hoctet : o = o' := by
      apply BitVec.eq_of_getLsbD_eq
      intro i hi
      have hbit := congrArg (fun x => x.getLsbD i) h
      have hword : i < 32 := by omega
      simpa [packed, hi, hword] using hbit
    subst hoctet
    have hmoved := congrArg (fun x : BitVec 32 => x >>> 8) ((BitVec.xor_right_inj _).mp h)
    simp only [packed_shift hfew, packed_shift (hrest ▸ hfew)] at hmoved
    rw [ih hrest (by omega) hmoved]

/-- Up to four octets may be added to the remainder all at once, before the shifts. -/
theorem remainder_eq_shifts (r : BitVec 32) {os : List Octet} (h : os.length ≤ 4) :
    remainder r os = shifts (8 * os.length) (r ^^^ packed os) := by
  induction os generalizing r with
  | nil => exact BitVec.xor_zero.symm
  | cons o os ih =>
    have hfew : os.length ≤ 3 := Nat.le_of_succ_le_succ h
    have hclear : ∀ i < 8, (packed os <<< 8).getLsbD i = false := by
      intro i hi
      simp [hi]
    -- The octets behind are moved into their places by the shifts for the first one.
    have hplaced : packed os = shifts 8 (packed os <<< 8) := by
      rw [shifts_of_clear hclear, packed_shift hfew]
    calc remainder r (o :: os)
        = shifts (8 * os.length) (step r o ^^^ packed os) := ih _ (by omega)
      _ = shifts (8 * os.length) (shifts 8 (r ^^^ o.setWidth 32 ^^^ packed os <<< 8)) := by
        rw [shifts_xor 8, ← hplaced, step]
      _ = shifts (8 * (o :: os).length) (r ^^^ packed (o :: os)) := by
        rw [← shifts_add, packed, BitVec.xor_assoc, List.length_cons, Nat.mul_succ, Nat.add_comm]

/-! ## Messages -/

/-- Messages that differ in one burst only have different checksums. -/
theorem checksum_ne_of_burst {xs ys : List Octet} (h : BurstApart xs ys) :
    checksum xs ≠ checksum ys := by
  obtain ⟨before, mid, mid', after, rfl, rfl, hlength, hle, hne⟩ := h
  intro heq
  have hremainder := BitVec.not_inj.mp heq
  rw [remainder_append, remainder_append, remainder_append, remainder_append] at hremainder
  have hburst := remainder_injective after hremainder
  have hle' : mid'.length ≤ 4 := hlength ▸ hle
  simp only [remainder_eq_shifts _ hle, remainder_eq_shifts _ hle', hlength] at hburst
  have hpacked := (BitVec.xor_right_inj _).mp (shifts_injective _ hburst)
  exact hne (packed_inj hlength hle hpacked)

end Crc32

end FlowRules
