import FlowRules.Text.Utf8
import Mathlib.Algebra.Order.Ring.Nat
import Mathlib.Tactic.Common
import Mathlib.Tactic.SplitIfs

/-!
# The order of texts and of their bytes

Texts are compared by their characters, from left to right, and characters by their code points.
To compare the bytes of UTF-8 comes to the same (`Utf8.ofString_lt`) : the first byte of a
character is the greater, the more bytes follow, and the bits of the code point are written from
the most significant on.
-/

namespace FlowRules.Utf8

theorem toNat_lt (c : Char) : c.val.toNat < 0x110000 := by
  rcases c.valid with h | h <;> omega

theorem cons_lt_of_lt {m n : Nat} (h : m < n) (hn : n < 256) (xs ys : List UInt8) :
    UInt8.ofNat m :: xs < UInt8.ofNat n :: ys :=
  List.cons_lt_cons_iff.mpr (.inl ((UInt8.ofNat_lt_iff_lt (Nat.lt_trans h hn) hn).mpr h))

/-- The bytes behind the first one of a character, each with six bits. -/
def lowBytes : Nat → Nat → List UInt8
  | 0, _ => []
  | k + 1, n => lowBytes k (n / 64) ++ [UInt8.ofNat (n % 64 + 128)]

theorem utf8EncodeChar_eq (c : Char) :
    String.utf8EncodeChar c =
      let n := c.val.toNat
      if n ≤ 0x7f then [UInt8.ofNat n]
      else if n ≤ 0x7ff then UInt8.ofNat (n / 64 % 32 + 192) :: lowBytes 1 n
      else if n ≤ 0xffff then UInt8.ofNat (n / 4096 % 16 + 224) :: lowBytes 2 n
      else UInt8.ofNat (n / 262144 % 8 + 240) :: lowBytes 3 n := by
  simp [String.utf8EncodeChar, lowBytes, Nat.div_div_eq_div_mul]

/-- If the bits above them are the same, the low bytes are in the order of the numbers. -/
theorem lowBytes_append_lt {k m n : Nat} (h : m < n) (hhigh : m / 64 ^ k = n / 64 ^ k)
    (xs ys : List UInt8) : lowBytes k m ++ xs < lowBytes k n ++ ys := by
  induction k generalizing m n xs ys with
  | zero =>
    rw [pow_zero, Nat.div_one, Nat.div_one] at hhigh
    exact absurd hhigh (Nat.ne_of_lt h)
  | succ k ih =>
    have hle : m / 64 ≤ n / 64 := Nat.div_le_div_right (Nat.le_of_lt h)
    simp only [lowBytes, List.append_assoc, List.singleton_append]
    rcases Nat.lt_or_eq_of_le hle with hlt | heq
    · refine ih hlt ?_ _ _
      rwa [Nat.div_div_eq_div_mul, Nat.div_div_eq_div_mul, ← pow_succ']
    · rw [heq]
      exact List.append_left_lt (cons_lt_of_lt (by omega) (by omega) xs ys)

/-- The same with a first byte for the bits above. -/
theorem cons_lowBytes_append_lt {k m n a b : Nat} (h : m < n) (hb : b < 256)
    (hfirst : m / 64 ^ k < n / 64 ^ k → a < b) (hsame : m / 64 ^ k = n / 64 ^ k → a = b)
    (xs ys : List UInt8) :
    UInt8.ofNat a :: lowBytes k m ++ xs < UInt8.ofNat b :: lowBytes k n ++ ys := by
  have hle : m / 64 ^ k ≤ n / 64 ^ k := Nat.div_le_div_right (Nat.le_of_lt h)
  rcases Nat.lt_or_eq_of_le hle with hlt | heq
  · exact cons_lt_of_lt (hfirst hlt) hb _ _
  · rw [hsame heq, List.cons_append, List.cons_append, List.cons_lt_cons_iff]
    exact .inr ⟨rfl, lowBytes_append_lt h heq xs ys⟩

/-- The bytes of a smaller character are smaller, whatever follows. -/
theorem utf8EncodeChar_append_lt {c d : Char} (h : c < d) (xs ys : List UInt8) :
    String.utf8EncodeChar c ++ xs < String.utf8EncodeChar d ++ ys := by
  have hlt : c.val.toNat < d.val.toNat := UInt32.lt_iff_toNat_lt.mp h
  have hmax : d.val.toNat < 0x110000 := toNat_lt d
  simp only [utf8EncodeChar_eq]
  split_ifs
  -- The smaller character has no more bytes. With fewer of them its first byte is smaller.
  all_goals
    first
      | omega
      | exact cons_lt_of_lt (by omega) (by omega) _ _
      | exact cons_lowBytes_append_lt hlt (by omega) (by omega) (by omega) xs ys

theorem encode_lt {cs ds : List Char} (h : cs < ds) : encode cs < encode ds := by
  induction cs generalizing ds with
  | nil =>
    cases ds with
    | nil => exact absurd h (List.lt_irrefl [])
    | cons d ds =>
      have hne : encode (d :: ds) ≠ [] := by
        simp [encode, String.utf8EncodeChar_ne_nil]
      obtain ⟨b, bs, hbytes⟩ := List.ne_nil_iff_exists_cons.mp hne
      rw [hbytes]
      exact List.nil_lt_cons b bs
  | cons c cs ih =>
    cases ds with
    | nil => exact absurd h (List.not_lt_nil _)
    | cons d ds =>
      rcases List.cons_lt_cons_iff.mp h with hchar | ⟨rfl, hrest⟩
      · exact utf8EncodeChar_append_lt hchar _ _
      · exact List.append_left_lt (ih hrest)

/-- A smaller text has smaller bytes. -/
theorem ofString_lt {a b : String} (h : a < b) : ofString a < ofString b :=
  encode_lt (String.lt_iff.mp h)

end FlowRules.Utf8
