import FlowRules.Address.Prefix
import Mathlib.Algebra.Ring.Nat
import Mathlib.Tactic.SplitIfs

/-!
# Addresses as numbers

An address is a number below `2 ^ 32`, its octets the digits in base 256, the first
the most significant (`Ipv4.number`). Masking clears what is below the prefix : the
number is rounded down to a multiple of the size of the block (`number_mask`). So an
address is in a network if both have the same quotient by that size
(`Network.contains_iff`), and what was configured after the prefix does not count.
-/

namespace FlowRules

namespace Ipv4

/-- The number whose digits in base 256 are the octets. -/
def number (ip : Ipv4) : Nat :=
  ((ip.a.toNat * 256 + ip.b.toNat) * 256 + ip.c.toNat) * 256 + ip.d.toNat

/-- Appending an octet to a word appends a digit in base 256. -/
theorem toNat_append_octet {w : Nat} (x : BitVec w) (o : Octet) :
    (x ++ o).toNat = x.toNat * 256 + o.toNat := by
  have h : x.toNat <<< 8 + o.toNat = x.toNat <<< 8 ||| o.toNat :=
    Nat.shiftLeft_add_eq_or_of_lt o.isLt x.toNat
  rw [BitVec.toNat_append, ← h, Nat.shiftLeft_eq]

theorem toNat_toBits (ip : Ipv4) : ip.toBits.toNat = ip.number := by
  simp only [toBits, toNat_append_octet, number]

theorem number_lt (ip : Ipv4) : ip.number < 2 ^ 32 := by
  rw [← toNat_toBits]
  exact ip.toBits.isLt

/-- The octets of a word make the word. -/
theorem toBits_ofBits (x : BitVec 32) : (ofBits x).toBits = x := by
  apply BitVec.eq_of_getLsbD_eq
  intro i hi
  simp only [toBits, ofBits, BitVec.getLsbD_append, BitVec.getLsbD_extractLsb']
  split_ifs with h₁ h₂ h₃
  · simp [h₁]
  · have : 8 + (i - 8) = i := by omega
    simp [h₂, this]
  · have : 16 + (i - 8 - 8) = i := by omega
    simp [h₃, this]
  · have : 24 + (i - 8 - 8 - 8) = i := by omega
    have h₄ : i - 8 - 8 - 8 < 8 := by omega
    simp [h₄, this]

/-- Addresses with the same number are equal. -/
theorem number_inj {x y : Ipv4} (h : x.number = y.number) : x = y := by
  obtain ⟨a, b, c, d⟩ := x
  obtain ⟨a', b', c', d'⟩ := y
  have := a.isLt
  have := b.isLt
  have := c.isLt
  have := d.isLt
  have := a'.isLt
  have := b'.isLt
  have := c'.isLt
  have := d'.isLt
  simp only [number] at h
  rw [mk.injEq]
  refine ⟨?_, ?_, ?_, ?_⟩ <;> apply BitVec.eq_of_toNat_eq <;> omega

/-! ## Prefixes -/

/-- The mask keeps the multiples of the block size below the number. -/
theorem number_mask (ip : Ipv4) (len : PrefixLen) :
    (ip.mask len).number = ip.number / 2 ^ (32 - len.val) * 2 ^ (32 - len.val) := by
  have hbits : (ip.mask len).toBits = ip.toBits >>> (32 - len.val) <<< (32 - len.val) := by
    rw [mask, toBits_ofBits, PrefixLen.maskBits, BitVec.shiftLeft_ushiftRight]
  have hle : ip.number / 2 ^ (32 - len.val) * 2 ^ (32 - len.val) < 2 ^ 32 :=
    Nat.lt_of_le_of_lt (Nat.div_mul_le_self _ _) ip.number_lt
  rw [← toNat_toBits, hbits, BitVec.toNat_shiftLeft, BitVec.toNat_ushiftRight,
    Nat.shiftLeft_eq, Nat.shiftRight_eq_div_pow, toNat_toBits, Nat.mod_eq_of_lt hle]

end Ipv4

/-- An address is in the network if the quotients by the size of the block agree. -/
theorem Network.contains_iff (net : Network) (ip : Ipv4) :
    net.contains ip = true ↔
      ip.number / 2 ^ (32 - net.len.val) = net.address.number / 2 ^ (32 - net.len.val) := by
  have hpos : 0 < 2 ^ (32 - net.len.val) := Nat.two_pow_pos _
  rw [contains, decide_eq_true_iff]
  constructor
  · intro h
    have hmul := congrArg Ipv4.number h
    rw [Ipv4.number_mask, Ipv4.number_mask] at hmul
    exact Nat.eq_of_mul_eq_mul_right hpos hmul
  · intro h
    apply Ipv4.number_inj
    rw [Ipv4.number_mask, Ipv4.number_mask, h]

end FlowRules
