import FlowRules.Proofs.Address.Number
import Mathlib.Data.Set.Basic

/-!
# Prefixes shared bit by bit

An address is a row of 32 bits, the first the most significant (`Ipv4.bit`). Two addresses
share a prefix if its bits agree one by one (`Ipv4.SharesPrefix`). For each length this is
an equivalence, and a shorter prefix is then shared as well. Masking keeps the bits of the
prefix and clears the others, so the members of a network are the addresses that share its
prefix (`Network.mem_members`). What is said of networks follows : bits after the prefix do
not count, a shorter prefix takes in more addresses, and of two networks one lies in the
other or they have no address in common.

The netmask is also drawn out of the sign of a word (`PrefixLen.signMask?`) : the least
signed word is shifted to the right, and the sign fills the bits that become free. Such a
shift must be by less than the width. It always is, since a length of zero has a netmask of
its own.
-/

namespace FlowRules

/-! ## Bits of an address -/

namespace Ipv4

/-- The bit at the place, the most significant one being at the place zero. -/
def bit (ip : Ipv4) (i : Nat) : Bool := ip.number.testBit (31 - i)

/-- The leading bits of the addresses agree, as many as the length. -/
def SharesPrefix (len : PrefixLen) (x y : Ipv4) : Prop := ∀ i < len.val, x.bit i = y.bit i

variable {len m n : PrefixLen} {x y z : Ipv4}

theorem SharesPrefix.symm (h : SharesPrefix len x y) : SharesPrefix len y x :=
  fun i hi => (h i hi).symm

theorem SharesPrefix.trans (h : SharesPrefix len x y) (h' : SharesPrefix len y z) :
    SharesPrefix len x z :=
  fun i hi => (h i hi).trans (h' i hi)

/-- A shorter prefix is shared as well. -/
theorem SharesPrefix.shorten (h : SharesPrefix n x y) (hle : m.val ≤ n.val) :
    SharesPrefix m x y :=
  fun i hi => h i (Nat.lt_of_lt_of_le hi hle)

/-- A prefix is shared if the quotients by the size of the block agree. -/
theorem sharesPrefix_iff : SharesPrefix len x y ↔
    x.number / 2 ^ (32 - len.val) = y.number / 2 ^ (32 - len.val) := by
  have hle := len.le
  constructor
  · intro h
    apply Nat.eq_of_testBit_eq
    intro j
    rw [Nat.testBit_div_two_pow, Nat.testBit_div_two_pow]
    by_cases hj : j + (32 - len.val) < 32
    · have hplace : 31 - (31 - (j + (32 - len.val))) = j + (32 - len.val) := by omega
      have hbit := h (31 - (j + (32 - len.val))) (by omega)
      rwa [bit, bit, hplace] at hbit
    · -- Beyond the word neither number has a bit.
      have hpow : 2 ^ 32 ≤ 2 ^ (j + (32 - len.val)) :=
        Nat.pow_le_pow_right (by decide) (by omega)
      rw [Nat.testBit_lt_two_pow (Nat.lt_of_lt_of_le x.number_lt hpow),
        Nat.testBit_lt_two_pow (Nat.lt_of_lt_of_le y.number_lt hpow)]
  · intro h i hi
    have hplace : 31 - i = (31 - i - (32 - len.val)) + (32 - len.val) := by omega
    rw [bit, bit, hplace, ← Nat.testBit_div_two_pow, h, Nat.testBit_div_two_pow]

/-- Addresses that share all bits are equal. -/
theorem eq_of_bit_eq (h : ∀ i < 32, x.bit i = y.bit i) : x = y := by
  have hnumber := sharesPrefix_iff.mp (show SharesPrefix .full x y from h)
  exact number_inj (by simpa [PrefixLen.full] using hnumber)

/-! ## Masks -/

/-- A mask keeps the bits of the prefix and clears the others. -/
theorem bit_mask (ip : Ipv4) (len : PrefixLen) {i : Nat} (hi : i < 32) :
    (ip.mask len).bit i = (decide (i < len.val) && ip.bit i) := by
  have hle := len.le
  rw [bit, bit, number_mask, Nat.testBit_mul_two_pow, Nat.testBit_div_two_pow]
  by_cases hinside : i < len.val
  · have hplace : 31 - i - (32 - len.val) + (32 - len.val) = 31 - i := by omega
    have hkept : 32 - len.val ≤ 31 - i := by omega
    simp [hinside, hplace, hkept]
  · have hcleared : ¬32 - len.val ≤ 31 - i := by omega
    simp [hinside, hcleared]

end Ipv4

namespace PrefixLen

/-- The shorter of two lengths. -/
instance : Min PrefixLen := ⟨fun m n => if m.val ≤ n.val then m else n⟩

theorem val_min (m n : PrefixLen) : (min m n).val = min m.val n.val := by
  show (if m.val ≤ n.val then m else n).val = _
  split <;> omega

end PrefixLen

/-- Masking twice keeps the bits of both prefixes. -/
theorem Ipv4.mask_mask (ip : Ipv4) (m n : PrefixLen) :
    (ip.mask n).mask m = ip.mask (min m n) := by
  apply eq_of_bit_eq
  intro i hi
  simp only [bit_mask _ _ hi, PrefixLen.val_min, Nat.lt_min, Bool.decide_and, Bool.and_assoc]

namespace PrefixLen

/-! ## Netmasks -/

/-- A netmask is what the mask leaves of the greatest address. -/
theorem netmask_eq (len : PrefixLen) : len.netmask = Ipv4.broadcast.mask len := by
  have hones : Ipv4.broadcast.toBits = BitVec.allOnes 32 := by decide
  rw [netmask, Ipv4.mask, hones, BitVec.allOnes_and]

theorem number_netmask (len : PrefixLen) :
    len.netmask.number = 2 ^ 32 - 2 ^ (32 - len.val) := by
  have hle := len.le
  have hpow : 2 ^ 32 = 2 ^ len.val * 2 ^ (32 - len.val) := by
    rw [← Nat.pow_add]
    congr 1
    omega
  have hpos : 0 < 2 ^ (32 - len.val) := Nat.two_pow_pos _
  have hgreatest : Ipv4.broadcast.number = 2 ^ 32 - 1 := by decide
  -- Of the greatest number the mask leaves one block less than there are.
  have hquot : (2 ^ 32 - 1) / 2 ^ (32 - len.val) = 2 ^ len.val - 1 := by
    rw [hpow]
    have := Nat.mul_sub_div 0 (2 ^ (32 - len.val)) (2 ^ len.val)
      (Nat.mul_pos hpos (Nat.two_pow_pos _))
    simpa [Nat.mul_comm] using this
  rw [netmask_eq, Ipv4.number_mask, hgreatest, hquot, Nat.sub_mul, Nat.one_mul, ← hpow]

/-- The shift of a signed word to the right, which fills the bits that become free with the
sign. The amount must be below the width. -/
def signShift? {w : Nat} (x : BitVec w) (amount : Nat) : Option (BitVec w) :=
  if amount < w then some (x.sshiftRight amount) else none

/-- The netmask by a shift of the least signed word : by one less than the length, so that
none is needed for the length zero. -/
def signMask? (len : PrefixLen) : Option Ipv4 :=
  if len.val = 0 then some .any
  else (signShift? (BitVec.intMin 32) (len.val - 1)).map Ipv4.ofBits

/-- The sign fills as many bits as the word is shifted by, besides its own. -/
theorem sshiftRight_intMin {len : PrefixLen} (h : len.val ≠ 0) :
    (BitVec.intMin 32).sshiftRight (len.val - 1) = len.maskBits := by
  have hle := len.le
  have hsign : (BitVec.intMin 32).msb = true := by decide
  apply BitVec.eq_of_getLsbD_eq
  intro i hi
  rw [maskBits, BitVec.getLsbD_sshiftRight, BitVec.getLsbD_shiftLeft, BitVec.getLsbD_allOnes,
    BitVec.getLsbD_intMin, hsign, Bool.eq_iff_iff]
  simp only [Bool.and_eq_true, Bool.not_eq_true', decide_eq_true_eq, decide_eq_false_iff_not]
  split
  · -- Up to the place of the sign the shifted word has its own bits, of which only that is set.
    simp only [decide_eq_true_eq]
    omega
  · simp only [eq_self, and_true]
    omega

/-- The shift is never out of range, and makes the netmask. -/
theorem signMask?_eq (len : PrefixLen) : len.signMask? = some len.netmask := by
  have hle := len.le
  unfold signMask?
  split
  next hzero =>
    obtain rfl : len = zero := by
      obtain ⟨n, hn⟩ := len
      cases hzero
      rfl
    decide
  next hpos =>
    rw [signShift?, if_pos (by omega), Option.map_some, sshiftRight_intMin hpos]
    rfl

end PrefixLen

namespace Network

variable {m n : PrefixLen} {x y : Ipv4} {p q : Network} {ip : Ipv4}

/-! ## Members -/

/-- The addresses of the network. -/
def members (net : Network) : Set Ipv4 := {ip | net.contains ip = true}

theorem mem_members : ip ∈ p.members ↔ Ipv4.SharesPrefix p.len p.address ip := by
  show p.contains ip = true ↔ _
  rw [contains_iff, Ipv4.sharesPrefix_iff, eq_comm]

/-- Addresses that share the prefix make the same network. -/
theorem members_eq_of_sharesPrefix (h : Ipv4.SharesPrefix n x y) :
    members ⟨x, n⟩ = members ⟨y, n⟩ := by
  ext ip
  rw [mem_members, mem_members]
  exact ⟨h.symm.trans, h.trans⟩

theorem members_subset_of_le (h : m.val ≤ n.val) : members ⟨x, n⟩ ⊆ members ⟨x, m⟩ :=
  fun _ hip => mem_members.mpr ((mem_members.mp hip).shorten h)

/-- With an address in common, the network of the longer prefix lies in the other. -/
theorem members_subset_of_mem (hle : p.len.val ≤ q.len.val) (hp : ip ∈ p.members)
    (hq : ip ∈ q.members) : q.members ⊆ p.members := by
  have hshort := (mem_members.mp hq).shorten hle
  intro other hother
  exact mem_members.mpr
    ((mem_members.mp hp).trans (hshort.symm.trans ((mem_members.mp hother).shorten hle)))

theorem members_nested_or_disjoint (p q : Network) :
    p.members ⊆ q.members ∨ q.members ⊆ p.members ∨ p.members ∩ q.members = ∅ := by
  by_cases hcommon : ∃ ip, ip ∈ p.members ∧ ip ∈ q.members
  · obtain ⟨ip, hp, hq⟩ := hcommon
    rcases Nat.le_total p.len.val q.len.val with hle | hle
    · exact Or.inr (Or.inl (members_subset_of_mem hle hp hq))
    · exact Or.inl (members_subset_of_mem hle hq hp)
  · refine Or.inr (Or.inr (Set.eq_empty_iff_forall_notMem.mpr fun ip hip => hcommon ?_))
    exact ⟨ip, hip.1, hip.2⟩

end Network

/-! ## Prefixes as a whole -/

namespace PrefixLen

/-- Prefixes are exact to the bit. The shift that makes the netmask is in range for every
length, and the netmask is the greatest number of 32 bits less the rest of a block. A mask
rounds down to a multiple of the size of the block, and a second one keeps the shorter of
the two prefixes. An address is in a network if it has the leading bits of the configured
one, whatever bits follow in that; it is then in the network of any shorter prefix. Of two
networks one lies in the other, or they have no address in common. -/
theorem exact_to_the_bit (m n : PrefixLen) (x y : Ipv4) (p q : Network) :
    n.signMask? = some n.netmask ∧
    n.netmask.number = 2 ^ 32 - 2 ^ (32 - n.val) ∧
    (x.mask n).number = x.number / 2 ^ (32 - n.val) * 2 ^ (32 - n.val) ∧
    (x.mask n).mask m = x.mask (min m n) ∧
    (Network.contains ⟨x, n⟩ y = true ↔ ∀ i < n.val, x.bit i = y.bit i) ∧
    (∀ x' : Ipv4, (∀ i < n.val, x.bit i = x'.bit i) →
      Network.contains ⟨x', n⟩ y = Network.contains ⟨x, n⟩ y) ∧
    (m.val ≤ n.val → Network.contains ⟨x, n⟩ y = true → Network.contains ⟨x, m⟩ y = true) ∧
    (p.members ⊆ q.members ∨ q.members ⊆ p.members ∨ p.members ∩ q.members = ∅) := by
  refine ⟨n.signMask?_eq, n.number_netmask, x.number_mask n, x.mask_mask m n,
    Network.mem_members, fun x' h => ?_, fun hle hy => ?_, p.members_nested_or_disjoint q⟩
  · have hsame : y ∈ Network.members ⟨x', n⟩ ↔ y ∈ Network.members ⟨x, n⟩ := by
      rw [Network.members_eq_of_sharesPrefix h]
    exact Bool.eq_iff_iff.mpr hsame
  · exact Network.members_subset_of_le hle hy

/-- A network that is configured with the address of one of its members. -/
def sampleNetwork : Network := ⟨⟨10, 0, 20, 3⟩, ⟨22, by decide⟩⟩

/-- Another member is in it whatever host bits the network is configured with, and in the
network of sixteen bits around it. -/
theorem sampleNetwork_exact :
    (∀ i < sampleNetwork.len.val, sampleNetwork.address.bit i = (⟨10, 0, 22, 0⟩ : Ipv4).bit i) ∧
      Network.contains ⟨⟨10, 0, 22, 0⟩, sampleNetwork.len⟩ ⟨10, 0, 23, 77⟩ =
        sampleNetwork.contains ⟨10, 0, 23, 77⟩ ∧
      16 ≤ sampleNetwork.len.val ∧ sampleNetwork.contains ⟨10, 0, 23, 77⟩ = true ∧
      Network.contains ⟨sampleNetwork.address, ⟨16, by decide⟩⟩ ⟨10, 0, 23, 77⟩ = true := by
  have hbits : ∀ i < sampleNetwork.len.val,
      sampleNetwork.address.bit i = (⟨10, 0, 22, 0⟩ : Ipv4).bit i := by decide
  have hmember : sampleNetwork.contains ⟨10, 0, 23, 77⟩ = true := by decide
  obtain ⟨-, -, -, -, -, hhost, hshorter, -⟩ :=
    exact_to_the_bit ⟨16, by decide⟩ sampleNetwork.len sampleNetwork.address ⟨10, 0, 23, 77⟩
      sampleNetwork sampleNetwork
  exact ⟨hbits, hhost _ hbits, by decide, hmember, hshorter (by decide) hmember⟩

end PrefixLen

end FlowRules
