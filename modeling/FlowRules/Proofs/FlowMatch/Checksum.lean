import FlowRules.Proofs.Crc32.Bursts
import FlowRules.Proofs.FlowMatch.Digest

/-!
# Changes that the checksum of a flow match shows

A key is a row of fields (`FlowKey.fields`), and the octets of the key are those of its fields.
Two fields are narrowly apart if they differ, and are at most 32 bits wide or quote octets that
differ in at most four next to each other (`KeyField.NarrowlyApart`). The octets of such fields
differ in one burst. This remains so for the keys around them and for the match around these,
since nothing else differs, the counts in front included (`OneApart.flatMap`). A burst is what
the check never misses (`FlowMatch.checksum_ne_of_oneApart`).
-/

namespace FlowRules

/-! ## Rows that differ in one place -/

/-- Do the rows agree, but for one place with items that are so related? -/
def OneApart {α : Type} (r : α → α → Prop) (xs ys : List α) : Prop :=
  ∃ before x y after, xs = before ++ x :: after ∧ ys = before ++ y :: after ∧ r x y

namespace OneApart

variable {α : Type} {r : α → α → Prop} {xs ys : List α}

theorem length_eq (h : OneApart r xs ys) : xs.length = ys.length := by
  obtain ⟨before, x, y, after, rfl, rfl, -⟩ := h
  simp

/-- What is written item by item differs in one burst if the items in that place do. -/
theorem flatMap {write : α → List Octet} (hwrite : ∀ x y, r x y → BurstApart (write x) (write y))
    (h : OneApart r xs ys) : BurstApart (xs.flatMap write) (ys.flatMap write) := by
  obtain ⟨before, x, y, after, rfl, rfl, hxy⟩ := h
  simpa using (hwrite x y hxy).around (before.flatMap write) (after.flatMap write)

end OneApart

/-! ## Fields -/

/-- A field of a flow key. -/
inductive KeyField where
  | octet (x : Octet)
  | word16 (x : BitVec 16)
  | word32 (x : BitVec 32)
  | word64 (x : BitVec 64)
  | ipv4 (ip : Ipv4)
  | mac (m : Mac)
  /-- The leading octets of another packet. -/
  | quoted (os : List Octet)

namespace KeyField

/-- The octets that are written for the field. -/
def digest : KeyField → List Octet
  | octet x => [x]
  | word16 x => littleEndian 2 x
  | word32 x => littleEndian 4 x
  | word64 x => littleEndian 8 x
  | ipv4 ip => countedOctets ip.octets
  | mac m => countedOctets m.octets
  | quoted os => countedOctets os

/-- Do the fields differ, within 32 bits? -/
inductive NarrowlyApart : KeyField → KeyField → Prop
  | octet {x y : Octet} (h : x ≠ y) : NarrowlyApart (.octet x) (.octet y)
  | word16 {x y : BitVec 16} (h : x ≠ y) : NarrowlyApart (.word16 x) (.word16 y)
  | word32 {x y : BitVec 32} (h : x ≠ y) : NarrowlyApart (.word32 x) (.word32 y)
  | ipv4 {x y : Ipv4} (h : x ≠ y) : NarrowlyApart (.ipv4 x) (.ipv4 y)
  | quoted {xs ys : List Octet} (h : BurstApart xs ys) : NarrowlyApart (.quoted xs) (.quoted ys)

theorem burstApart_word {n : Nat} (hn : n ≤ 4) {x y : BitVec (8 * n)} (h : x ≠ y) :
    BurstApart (littleEndian n x) (littleEndian n y) := by
  refine .of_ne ?_ ?_ fun heq => h (littleEndian_inj rfl heq)
  · rw [length_littleEndian, length_littleEndian]
  · rwa [length_littleEndian]

/-- The counts agree, so a burst in the octets is all. -/
theorem burstApart_counted {xs ys : List Octet} (h : BurstApart xs ys) :
    BurstApart (countedOctets xs) (countedOctets ys) := by
  have hburst := h.behind (countOctets xs.length)
  rwa [countedOctets, countedOctets, ← h.length_eq]

theorem NarrowlyApart.digest {f g : KeyField} (h : f.NarrowlyApart g) :
    BurstApart f.digest g.digest := by
  cases h with
  | octet h => exact .of_ne rfl (show 1 ≤ 4 by decide) fun heq => h (List.singleton_inj.mp heq)
  | word16 h => exact burstApart_word (n := 2) (by decide) h
  | word32 h => exact burstApart_word (n := 4) (by decide) h
  | @ipv4 x y h =>
    have hoctets : x.octets ≠ y.octets := fun heq => h (Ipv4.octets_injective heq)
    exact burstApart_counted (.of_ne rfl (show 4 ≤ 4 by decide) hoctets)
  | quoted h => exact burstApart_counted h

end KeyField

/-! ## Keys -/

namespace FlowKey

/-- The fields of the key in their order. -/
def fields : FlowKey → List KeyField
  | inPort port => [.word32 port]
  | ethernet src dst => [.mac src, .mac dst]
  | etherType type => [.word16 type]
  | vlan tag => [.word16 tag]
  | ipv4 src dst protocol tos => [.ipv4 src, .ipv4 dst, .octet protocol, .octet tos]
  | tcp src dst => [.word16 src, .word16 dst]
  | udp src dst => [.word16 src, .word16 dst]
  | icmp type code => [.octet type, .octet code]
  | arp op srcIp dstIp srcMac dstMac =>
    [.word16 op, .ipv4 srcIp, .ipv4 dstIp, .mac srcMac, .mac dstMac]
  | tunnel id src dst => [.word64 id, .ipv4 src, .ipv4 dst]
  | priority value => [.word32 value]
  | icmpEcho type code id => [.octet type, .octet code, .word16 id]
  | icmpError type code quoted => [.octet type, .octet code, .quoted quoted]

/-- The octets of a key are those of its fields. -/
theorem fieldOctets_eq (key : FlowKey) : key.fieldOctets = key.fields.flatMap KeyField.digest := by
  cases key <;> simp [fieldOctets, fields, KeyField.digest]

/-- Are the keys of one kind and agree, but for one field that differs within 32 bits? -/
def NarrowlyApart (a b : FlowKey) : Prop :=
  a.kindIndex = b.kindIndex ∧ OneApart KeyField.NarrowlyApart a.fields b.fields

theorem NarrowlyApart.digest {a b : FlowKey} (h : a.NarrowlyApart b) :
    BurstApart a.digest b.digest := by
  obtain ⟨hkind, hfields⟩ := h
  have hburst := (hfields.flatMap fun _ _ h => h.digest).behind (countOctets a.kindIndex)
  rwa [FlowKey.digest, FlowKey.digest, fieldOctets_eq, fieldOctets_eq, ← hkind]

end FlowKey

/-! ## Matches -/

namespace FlowMatch

/-- Matches that differ in one key only, and there in one field only and within 32 bits, have
different checksums. -/
theorem checksum_ne_of_oneApart {a b : FlowMatch}
    (h : OneApart FlowKey.NarrowlyApart a.keys b.keys) : a.checksum ≠ b.checksum := by
  have hburst := (h.flatMap fun _ _ h => h.digest).behind (countOctets a.keys.length)
  have hdigest : BurstApart a.digest b.digest := by rwa [digest, digest, ← h.length_eq]
  exact Crc32.checksum_ne_of_burst hdigest

/-- An error that quotes six octets, between two other keys. -/
def sampleQuoting (quoted : List Octet) : FlowMatch :=
  ofKeys [.inPort 7, .icmpError 3 1 quoted, .priority 5]

/-- Three octets next to each other are changed. -/
theorem sampleQuoting_checksum_ne :
    OneApart FlowKey.NarrowlyApart (sampleQuoting [0x45, 0, 0, 0x1c, 0x40, 0x11]).keys
        (sampleQuoting [0x45, 1, 0, 0x2c, 0x40, 0x11]).keys ∧
      (sampleQuoting [0x45, 0, 0, 0x1c, 0x40, 0x11]).checksum ≠
        (sampleQuoting [0x45, 1, 0, 0x2c, 0x40, 0x11]).checksum := by
  have hquoted : BurstApart [0x45, 0, 0, 0x1c, 0x40, 0x11] [0x45, 1, 0, 0x2c, 0x40, 0x11] :=
    ⟨[0x45], [0, 0, 0x1c], [1, 0, 0x2c], [0x40, 0x11], rfl, rfl, rfl, by decide, by decide⟩
  have hkeys : OneApart FlowKey.NarrowlyApart (sampleQuoting [0x45, 0, 0, 0x1c, 0x40, 0x11]).keys
      (sampleQuoting [0x45, 1, 0, 0x2c, 0x40, 0x11]).keys :=
    ⟨[.inPort 7], _, _, [.priority 5], rfl, rfl, rfl, [.octet 3, .octet 1], _, _, [], rfl, rfl,
      .quoted hquoted⟩
  exact ⟨hkeys, checksum_ne_of_oneApart hkeys⟩

end FlowMatch

end FlowRules
