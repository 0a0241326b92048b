import FlowRules.Word

/-!
# Cyclic redundancy checks

The checksum CRC-32 with the reflected polynomial of IEEE 802.3. A remainder of 32
bits starts with every bit set. Each octet is added to its low bits, and eight shifts
follow, each adding the polynomial if a set bit was shifted out. The checksum is the
remainder inverted.
-/

namespace FlowRules.Crc32

/-- The reflected polynomial of IEEE 802.3. -/
def poly : BitVec 32 := 0xEDB88320

/-- The remainder after one bit. -/
def shift (r : BitVec 32) : BitVec 32 :=
  if r.getLsbD 0 then (r >>> 1) ^^^ poly else r >>> 1

/-- The remainder after `n` bits. -/
def shifts : Nat → BitVec 32 → BitVec 32
  | 0, r => r
  | n + 1, r => shifts n (shift r)

/-- The remainder after an octet. -/
def step (r : BitVec 32) (o : Octet) : BitVec 32 := shifts 8 (r ^^^ o.setWidth 32)

/-- The remainder after octets. -/
def remainder (r : BitVec 32) (octets : List Octet) : BitVec 32 := octets.foldl step r

/-- The checksum of octets. -/
def checksum (octets : List Octet) : BitVec 32 := ~~~ remainder (BitVec.allOnes 32) octets

theorem remainder_append (r : BitVec 32) (xs ys : List Octet) :
    remainder r (xs ++ ys) = remainder (remainder r xs) ys := List.foldl_append

end FlowRules.Crc32
