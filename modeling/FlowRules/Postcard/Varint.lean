import FlowRules.Layout.Members

/-!
# Numbers of varying length

A number of `w` bits is written in groups of seven bits, the lowest group first, in
as many bytes as it needs; every byte but the last has its top bit set. Reading takes
at most as many bytes as `w` bits can need, leading groups of zeros included, and the
last byte these bits leave room for must not hold more of them.
-/

namespace FlowRules.Postcard

/-- The greatest number of groups that `w` bits need. -/
def maxGroups (w : Nat) : Nat := (w + 6) / 7

/-- A number in at most `k` groups. -/
def putGroups : Nat → Nat → List UInt8
  | 0, _ => []
  | k + 1, n =>
    if n < 128 then [UInt8.ofNat n] else UInt8.ofNat (n % 128 + 128) :: putGroups k (n / 128)

/-- A number of `w` bits. -/
def putVarint (w n : Nat) : List UInt8 := putGroups (maxGroups w) n

/-- The number in at most `k` groups, of which a last one is at most `top`, and the
bytes after it. -/
def getGroups (top : Nat) : Nat → List UInt8 → Except DecodeError (Nat × List UInt8)
  | 0, _ => .error .badVarint
  | _ + 1, [] => .error .endOfInput
  | k + 1, b :: bytes =>
    if b.toNat < 128 then
      if k = 0 ∧ top < b.toNat then .error .badVarint else .ok (b.toNat, bytes)
    else do
      let (n, bytes) ← getGroups top k bytes
      return (b.toNat - 128 + 128 * n, bytes)

/-- The number of `w` bits, and the bytes after it. -/
def getVarint (w : Nat) (bytes : List UInt8) : Except DecodeError (Nat × List UInt8) :=
  getGroups (BitVec.allOnes (w % 7)).toNat (maxGroups w) bytes

end FlowRules.Postcard
