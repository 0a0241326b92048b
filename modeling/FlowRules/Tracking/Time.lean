import FlowRules.Word

/-!
# Moments and lifetimes

A `Moment` counts nanoseconds from some origin. Elapsed time is measured in whole
milliseconds, is zero if time ran backwards, and stays at the greatest word of 64
bits once it has reached it (`Moment.millisSince`). A `Ttl` is the lifetime of an
entry in milliseconds; a lifetime of seconds that does not fit is cut to the greatest
word as well. An entry is expired once the elapsed milliseconds reach the lifetime.
-/

namespace FlowRules

/-- The greatest word of 64 bits. -/
def maxWord64 : Nat := (BitVec.allOnes 64).toNat

/-- The number, or the greatest word of 64 bits if it is above. -/
def saturate (n : Nat) : Nat := min n maxWord64

/-- The milliseconds of a second. -/
def millisPerSecond : Nat := 1000

/-- The nanoseconds of a second. -/
def nanosPerSecond : Nat := 1000000000

/-- The nanoseconds of a millisecond. -/
def nanosPerMilli : Nat := 1000000

/-- A moment, in nanoseconds from the origin. -/
structure Moment where
  nanos : Nat
  deriving DecidableEq

namespace Moment

/-- Moments compare as time runs. -/
instance : Ord Moment := ⟨fun s t => compare s.nanos t.nanos⟩

/-- The moment some nanoseconds later. -/
def plus (t : Moment) (nanos : Nat) : Moment := ⟨t.nanos + nanos⟩

/-- The whole milliseconds from the earlier moment on : those of the full seconds and
those of what is left over. -/
def millisSince (t earlier : Moment) : Nat :=
  let elapsed := t.nanos - earlier.nanos
  let seconds := elapsed / nanosPerSecond
  saturate (saturate (seconds * millisPerSecond) + elapsed % nanosPerSecond / nanosPerMilli)

end Moment

/-- The lifetime of an entry. -/
structure Ttl where
  millis : Nat
  deriving DecidableEq

namespace Ttl

/-- The lifetime of some seconds. -/
def ofSeconds (seconds : BitVec 64) : Ttl := ⟨saturate (seconds.toNat * millisPerSecond)⟩

/-- The full seconds of the lifetime. -/
def seconds (ttl : Ttl) : Nat := ttl.millis / millisPerSecond

/-- Is an entry expired that was last used then? -/
def isExpired (ttl : Ttl) (lastHit now : Moment) : Bool := ttl.millis ≤ now.millisSince lastHit

end Ttl

end FlowRules
