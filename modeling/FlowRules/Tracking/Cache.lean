import FlowRules.FlowSig
import FlowRules.Identifier
import FlowRules.Tracking.Future

/-!
# Connection tracking caches

The direction of a flow is told by a store of keys and values that all workers share.
`TrackingKey` is the key of one direction of a flow through one device : the device,
then the signature. `Cache σ` is what is asked of a store whose state is a `σ` : reads
that leave an entry's age alone and reads that renew it, each in a form that blocks
and one that does not, and writes. Every call answers, or fails, and gives the state
after it. A read that does not block is a future, which may wait for its answer.
-/

namespace FlowRules

/-- Why a store does not answer. -/
inductive CacheError where
  | unavailable
  | timeout
  | backend (detail : String)
  deriving DecidableEq

/-- The cause in words. -/
def CacheError.message : CacheError → String
  | unavailable => "connection tracking cache unavailable"
  | timeout => "connection tracking cache timed out"
  | backend detail => "connection tracking cache error: " ++ detail

/-- The key of a direction of a flow through a device. -/
def trackingKey (device : DeviceId) (sig : FlowSig) : String := device.text ++ "|" ++ sig.text

/-- The key of the opposite direction. -/
def reverseKey (device : DeviceId) (sig : FlowSig) : String := trackingKey device sig.mirror

/-- The value under the key of an expected return flow. -/
def returnMarker : String := "r"

/-- The outcome of a read. -/
abbrev ReadResult := Except CacheError (Option String)

/-- Does a read block? -/
inductive ReadMode where
  | blocking
  | async
  deriving DecidableEq

/-- A store of keys and values with the state `σ`. -/
structure Cache (σ : Type) where
  read : String → σ → ReadResult × σ
  readAsync : String → Future σ ReadResult
  /-- A read that renews the entry. -/
  renew : String → σ → ReadResult × σ
  renewAsync : String → Future σ ReadResult
  set : String → String → σ → Except CacheError Unit × σ
  expirationSecs : σ → Nat

namespace Cache

variable {σ : Type}

/-- A read by the call of the mode, which is brought to its end. -/
def get (cache : Cache σ) : ReadMode → String → σ → ReadResult × σ
  | .blocking, key => cache.read key
  | .async, key => (cache.readAsync key).complete

/-- A renewing read by the call of the mode, which is brought to its end. -/
def getAndTouch (cache : Cache σ) : ReadMode → String → σ → ReadResult × σ
  | .blocking, key => cache.renew key
  | .async, key => (cache.renewAsync key).complete

end Cache

end FlowRules
