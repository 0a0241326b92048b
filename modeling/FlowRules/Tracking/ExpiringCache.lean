import FlowRules.Log
import FlowRules.Table
import FlowRules.Tracking.Cache
import FlowRules.Tracking.Time

/-!
# The cache that forgets

An `ExpiringCache` keeps each value with the moment of its last write or renewing
read. An entry whose lifetime has passed is hidden from readers (`lookup`), and is
removed by the next `sweep`. `ExpiringCache.cache` reads the clock that stands beside
the entries; time passes only between calls (`Clocked.advance`).
-/

namespace FlowRules

/-- The settings of an expiring cache. -/
structure CacheConfig where
  name : String := "conn_track"
  expirationSecs : BitVec 64 := 60
  deriving DecidableEq

/-- A value with the moment of its last write or renewing read. -/
structure CacheEntry where
  value : String
  lastHit : Moment
  deriving DecidableEq

/-- Entries that are hidden once their lifetime has passed. -/
structure ExpiringCache where
  name : String
  ttl : Ttl
  entries : Table String CacheEntry
  deriving DecidableEq

namespace ExpiringCache

/-- The cache without entries. -/
def new (config : CacheConfig) : ExpiringCache :=
  ⟨config.name, .ofSeconds config.expirationSecs, .empty⟩

/-- The number of entries, expired ones included. -/
def size (c : ExpiringCache) : Nat := c.entries.size

/-- The cache with all entries gone. -/
def clear (c : ExpiringCache) : ExpiringCache := { c with entries := .empty }

/-- The keys and values in order of the keys, expired ones included. -/
def dump (c : ExpiringCache) : List (String × String) :=
  c.entries.entries.map fun (key, entry) => (key, entry.value)

/-- The entry of a key, unless its lifetime has passed. -/
def live? (c : ExpiringCache) (now : Moment) (key : String) : Option CacheEntry :=
  (c.entries.get? key).filter fun entry => !c.ttl.isExpired entry.lastHit now

/-- The value of a live entry, renewed if asked. -/
def lookup (c : ExpiringCache) (touch : Bool) (now : Moment) (key : String) :
    Option String × ExpiringCache :=
  match c.live? now key with
  | none => (none, c)
  | some entry =>
    (some entry.value,
      if touch then { c with entries := c.entries.insert key ⟨entry.value, now⟩ } else c)

/-- The cache with the value of a key written. -/
def set (c : ExpiringCache) (now : Moment) (key value : String) : ExpiringCache :=
  { c with entries := c.entries.insert key ⟨value, now⟩ }

/-- The cache without the entries whose lifetime has passed at the moment. -/
def sweep (c : ExpiringCache) (now : Moment) : ExpiringCache :=
  { c with entries := c.entries.filter fun _ entry => !c.ttl.isExpired entry.lastHit now }

/-- The number of entries that a sweep removes. -/
def expiredCount (c : ExpiringCache) (now : Moment) : Nat := c.size - (c.sweep now).size

/-- What a sweep reports : how many entries it removed, if any. -/
def sweepLog (c : ExpiringCache) (now : Moment) : List LogLine :=
  if c.expiredCount now = 0 then []
  else [⟨.note, c.name ++ ": expired " ++ decimal (c.expiredCount now) ++ " entries"⟩]

end ExpiringCache

/-! ## On a clock -/

/-- A state with the present moment. -/
structure Clocked (σ : Type) where
  now : Moment
  state : σ

/-- The state some nanoseconds later. -/
def Clocked.advance {σ : Type} (s : Clocked σ) (nanos : Nat) : Clocked σ :=
  { s with now := s.now.plus nanos }

/-- The value of a live entry at the present moment, renewed if asked. -/
def Clocked.lookup (s : Clocked ExpiringCache) (touch : Bool) (key : String) :
    ReadResult × Clocked ExpiringCache :=
  let (value, state) := s.state.lookup touch s.now key
  (.ok value, { s with state })

/-- The calls of an expiring cache, at the present moment. No read has to wait. -/
def ExpiringCache.cache : Cache (Clocked ExpiringCache) where
  read key s := s.lookup false key
  readAsync key := .now fun s => s.lookup false key
  renew key s := s.lookup true key
  renewAsync key := .now fun s => s.lookup true key
  set key value s := (.ok (), { s with state := s.state.set s.now key value })
  expirationSecs s := s.state.ttl.seconds

namespace ExpiringCache

theorem get_cache (mode : ReadMode) (key : String) (s : Clocked ExpiringCache) :
    cache.get mode key s = s.lookup false key := by
  cases mode <;> rfl

theorem getAndTouch_cache (mode : ReadMode) (key : String) (s : Clocked ExpiringCache) :
    cache.getAndTouch mode key s = s.lookup true key := by
  cases mode <;> rfl

end ExpiringCache

end FlowRules
