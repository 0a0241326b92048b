import FlowRules.Table
import FlowRules.Tracking.Cache

/-!
# Caches that stand in for another

Three caches that answer as they are told. A `FixedCache` gives every read the same
value and counts the calls, a failing cache refuses every call, and a `ScriptedCache`
is a map whose reads and writes can be made to fail and which lists the calls made
of it.
-/

namespace FlowRules

/-! ## The same answer to every read -/

/-- A value that answers every read, with the traffic so far. -/
structure FixedCache where
  answer : Option String
  /-- The number of reads of either kind. -/
  reads : Nat := 0
  /-- The number of reads that renew. -/
  touches : Nat := 0
  /-- The writes, oldest first. -/
  writes : List (String × String) := []

/-- The calls of a cache that answers every read alike. -/
def FixedCache.cache : Cache FixedCache where
  read _ s := (.ok s.answer, { s with reads := s.reads + 1 })
  readAsync _ := .now fun s => (.ok s.answer, { s with reads := s.reads + 1 })
  renew _ s := (.ok s.answer, { s with reads := s.reads + 1, touches := s.touches + 1 })
  renewAsync _ := .now fun s =>
    (.ok s.answer, { s with reads := s.reads + 1, touches := s.touches + 1 })
  set key value s := (.ok (), { s with writes := s.writes ++ [(key, value)] })
  expirationSecs _ := 0

/-! ## No answer to anything -/

/-- The calls of a cache that fails in the same way each time. -/
def failingCache : Cache CacheError where
  read _ e := (.error e, e)
  readAsync _ := .now fun e => (.error e, e)
  renew _ e := (.error e, e)
  renewAsync _ := .now fun e => (.error e, e)
  set _ _ e := (.error e, e)
  expirationSecs _ := 0

/-! ## A map with a script -/

/-- A call made of a cache. -/
inductive CacheCall where
  | get (mode : ReadMode) (key : String)
  | getAndTouch (mode : ReadMode) (key : String)
  | set (key value : String)
  deriving DecidableEq

/-- The name of the call and what it was made with. -/
def CacheCall.text : CacheCall → String
  | get .blocking key => "get " ++ key
  | get .async key => "get_async " ++ key
  | getAndTouch .blocking key => "get_and_touch " ++ key
  | getAndTouch .async key => "get_and_touch_async " ++ key
  | set key value => "set " ++ key ++ " " ++ value

/-- A map with the failures in force and the calls so far. -/
structure ScriptedCache where
  entries : Table String String
  readFailure : Option CacheError := none
  writeFailure : Option CacheError := none
  /-- The calls, oldest first. -/
  calls : List CacheCall := []

namespace ScriptedCache

/-- The map after a call. -/
def noting (s : ScriptedCache) (call : CacheCall) : ScriptedCache :=
  { s with calls := s.calls ++ [call] }

/-- The answer to a read. -/
def read (s : ScriptedCache) (key : String) : ReadResult :=
  match s.readFailure with
  | some e => .error e
  | none => .ok (s.entries.get? key)

/-- The calls of a map with a script. -/
def cache : Cache ScriptedCache where
  read key s := (s.read key, s.noting (.get .blocking key))
  readAsync key := .now fun s => (s.read key, s.noting (.get .async key))
  renew key s := (s.read key, s.noting (.getAndTouch .blocking key))
  renewAsync key := .now fun s => (s.read key, s.noting (.getAndTouch .async key))
  set key value s :=
    match s.writeFailure with
    | some e => (.error e, s.noting (.set key value))
    | none => (.ok (), { s.noting (.set key value) with entries := s.entries.insert key value })
  expirationSecs _ := 0

end ScriptedCache

end FlowRules
