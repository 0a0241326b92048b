import FlowRules.Condition.Lint
import FlowRules.Encoding
import FlowRules.Layout.Stored
import FlowRules.Log
import FlowRules.Rules.Error

/-!
# The rule store

A rule is a condition that is stored as bytes under an identifier. A store holds the
latest bytes of each identifier, or it refuses every call. `loadRule` reports a rule
that does not decode as an error, and each lint of one that does as a warning; neither
changes the store, so a run of reads leaves it as it was.
-/

namespace FlowRules

/-- Where rules are stored. -/
inductive RuleStore where
  /-- The latest bytes of each rule. -/
  | memory (rules : Table RuleId (List UInt8))
  /-- A store that refuses every call for the reason given. -/
  | refusing (reason : String)

namespace RuleStore

/-- The store without rules. -/
def empty : RuleStore := memory .empty

/-- The bytes of a rule, if it has any. -/
def get (s : RuleStore) (id : RuleId) : Except RuleError (Option (List UInt8)) :=
  match s with
  | memory rules => .ok (rules.get? id)
  | refusing reason => .error (.store reason)

/-- The store with the bytes of a rule replaced. -/
def put (s : RuleStore) (id : RuleId) (bytes : List UInt8) : Except RuleError RuleStore :=
  match s with
  | memory rules => .ok (memory (rules.insert id bytes))
  | refusing reason => .error (.store reason)

/-- The identifiers of the rules, in ascending order. -/
def ids : RuleStore → Except RuleError (List RuleId)
  | memory rules => .ok rules.keys
  | refusing reason => .error (.store reason)

/-- The store with a condition put under an identifier. -/
def storeRule (s : RuleStore) (enc : Encoding) (id : RuleId) (c : Condition) :
    Except RuleError RuleStore :=
  s.put id (enc.encode Condition.layout c)

/-- The line about a rule that is loaded. -/
def ruleLine (level : LogLevel) (id : RuleId) (what : String) : LogLine :=
  ⟨level, "rule " ++ id.text ++ ": " ++ what⟩

/-- The condition under an identifier, and what is reported about it. -/
def loadRule (s : RuleStore) (enc : Encoding) (id : RuleId) :
    Except RuleError Condition × List LogLine :=
  match s.get id with
  | .error e => (.error e, [])
  | .ok none => (.error (.notFound id), [])
  | .ok (some bytes) =>
    match enc.decode Condition.layout bytes with
    | .error e =>
      (.error (.undecodable id e.message), [ruleLine .error id ("rejected: " ++ e.message)])
    | .ok c => (.ok c, c.lints.map fun lint => ruleLine .warn id lint.text)

end RuleStore

end FlowRules
