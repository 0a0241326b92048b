import FlowRules.FlowMatch.Key

/-!
# Flow matches

A `FlowMatch` is a list of keys in order, under which a decision about a flow is
installed. It keeps beside the keys whether one of them can only be matched in
software. `add` brings that flag up to date from the new key alone, `setKeys` works
it out from the keys anew; either way it says what the keys say.
-/

namespace FlowRules

/-- A list of keys, with whether one of them can only be matched in software. -/
structure FlowMatch where
  keys : List FlowKey
  softwareOnly : Bool
  softwareOnly_eq : softwareOnly = keys.any FlowKey.softwareOnly

namespace FlowMatch

theorem ext_keys {m n : FlowMatch} (h : m.keys = n.keys) : m = n := by
  obtain ⟨ks, s, hs⟩ := m
  obtain ⟨js, t, ht⟩ := n
  cases h
  subst hs ht
  rfl

/-- Matches are equal if they have the same keys in the same order. -/
instance : DecidableEq FlowMatch := fun m n =>
  if h : m.keys = n.keys then isTrue (ext_keys h) else isFalse fun e => h (e ▸ rfl)

/-- The match without keys. -/
def empty : FlowMatch := ⟨[], false, rfl⟩

/-- The match with other keys in place of its own. -/
def setKeys (_ : FlowMatch) (keys : List FlowKey) : FlowMatch :=
  ⟨keys, keys.any FlowKey.softwareOnly, rfl⟩

/-- The match of the keys. -/
def ofKeys (keys : List FlowKey) : FlowMatch := empty.setKeys keys

/-- The match with one more key at its end. -/
def add (m : FlowMatch) (key : FlowKey) : FlowMatch :=
  ⟨m.keys ++ [key], m.softwareOnly || key.softwareOnly, by simp [m.softwareOnly_eq]⟩

/-- The number of keys. -/
def size (m : FlowMatch) : Nat := m.keys.length

/-- Does the match have no key? -/
def isEmpty (m : FlowMatch) : Bool := m.keys.isEmpty

/-- The keys between commas, and whether only software can match them. -/
def text (m : FlowMatch) : String :=
  String.intercalate "," (m.keys.map FlowKey.text) ++
    if m.softwareOnly then " (user space only)" else ""

theorem ofKeys_keys (m : FlowMatch) : ofKeys m.keys = m := ext_keys rfl

end FlowMatch

end FlowRules
