import FlowRules.Proofs.Condition.Wording

/-!
# What no clause holds

A clause is made of digits, the name of its part and a few signs. No other character stands in
it (`Condition.notMem_of_mem_clauses`), so a table may have its clauses between tabs and in lines
of their own.
-/

namespace FlowRules

/-- The signs of a clause. -/
def clauseSigns : List Char := ['[', ',', '-', ']', '.', '/', '=', '!']

/-- Is the character no digit, no sign of a clause, and in the name of no part? -/
structure IsForeign (ch : Char) : Prop where
  decimal : isDigitOf 10 ch = false
  hex : isDigitOf 16 ch = false
  sign : ch ∉ clauseSigns
  name : ∀ part ∈ ConditionPart.all, ch ∉ part.name.toList

theorem isForeign_tab : IsForeign '\t' := ⟨by decide, by decide, by decide, by decide⟩

theorem isForeign_newline : IsForeign '\n' := ⟨by decide, by decide, by decide, by decide⟩

namespace IsForeign

variable {ch : Char}

theorem ne (hch : IsForeign ch) {s : Char} (hs : s ∈ clauseSigns) : ch ≠ s :=
  fun h => hch.sign (h ▸ hs)

theorem notMem_wordText (hch : IsForeign ch) {w : Nat} (x : BitVec w) :
    ch ∉ (wordText x).toList :=
  notMem_decimal hch.decimal _

theorem notMem_networkText (hch : IsForeign ch) (net : Network) : ch ∉ net.text.toList :=
  Network.notMem_text hch.decimal (hch.ne (by decide)) (hch.ne (by decide)) net

theorem notMem_idText (hch : IsForeign ch) {kind : Entity} (id : Id kind) :
    ch ∉ id.text.toList :=
  notMem_uuidText hch.hex (hch.ne (by decide)) id.bits

theorem notMem_portSetText (hch : IsForeign ch) (s : KeySet PortId) :
    ch ∉ (portSetText s).toList :=
  FlowRules.notMem_portSetText hch.hex
    (fun h => hch.sign (List.mem_append_left ['.', '/', '=', '!'] h)) s

theorem notMem_rangeText (hch : IsForeign ch) (r : PortRange) : ch ∉ r.text.toList := by
  have hpoint : ch ≠ '.' := hch.ne (by decide)
  have hequals : ch ≠ '=' := hch.ne (by decide)
  simp [PortRange.toList_text, hch.notMem_wordText, hpoint, hequals]

theorem notMem_valueText (hch : IsForeign ch) (inverted : Bool) {name value : String}
    (hname : ch ∉ name.toList) (hvalue : ch ∉ value.toList) :
    ch ∉ (inversionMark inverted ++ name ++ "=" ++ value).toList := by
  have hmark : ch ∉ (inversionMark inverted).toList := by
    rw [toList_inversionMark]
    cases inverted with
    | false => exact List.not_mem_nil
    | true => exact fun h => hch.ne (by decide) (List.mem_singleton.mp h)
  have hequals : ch ≠ '=' := hch.ne (by decide)
  simp [hmark, hname, hvalue, hequals]

theorem notMem_clauseText (hch : IsForeign ch) {α : Type} {name text : String}
    {value : α → String} {c : Clause α} (hname : ch ∉ name.toList)
    (hvalue : ∀ a, ch ∉ (value a).toList) (h : c.text? name value = some text) :
    ch ∉ text.toList := by
  obtain ⟨a, -, rfl⟩ := Option.map_eq_some_iff.mp h
  exact hch.notMem_valueText c.inverted hname (hvalue a)

theorem notMem_portText (hch : IsForeign ch) {name text : String} {c : PortClause}
    (hname : ch ∉ name.toList) (h : c.text? name = some text) : ch ∉ text.toList := by
  unfold PortClause.text? at h
  split at h
  · cases h
  · obtain rfl := Option.some.inj h
    exact hch.notMem_valueText c.inverted hname (hch.notMem_rangeText c.range)

end IsForeign

theorem notMem_flagText {ch : Char} {flag : Bool} {name text : String} (hname : ch ∉ name.toList)
    (h : (if flag then some name else none) = some text) : ch ∉ text.toList := by
  cases flag with
  | false => cases h
  | true =>
    obtain rfl := Option.some.inj h
    exact hname

namespace Condition

theorem notMem_of_partText? {ch : Char} (hch : IsForeign ch) {c : Condition}
    {part : ConditionPart} {text : String} (h : c.partText? part = some text) :
    ch ∉ text.toList := by
  have hname : ch ∉ part.name.toList := hch.name part part.mem_all
  cases part with
  | inPorts => exact hch.notMem_clauseText hname hch.notMem_portSetText h
  | outPorts => exact hch.notMem_clauseText hname hch.notMem_portSetText h
  | group => exact hch.notMem_clauseText hname hch.notMem_idText h
  | tos => exact hch.notMem_clauseText hname hch.notMem_wordText h
  | protocol => exact hch.notMem_clauseText hname hch.notMem_wordText h
  | source => exact hch.notMem_clauseText hname hch.notMem_networkText h
  | dest => exact hch.notMem_clauseText hname hch.notMem_networkText h
  | srcPorts => exact hch.notMem_portText hname h
  | dstPorts => exact hch.notMem_portText hname h
  | forwardFlow => exact notMem_flagText hname h
  | returnFlow => exact notMem_flagText hname h

/-- A foreign character is in no clause. -/
theorem notMem_of_mem_clauses {ch : Char} (hch : IsForeign ch) {c : Condition} {text : String}
    (h : text ∈ c.clauses) : ch ∉ text.toList := by
  rw [clauses_eq, List.mem_filterMap] at h
  obtain ⟨part, -, htext⟩ := h
  exact notMem_of_partText? hch htext

end Condition

end FlowRules
