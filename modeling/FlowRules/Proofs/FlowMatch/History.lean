import FlowRules.Proofs.Layout.Encodings
import FlowRules.Report.FlowMatch
import Mathlib.Data.List.Basic
import Mathlib.Tactic.Common

/-!
# The history of a flow match

A match comes about by a list of calls (`MatchCall`). Some replace all of its keys, one adds
a key, and one reads a match from bytes, which replaces the keys if the bytes can be read and
changes nothing if not. What a call gives is said by `MatchCall.replacement?` and
`MatchCall.addition?`, without the match that it is made of, and a call does so to the keys
(`FlowMatch.keys_perform`). So the keys are those of the latest replacement and all that was
added later (`FlowMatch.keys_after_of_latest`).

The flag is kept in three ways : it is brought up to date when a key is added, worked out when
keys are replaced, and worked out again when a match is read. After any history it says what
the keys say, and so does all that is shown of a match (`FlowMatch.after_determined`).
-/

namespace FlowRules

/-- A call that makes or changes a match. -/
inductive MatchCall where
  /-- Makes a match of the keys, in place of any other. -/
  | make (keys : List FlowKey)
  | setKeys (keys : List FlowKey)
  | add (key : FlowKey)
  /-- Reads a match from bytes, in place of any other. -/
  | decode (enc : Encoding) (bytes : List UInt8)

namespace MatchCall

/-- The match after the call. What cannot be read changes nothing. -/
def perform (m : FlowMatch) : MatchCall → FlowMatch
  | make keys => .ofKeys keys
  | setKeys keys => m.setKeys keys
  | add key => m.add key
  | decode enc bytes =>
    match enc.decode FlowMatch.layout bytes with
    | .ok n => n
    | .error _ => m

/-- The keys that stand in place of all earlier ones, if any do. -/
def replacement? : MatchCall → Option (List FlowKey)
  | make keys | setKeys keys => some keys
  | add _ => none
  | decode enc bytes => (enc.decode (.list FlowKey.layout) bytes).toOption

/-- The key that is added. -/
def addition? : MatchCall → Option FlowKey
  | add key => some key
  | _ => none

theorem perform_decode (m : FlowMatch) (enc : Encoding) (bytes : List UInt8) :
    (decode enc bytes).perform m =
      (((enc.decode (.list FlowKey.layout) bytes).toOption.map .ofKeys).getD m : FlowMatch) := by
  rw [perform, FlowMatch.layout, Encoding.decode_via]
  cases enc.decode (.list FlowKey.layout) bytes <;> rfl

/-- What was written for a match replaces the keys by those of it. -/
theorem replacement?_decode_encode {enc : Encoding} (n : FlowMatch)
    (hfits : enc = .postcard → FlowMatch.layout.fits n = true) :
    (decode enc (enc.encode FlowMatch.layout n)).replacement? = some n.keys := by
  have hwritten : enc.encode FlowMatch.layout n = enc.encode (.list FlowKey.layout) n.keys := by
    cases enc <;> rfl
  have hdecode : enc.decode (.list FlowKey.layout) (enc.encode FlowMatch.layout n) = .ok n.keys :=
    hwritten ▸ Layout.decode_encode (StoredType.wellFormed_layout_ron .flowMatch) hfits
  rw [replacement?, hdecode]
  rfl

end MatchCall

namespace FlowMatch

/-- The match after some calls. -/
def after (m : FlowMatch) (calls : List MatchCall) : FlowMatch := calls.foldl MatchCall.perform m

theorem after_append (m : FlowMatch) (calls calls' : List MatchCall) :
    m.after (calls ++ calls') = (m.after calls).after calls' :=
  List.foldl_append

/-! ## Keys -/

/-- A call replaces the keys, or adds what it adds to them. -/
theorem keys_perform (m : FlowMatch) (call : MatchCall) :
    (call.perform m).keys = call.replacement?.getD (m.keys ++ call.addition?.toList) := by
  cases call with
  | make keys => rfl
  | setKeys keys => rfl
  | add key => rfl
  | decode enc bytes =>
    rw [MatchCall.perform_decode, MatchCall.replacement?]
    cases (enc.decode (.list FlowKey.layout) bytes).toOption with
    | none => exact (List.append_nil _).symm
    | some keys => rfl

/-- Without a replacement, the keys that are added stand after the others in order. -/
theorem keys_after_of_additions {calls : List MatchCall} (m : FlowMatch)
    (h : ∀ call ∈ calls, call.replacement? = none) :
    (m.after calls).keys = m.keys ++ calls.filterMap MatchCall.addition? := by
  induction calls generalizing m with
  | nil => exact (List.append_nil _).symm
  | cons call calls ih =>
    have hcall : (call.perform m).keys = m.keys ++ call.addition?.toList := by
      rw [keys_perform, h call (List.mem_cons_self ..), Option.getD_none]
    have hrest := ih (call.perform m) fun c hc => h c (List.mem_cons_of_mem _ hc)
    rw [hcall, List.append_assoc] at hrest
    refine hrest.trans (congrArg (m.keys ++ ·) ?_)
    cases hadd : call.addition? with
    | none => rw [List.filterMap_cons_none hadd]; rfl
    | some key => rw [List.filterMap_cons_some hadd]; rfl

/-- What came before the latest replacement does not matter. -/
theorem keys_after_of_latest {before later : List MatchCall} {call : MatchCall}
    {keys : List FlowKey} (m : FlowMatch) (hcall : call.replacement? = some keys)
    (hlater : ∀ c ∈ later, c.replacement? = none) :
    (m.after (before ++ call :: later)).keys = keys ++ later.filterMap MatchCall.addition? := by
  have hkeys : (call.perform (m.after before)).keys = keys := by
    rw [keys_perform, hcall, Option.getD_some]
  have hafter : m.after (before ++ call :: later) =
      (call.perform (m.after before)).after later := after_append m before (call :: later)
  rw [hafter, keys_after_of_additions _ hlater, hkeys]

/-! ## The flag -/

/-- The flag is set if one of the keys is for an echo with its identifier or for an error. -/
theorem softwareOnly_iff (m : FlowMatch) :
    m.softwareOnly = true ↔ ∃ key ∈ m.keys,
      (∃ type code id, key = .icmpEcho type code id) ∨
        ∃ type code quoted, key = .icmpError type code quoted := by
  rw [m.softwareOnly_eq, List.any_eq_true]
  refine exists_congr fun key => and_congr_right fun _ => ?_
  cases key <;> simp [FlowKey.softwareOnly]

/-! ## Every history -/

/-- After any calls the flag says whether one of the keys is for an echo with its identifier
or for an error, and the keys are those of the latest replacement with all that was added
later, in order. (What was written for a match in any encoding replaces the keys by those of
it ; in Postcard its sizes must be numbers of 64 bits.) Whatever calls two matches come from,
they are equal exactly if they have the same keys in the same order, and then nothing tells
them apart. -/
theorem after_determined (calls : List MatchCall) :
    ((empty.after calls).softwareOnly = true ↔ ∃ key ∈ (empty.after calls).keys,
      (∃ type code id, key = .icmpEcho type code id) ∨
        ∃ type code quoted, key = .icmpError type code quoted) ∧
    ((∀ call ∈ calls, call.replacement? = none) →
      (empty.after calls).keys = calls.filterMap MatchCall.addition?) ∧
    (∀ before call later keys, calls = before ++ call :: later →
      call.replacement? = some keys → (∀ c ∈ later, c.replacement? = none) →
      (empty.after calls).keys = keys ++ later.filterMap MatchCall.addition?) ∧
    (∀ (enc : Encoding) (n : FlowMatch),
      (enc = .postcard → FlowMatch.layout.fits n = true) →
      (MatchCall.decode enc (enc.encode FlowMatch.layout n)).replacement? = some n.keys) ∧
    ∀ calls' : List MatchCall,
      ((empty.after calls == empty.after calls') = true ↔
        (empty.after calls).keys = (empty.after calls').keys) ∧
      ((empty.after calls).keys = (empty.after calls').keys →
        (empty.after calls).checksum = (empty.after calls').checksum ∧
        (empty.after calls).softwareOnly = (empty.after calls').softwareOnly ∧
        (empty.after calls).text = (empty.after calls').text ∧
        (empty.after calls).table = (empty.after calls').table) := by
  refine ⟨softwareOnly_iff _, keys_after_of_additions empty, ?_,
    fun _ n => MatchCall.replacement?_decode_encode n, fun calls' => ⟨?_, fun h => ?_⟩⟩
  · rintro before call later keys rfl hcall hlater
    exact keys_after_of_latest empty hcall hlater
  · rw [beq_iff_eq]
    exact ⟨congrArg keys, ext_keys⟩
  · rw [ext_keys h]
    exact ⟨rfl, rfl, rfl, rfl⟩

/-- An echo and a port that are replaced by what was written for another match, to which a
tag and an error are added. -/
def sampleCalls : List MatchCall :=
  [.add (.icmpEcho 8 0 7), .setKeys [.inPort 5],
    .decode .ron (Encoding.ron.encode FlowMatch.layout (ofKeys [.priority 9])), .add (.vlan 2),
    .add (.icmpError 3 1 [0x45])]

theorem sampleCalls_determined :
    (empty.after sampleCalls).keys = [.priority 9, .vlan 2, .icmpError 3 1 [0x45]] ∧
      (empty.after sampleCalls).softwareOnly = true ∧
      (empty.after sampleCalls).table =
        (empty.after [.make [.priority 9, .vlan 2], .add (.icmpError 3 1 [0x45])]).table := by
  obtain ⟨hflag, -, hlatest, hdecode, hsame⟩ := after_determined sampleCalls
  have hkeys : (empty.after sampleCalls).keys = [.priority 9, .vlan 2, .icmpError 3 1 [0x45]] :=
    hlatest [.add (.icmpEcho 8 0 7), .setKeys [.inPort 5]] _
      [.add (.vlan 2), .add (.icmpError 3 1 [0x45])] [.priority 9] rfl
      (hdecode .ron (ofKeys [.priority 9]) nofun) (by simp [MatchCall.replacement?])
  refine ⟨hkeys, hflag.mpr ⟨.icmpError 3 1 [0x45], ?_, Or.inr ⟨3, 1, [0x45], rfl⟩⟩, ?_⟩
  · rw [hkeys]
    decide
  · exact ((hsame [.make [.priority 9, .vlan 2], .add (.icmpError 3 1 [0x45])]).2 hkeys).2.2.2

end FlowMatch

end FlowRules
