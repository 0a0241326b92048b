import FlowRules.Proofs.Eval.Verdict
import FlowRules.Proofs.Layout.Encodings
import FlowRules.Proofs.Table.Filling
import FlowRules.Rules.Store

/-!
# Histories of a rule store

A store is used by a list of calls (`StoreCall`), each of which answers, may report, and
leaves a store (`StoreCall.perform`). What a history leaves of an empty store is a table
of the bytes that its calls write (`RuleStore.after_memory`), so under an identifier stand
the bytes of the latest call that writes there (`StoreCall.Latest`).

A rule that is loaded is therefore the one stored last under its identifier, since every
encoding reads back what it writes (`Encoding.decode_encode`). What else can come out of a
load is said by `RuleStore.answers_after`, together with the lines it reports.
-/

namespace FlowRules

/-! ## The order of identifiers -/

/-- The octets of an identifier, the most significant first. -/
def Id.octets {kind : Entity} (id : Id kind) : List Octet := bigEndian 16 id.bits

open Postcard in
theorem bigEndian_lt {w : Nat} {x y : BitVec w} :
    (n : Nat) → x.toNat % 256 ^ n < y.toNat % 256 ^ n → bigEndian n x < bigEndian n y
  | 0, h => by simp [Nat.mod_one] at h
  | n + 1, h => by
    rw [Nat.pow_succ, Nat.mod_mul, Nat.mod_mul, ← toNat_octet, ← toNat_octet] at h
    rw [bigEndian_succ, bigEndian_succ, List.cons_lt_cons_iff]
    have hx := Nat.mod_lt x.toNat (Nat.pow_pos (n := n) (show 0 < 256 by decide))
    have hy := Nat.mod_lt y.toNat (Nat.pow_pos (n := n) (show 0 < 256 by decide))
    rcases Nat.lt_trichotomy (x.extractLsb' (8 * n) 8).toNat (y.extractLsb' (8 * n) 8).toNat with
      hlt | heq | hgt
    · exact Or.inl hlt
    · rw [heq] at h
      exact Or.inr ⟨BitVec.eq_of_toNat_eq heq, bigEndian_lt n (by omega)⟩
    · have := Nat.mul_le_mul_left (256 ^ n) (Nat.succ_le_of_lt hgt)
      rw [Nat.mul_succ] at this
      omega

/-- Identifiers compare as their octets do, the first that differs deciding. -/
theorem Id.octets_lt_of_compare {kind : Entity} {x y : Id kind} (h : compare x y = .lt) :
    x.octets < y.octets := by
  have hlt : x.bits < y.bits := compareOfLessAndEq_eq_lt.mp h
  have hmod (z : Id kind) : z.bits.toNat % 256 ^ 16 = z.bits.toNat :=
    Nat.mod_eq_of_lt (Nat.lt_of_lt_of_eq z.bits.isLt (by decide))
  refine bigEndian_lt 16 ?_
  rwa [hmod, hmod]

/-! ## Encodings -/

/-- A condition is read back from its bytes in every encoding. In Postcard the sizes of its
sets must be numbers of 64 bits. -/
theorem Encoding.decode_encode {enc : Encoding} {c : Condition}
    (hfits : enc = .postcard → Condition.layout.fits c = true) :
    enc.decode Condition.layout (enc.encode Condition.layout c) = .ok c :=
  Layout.decode_encode (StoredType.wellFormed_layout_ron .condition) hfits

/-! ## Calls of a store -/

/-- A call of a rule store. -/
inductive StoreCall where
  /-- Puts any bytes under the identifier. -/
  | put (id : RuleId) (bytes : List UInt8)
  | store (enc : Encoding) (id : RuleId) (c : Condition)
  | load (enc : Encoding) (id : RuleId)
  | get (id : RuleId)
  | ids

/-- What a call answers. -/
inductive StoreAnswer where
  | done (result : Except RuleError Unit)
  | loaded (result : Except RuleError Condition)
  | found (result : Except RuleError (Option (List UInt8)))
  | listed (result : Except RuleError (List RuleId))

namespace StoreCall

/-- What is answered if a write gives a new store, or none, and the store afterwards. -/
def written (s : RuleStore) : Except RuleError RuleStore → StoreAnswer × List LogLine × RuleStore
  | .ok s' => (.done (.ok ()), [], s')
  | .error e => (.done (.error e), [], s)

/-- The answer to the call, the lines it reports, and the store afterwards. -/
def perform (s : RuleStore) : StoreCall → StoreAnswer × List LogLine × RuleStore
  | put id bytes => written s (s.put id bytes)
  | store enc id c => written s (s.storeRule enc id c)
  | load enc id => (.loaded (s.loadRule enc id).1, (s.loadRule enc id).2, s)
  | get id => (.found (s.get id), [], s)
  | ids => (.listed s.ids, [], s)

/-- The bytes that the call writes, and where. -/
def write? : StoreCall → Option (RuleId × List UInt8)
  | put id bytes => some (id, bytes)
  | store enc id c => some (id, enc.encode Condition.layout c)
  | _ => none

/-- Does the call write under the identifier? -/
def Writes (call : StoreCall) (id : RuleId) : Prop := ∃ bytes, call.write? = some (id, bytes)

/-- Is the call the last of these that writes under the identifier? -/
def Latest (calls : List StoreCall) (id : RuleId) (call : StoreCall) : Prop :=
  call.Writes id ∧ ∃ before later, calls = before ++ call :: later ∧
    ∀ call' ∈ later, ¬call'.Writes id

theorem mem_map_writes {calls : List StoreCall} {id : RuleId} :
    id ∈ (calls.filterMap write?).map Prod.fst ↔ ∃ call ∈ calls, call.Writes id := by
  simp only [List.mem_map, List.mem_filterMap, Writes, Prod.exists, exists_and_right,
    exists_eq_right]
  constructor
  · rintro ⟨bytes, call, hcall, hwrite⟩
    exact ⟨call, hcall, bytes, hwrite⟩
  · rintro ⟨call, hcall, bytes, hwrite⟩
    exact ⟨bytes, call, hcall, hwrite⟩

/-- If something was written under an identifier, one call was the last to do so. -/
theorem exists_latest {calls : List StoreCall} {id : RuleId} (h : ∃ call ∈ calls, call.Writes id) :
    ∃ call, Latest calls id call := by
  induction calls with
  | nil => simp at h
  | cons call calls ih =>
    by_cases hmore : ∃ call' ∈ calls, call'.Writes id
    · obtain ⟨call', hwrites, before, later, rfl, hlater⟩ := ih hmore
      exact ⟨call', hwrites, call :: before, later, rfl, hlater⟩
    · obtain ⟨call', hmem, hwrites⟩ := h
      rcases List.mem_cons.mp hmem with rfl | hmem
      · exact ⟨call', hwrites, [], calls, rfl, fun c hc hw => hmore ⟨c, hc, hw⟩⟩
      · exact absurd ⟨call', hmem, hwrites⟩ hmore

end StoreCall

namespace RuleStore

/-! ## What a history leaves -/

/-- The store after some calls. -/
def after (s : RuleStore) (calls : List StoreCall) : RuleStore :=
  calls.foldl (fun s call => (call.perform s).2.2) s

/-- A call puts into a table what it writes. -/
theorem perform_memory (rules : Table RuleId (List UInt8)) (call : StoreCall) :
    (call.perform (memory rules)).2.2 = memory (rules.insertAll call.write?.toList) := by
  cases call <;> rfl

/-- A history puts into a table what its calls write. -/
theorem after_memory (rules : Table RuleId (List UInt8)) (calls : List StoreCall) :
    (memory rules).after calls = memory (rules.insertAll (calls.filterMap StoreCall.write?)) := by
  induction calls generalizing rules with
  | nil => rfl
  | cons call calls ih =>
    have hstep : (memory rules).after (call :: calls) =
        (memory (rules.insertAll call.write?.toList)).after calls :=
      congrArg (fun s => RuleStore.after s calls) (perform_memory rules call)
    rw [hstep, ih]
    cases hwrite : call.write? with
    | none => rw [List.filterMap_cons_none hwrite]; rfl
    | some e => rw [List.filterMap_cons_some hwrite]; rfl

variable {calls : List StoreCall} {id : RuleId}

/-- Nothing stands where nothing was written. -/
theorem get_after_of_unwritten (h : ∀ call ∈ calls, ¬call.Writes id) :
    (empty.after calls).get id = .ok none := by
  have hnotMem : id ∉ (calls.filterMap StoreCall.write?).map Prod.fst := by
    rw [StoreCall.mem_map_writes]
    rintro ⟨call, hcall, hwrites⟩
    exact h call hcall hwrites
  rw [empty, after_memory, get, Table.get?_insertAll_of_notMem _ hnotMem, Table.get?_empty]

/-- Under an identifier stand the bytes that were written last. -/
theorem get_after_of_latest {call : StoreCall} {bytes : List UInt8}
    (h : StoreCall.Latest calls id call) (hbytes : call.write? = some (id, bytes)) :
    (empty.after calls).get id = .ok (some bytes) := by
  obtain ⟨-, before, later, rfl, hlater⟩ := h
  have hnotMem : id ∉ (later.filterMap StoreCall.write?).map Prod.fst := by
    rw [StoreCall.mem_map_writes]
    rintro ⟨call', hcall', hwrites⟩
    exact hlater call' hcall' hwrites
  rw [empty, after_memory, get, List.filterMap_append, List.filterMap_cons_some hbytes,
    Table.get?_insertAll_of_latest _ hnotMem]

/-- The identifiers that are listed are those written, in the order of their octets. -/
theorem exists_ids_after (calls : List StoreCall) :
    ∃ ids, (empty.after calls).ids = .ok ids ∧
      ids.Pairwise (fun x y => x.octets < y.octets) ∧
      ∀ id, id ∈ ids ↔ ∃ call ∈ calls, call.Writes id := by
  rw [empty, after_memory]
  refine ⟨_, rfl, ?_, fun id => ?_⟩
  · exact List.pairwise_map.mpr ((Table.sorted _).imp Id.octets_lt_of_compare)
  · rw [Table.mem_keys_insertAll, StoreCall.mem_map_writes]
    exact or_iff_left List.not_mem_nil

/-! ## What is loaded -/

/-- The lines about the lints of a rule that is loaded. -/
def warnings (id : RuleId) (c : Condition) : List LogLine :=
  c.lints.map fun lint => ⟨.warn, "rule " ++ id.text ++ ": " ++ lint.text⟩

variable {s : RuleStore} {enc : Encoding} {bytes : List UInt8}

theorem loadRule_of_missing (h : s.get id = .ok none) :
    s.loadRule enc id = (.error (.notFound id), []) := by
  simp only [loadRule, h]

theorem loadRule_of_decoded {c : Condition} (h : s.get id = .ok (some bytes))
    (hdecode : enc.decode Condition.layout bytes = .ok c) :
    s.loadRule enc id = (.ok c, warnings id c) := by
  simp only [loadRule, h, hdecode, warnings, ruleLine]

theorem loadRule_of_rejected {e : DecodeError} (h : s.get id = .ok (some bytes))
    (hdecode : enc.decode Condition.layout bytes = .error e) :
    s.loadRule enc id = (.error (.undecodable id e.message),
      [⟨.error, "rule " ++ id.text ++ ": rejected: " ++ e.message⟩]) := by
  have htext : (": " : String) ++ "rejected: " = ": rejected: " := by decide
  simp only [loadRule, h, hdecode, ruleLine, String.append_assoc, ← htext]

theorem loadRule_ne_notFound (h : s.get id = .ok (some bytes)) :
    (s.loadRule enc id).1 ≠ .error (.notFound id) := by
  cases hdecode : enc.decode Condition.layout bytes with
  | ok c => simp [loadRule_of_decoded h hdecode]
  | error e => simp [loadRule_of_rejected h hdecode]

/-! ## All answers -/

/-- After any calls of an empty store, with any other calls still to come : a rule is not
found exactly if nothing was written under its identifier. If it was stored last in the
encoding it is loaded in, it is loaded. (In Postcard the sizes of its sets must be numbers
of 64 bits.) Whatever was written last, it is loaded if it can be decoded, with a warning
for each lint, and if not rejected for the reason that the decoder gives, with one line.
The identifiers listed are those written, each once, in the order of their octets, and the
bytes found under one are those written last. Only writes change the store, and they
succeed. -/
theorem answers_after (calls : List StoreCall) :
    let s := empty.after calls
    (∀ (enc : Encoding) (id : RuleId),
      (((StoreCall.load enc id).perform s).1 = .loaded (.error (.notFound id)) ↔
        ∀ call ∈ calls, ¬call.Writes id) ∧
      ((∀ call ∈ calls, ¬call.Writes id) →
        (StoreCall.load enc id).perform s = (.loaded (.error (.notFound id)), [], s)) ∧
      (∀ c, StoreCall.Latest calls id (.store enc id c) →
        (enc = .postcard → Condition.layout.fits c = true) →
        (StoreCall.load enc id).perform s = (.loaded (.ok c), warnings id c, s)) ∧
      ∀ call bytes, StoreCall.Latest calls id call → call.write? = some (id, bytes) →
        (∀ c, enc.decode Condition.layout bytes = .ok c →
          (StoreCall.load enc id).perform s = (.loaded (.ok c), warnings id c, s)) ∧
        ∀ e, enc.decode Condition.layout bytes = .error e →
          (StoreCall.load enc id).perform s = (.loaded (.error (.undecodable id e.message)),
            [⟨.error, "rule " ++ id.text ++ ": rejected: " ++ e.message⟩], s)) ∧
    (∃ ids, StoreCall.ids.perform s = (.listed (.ok ids), [], s) ∧
      ids.Pairwise (fun x y => x.octets < y.octets) ∧
      ∀ id, id ∈ ids ↔ ∃ call ∈ calls, call.Writes id) ∧
    (∀ id, ((∀ call ∈ calls, ¬call.Writes id) →
        (StoreCall.get id).perform s = (.found (.ok none), [], s)) ∧
      ∀ call bytes, StoreCall.Latest calls id call → call.write? = some (id, bytes) →
        (StoreCall.get id).perform s = (.found (.ok (some bytes)), [], s)) ∧
    ∀ (call : StoreCall) (id : RuleId), call.Writes id →
      ∃ s', call.perform s = (.done (.ok ()), [], s') := by
  intro s
  refine ⟨fun enc id => ⟨⟨fun h => ?_, fun h => ?_⟩, fun h => ?_, fun c h hfits => ?_,
    fun call bytes h hbytes => ⟨fun c hdecode => ?_, fun e hdecode => ?_⟩⟩, ?_,
    fun id => ⟨fun h => ?_, fun call bytes h hbytes => ?_⟩, fun call id hwrites => ?_⟩
  · -- Where something was written, what is loaded is decoded or rejected.
    by_contra hsome
    push Not at hsome
    obtain ⟨call, hlatest⟩ := StoreCall.exists_latest hsome
    obtain ⟨bytes, hbytes⟩ := hlatest.1
    exact loadRule_ne_notFound (get_after_of_latest hlatest hbytes) (StoreAnswer.loaded.inj h)
  · rw [StoreCall.perform, loadRule_of_missing (get_after_of_unwritten h)]
  · rw [StoreCall.perform, loadRule_of_missing (get_after_of_unwritten h)]
  · rw [StoreCall.perform, loadRule_of_decoded (get_after_of_latest h rfl)
      (Encoding.decode_encode hfits)]
  · rw [StoreCall.perform, loadRule_of_decoded (get_after_of_latest h hbytes) hdecode]
  · rw [StoreCall.perform, loadRule_of_rejected (get_after_of_latest h hbytes) hdecode]
  · obtain ⟨ids, hids, hsorted, hmem⟩ := exists_ids_after calls
    exact ⟨ids, by rw [StoreCall.perform, hids], hsorted, hmem⟩
  · rw [StoreCall.perform, get_after_of_unwritten h]
  · rw [StoreCall.perform, get_after_of_latest h hbytes]
  · obtain ⟨rules, hrules⟩ : ∃ rules, s = memory rules := ⟨_, after_memory .empty calls⟩
    obtain ⟨bytes, hbytes⟩ := hwrites
    rw [hrules]
    cases call with
    | put => exact ⟨_, rfl⟩
    | store => exact ⟨_, rfl⟩
    | _ => cases hbytes

/-- Traffic of no port. -/
def fromNowhere : Condition := { inPorts := ⟨some (KeySet.ofList []), false⟩ }

/-- Bytes that are no rule, and a rule stored over them, with others in between. -/
def sampleHistory : List StoreCall :=
  [.put ⟨1⟩ [255], .store .json ⟨2⟩ {}, .load .ron ⟨1⟩, .store .postcard ⟨1⟩ fromNowhere,
    .store .ron ⟨2⟩ fromNowhere, .load .json ⟨2⟩, .ids]

/-- The rule is loaded, and its lint reported. -/
theorem sampleHistory_answers :
    StoreCall.Latest sampleHistory ⟨1⟩ (.store .postcard ⟨1⟩ fromNowhere) ∧
      (StoreCall.load .postcard ⟨1⟩).perform (empty.after sampleHistory) =
        (.loaded (.ok fromNowhere),
          [⟨.warn, "rule 00000000-0000-0000-0000-000000000001: in_port set is empty"⟩],
          empty.after sampleHistory) := by
  have hlatest : StoreCall.Latest sampleHistory ⟨1⟩ (.store .postcard ⟨1⟩ fromNowhere) := by
    refine ⟨⟨_, rfl⟩, [.put ⟨1⟩ [255], .store .json ⟨2⟩ {}, .load .ron ⟨1⟩],
      [.store .ron ⟨2⟩ fromNowhere, .load .json ⟨2⟩, .ids], rfl, ?_⟩
    simp [StoreCall.Writes, StoreCall.write?]
  have hlines : warnings ⟨1⟩ fromNowhere =
      [⟨.warn, "rule 00000000-0000-0000-0000-000000000001: in_port set is empty"⟩] := by cbv
  have hload := ((answers_after sampleHistory).1 .postcard ⟨1⟩).2.2.1 fromNowhere hlatest
    fun _ => by decide +kernel
  exact ⟨hlatest, hlines ▸ hload⟩

end RuleStore

end FlowRules
