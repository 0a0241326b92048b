import FlowRules.Proofs.Eval.Calls
import Mathlib.Data.List.Chain

/-!
# The life of a context

Calls are made of one context, one after the other, whether they fail or not. A
`CallRecord` says where the context stood before and after a call, what the call asked of
the cache and what it answered; `ContextCall.history` lists the records. A call is either
idle or one look-up (`CallRecord.Explained`), and all that is said of a whole history
comes from this : the direction is settled at most once, a settled context is never heard
of again by the cache, and each further read or write has a failure to answer for it
(`ContextCall.history_settledOnce`).

The bounds on reads and writes are kept by a potential, which is one for a settled context
and zero for any other : a call pays for its read by settling the context or by failing.
-/

namespace FlowRules

variable {σ : Type}

/-! ## Records -/

/-- A call made of a context, with what it asked of the cache and what came of it. -/
structure CallRecord where
  call : ContextCall
  before : Context
  traffic : List Access
  answer : Except CacheError CallAnswer
  after : Context

namespace CallRecord

/-- Did the call fail? -/
def failed (r : CallRecord) : Bool :=
  match r.answer with
  | .ok _ => false
  | .error _ => true

/-- Did the call change the direction on the context? -/
def changes (r : CallRecord) : Bool := r.after.flowState ≠ r.before.flowState

/-- The call was made with the direction settled : it asked nothing of the cache, did not
fail and left the direction as it was, and asked for the direction it told this one. -/
structure Quiet (r : CallRecord) (state : FlowState) : Prop where
  traffic : r.traffic = []
  answered : ∃ answer, r.answer = .ok answer
  after : r.after.flowState = state
  told : ∀ mode p, r.call = .flowState mode p → r.answer = .ok (.direction state)

/-- A call is idle, or it is one look-up and answers by the result of it. -/
inductive Explained (r : CallRecord) : Prop where
  | idle (hidle : r.call.Idle r.before) (htraffic : r.traffic = [])
      (hanswer : ∃ answer, r.answer = .ok answer) (hafter : r.after = r.call.moved r.before)
  | looked {mode : ReadMode} {p : Packet} {result : Except CacheError FlowState}
      (hlooks : r.call.LooksFor r.before mode p)
      (hlookup : Lookup mode r.before.device p r.before.flowState r.traffic result
        r.after.flowState)
      (hanswer : r.answer = result.map r.call.reply)
      (hafter : r.after = { r.before with flowState := r.after.flowState })

end CallRecord

namespace ContextCall

variable {cache : Cache σ} {call : ContextCall} {s : EvalState σ}

/-- The record of a call made in a state. Its traffic is what the cache would see if it
were under observation from there. -/
def record (cache : Cache σ) (call : ContextCall) (s : EvalState σ) : CallRecord where
  call := call
  before := s.context
  traffic := (Eval.outcome (call.perform cache.observed) (s.observed [])).2.cache.traffic
  answer := (Eval.outcome (call.perform cache) s).1
  after := (Eval.outcome (call.perform cache) s).2.context

/-- The records of calls made one after the other. -/
def history (cache : Cache σ) : List ContextCall → EvalState σ → List CallRecord
  | [], _ => []
  | call :: calls, s =>
    call.record cache s :: history cache calls (Eval.outcome (call.perform cache) s).2

/-- The state after calls made one after the other. -/
def run (cache : Cache σ) (calls : List ContextCall) (s : EvalState σ) : EvalState σ :=
  calls.foldl (fun s call => (Eval.outcome (call.perform cache) s).2) s

/-! ## One call -/

/-- Watching a call changes nothing, and its record is explained. -/
theorem explained_record (cache : Cache σ) (call : ContextCall) (s : EvalState σ) :
    (∀ past, Eval.outcome (call.perform cache.observed) (s.observed past) =
      ((Eval.outcome (call.perform cache) s).1,
        (Eval.outcome (call.perform cache) s).2.observed
          (past ++ (call.record cache s).traffic))) ∧
    (call.record cache s).Explained := by
  by_cases hidle : call.Idle s.context
  · obtain ⟨answer, hperform⟩ := outcome_perform_of_idle hidle
    have hplain := hperform cache s rfl
    have hseen := fun past => hperform cache.observed (s.observed past) rfl
    have htraffic : (call.record cache s).traffic = [] := by rw [record, hseen]; rfl
    refine ⟨fun past => ?_, .idle hidle htraffic ⟨answer, ?_⟩ ?_⟩
    · rw [htraffic, hplain, hseen, List.append_nil]
      rfl
    · rw [record, hplain]
    · rw [record, hplain]
  · simp only [Idle, not_forall, not_not] at hidle
    obtain ⟨mode, p, hlooks⟩ := hidle
    obtain ⟨result, s', hdir⟩ := Eval.exists_directed cache mode p s
    obtain ⟨traffic, hlookup, hobserved⟩ := hdir.observed
    have hplain := outcome_perform_of_looksFor hlooks hdir
    have hseen := fun past => outcome_perform_of_looksFor (s := s.observed past) hlooks
      (hobserved past)
    have htraffic : (call.record cache s).traffic = traffic := by rw [record, hseen]; rfl
    have hafter : (call.record cache s).after = s'.context := by rw [record, hplain]
    refine ⟨fun past => ?_, .looked hlooks (?_ : Lookup _ _ _ _ _ result _) ?_ ?_⟩
    · rw [htraffic, hplain, hseen]
    · rw [htraffic, hafter]
      exact hlookup
    · rw [record, hplain]
    · rw [hafter]
      exact hdir.context_eq

end ContextCall

theorem ContextCall.flowState_moved (call : ContextCall) (ctx : Context) :
    (call.moved ctx).flowState = ctx.flowState := by
  cases call <;> rfl

namespace CallRecord.Explained

variable {r : CallRecord}

theorem quiet (h : r.Explained) (hknown : r.before.flowState ≠ .untracked) :
    r.Quiet r.before.flowState := by
  cases h with
  | idle hidle htraffic hanswer hafter =>
    refine ⟨htraffic, hanswer, by rw [hafter, ContextCall.flowState_moved], ?_⟩
    intro mode p hcall
    exact absurd (hcall ▸ .flowState) (hidle mode p)
  | looked hlooks hlookup hanswer hafter =>
    generalize htraffic : r.traffic = traffic at hlookup
    generalize hstate : r.after.flowState = state at hlookup
    cases hlookup with
    | known =>
      refine ⟨htraffic, ⟨_, hanswer⟩, hstate, ?_⟩
      intro mode p hcall
      rw [hanswer, hcall]
      rfl
    | _ => contradiction

/-- The direction changes from unknown to one of the two. -/
theorem of_changes (h : r.Explained) (hchanges : r.changes = true) :
    r.before.flowState = .untracked ∧
      (r.after.flowState = .forward ∨ r.after.flowState = .returning) := by
  simp only [changes, decide_eq_true_eq] at hchanges
  have hnew : r.before.flowState = .untracked := by
    by_contra hknown
    exact hchanges (h.quiet hknown).after
  refine ⟨hnew, ?_⟩
  rw [hnew] at hchanges
  cases hstate : r.after.flowState with
  | untracked => exact absurd hstate hchanges
  | forward => exact Or.inl rfl
  | returning => exact Or.inr rfl

/-- A write comes right after a read of the packet's own key that found no marker, and
puts the marker under the opposite key. -/
theorem of_write (h : r.Explained) {key value : String} {answer : Except CacheError Unit}
    (hmem : .set key value answer ∈ r.traffic) :
    ∃ mode p sig found, r.call.LooksFor r.before mode p ∧ p.flowSig? = some sig ∧
      found ≠ some returnMarker ∧ key = reverseKey r.before.device sig ∧ value = returnMarker ∧
      r.traffic = [.getAndTouch mode (trackingKey r.before.device sig) (.ok found),
        .set key value answer] := by
  cases h with
  | idle hidle htraffic hanswer hafter => simp [htraffic] at hmem
  | @looked mode p result hlooks hlookup hanswer hafter =>
    generalize htraffic : r.traffic = traffic at hlookup hmem
    generalize r.after.flowState = state at hlookup
    cases hlookup with
    | writeFails hnew hsig hvalue | unmarked hnew hsig hvalue =>
      simp only [List.mem_cons, reduceCtorEq, List.not_mem_nil, or_false, false_or,
        Access.set.injEq] at hmem
      obtain ⟨rfl, rfl, rfl⟩ := hmem
      exact ⟨mode, p, _, _, hlooks, hsig, hvalue, rfl, rfl, rfl⟩
    | _ => simp at hmem

/-- A packet without signature is found forward, and the cache is not asked. -/
theorem of_noSignature (h : r.Explained) {mode : ReadMode} {p : Packet}
    (hlooks : r.call.LooksFor r.before mode p) (hnew : r.before.flowState = .untracked)
    (hsig : p.flowSig? = none) :
    r.traffic = [] ∧ r.answer = .ok (r.call.reply .forward) ∧
      r.after = { r.before with flowState := .forward } := by
  cases h with
  | idle hidle htraffic hanswer hafter => exact absurd hlooks (hidle mode p)
  | @looked mode' p' result hlooks' hlookup hanswer hafter =>
    obtain ⟨rfl, rfl⟩ := hlooks'.unique hlooks
    generalize r.traffic = traffic at hlookup ⊢
    generalize r.after.flowState = state at hlookup hafter
    cases hlookup with
    | noSignature => exact ⟨rfl, hanswer, hafter⟩
    | known hknown => exact absurd hnew hknown
    | readFails _ hsome | marked _ hsome | writeFails _ hsome _ | unmarked _ hsome _ =>
      rw [hsig] at hsome
      contradiction

/-- For any other packet a new look-up starts with a read of its own key. -/
theorem of_signature (h : r.Explained) {mode : ReadMode} {p : Packet} {sig : FlowSig}
    (hlooks : r.call.LooksFor r.before mode p) (hnew : r.before.flowState = .untracked)
    (hsig : p.flowSig? = some sig) :
    ∃ answer rest, r.traffic =
      .getAndTouch mode (trackingKey r.before.device sig) answer :: rest := by
  cases h with
  | idle hidle htraffic hanswer hafter => exact absurd hlooks (hidle mode p)
  | @looked mode' p' result hlooks' hlookup hanswer hafter =>
    obtain ⟨rfl, rfl⟩ := hlooks'.unique hlooks
    generalize r.traffic = traffic at hlookup
    generalize r.after.flowState = state at hlookup
    cases hlookup with
    | known hknown => exact absurd hnew hknown
    | noSignature _ hnone => simp [hsig] at hnone
    | readFails _ hsome | marked _ hsome | writeFails _ hsome _ | unmarked _ hsome _ =>
      obtain rfl := Option.some.inj (hsig.symm.trans hsome)
      exact ⟨_, _, rfl⟩

/-- An evaluation that comes to no look-up leaves cache and context alone. -/
theorem of_evaluate (h : r.Explained) {mode : ReadMode} {c : Condition} {site : Attachment}
    {p : Packet} (hcall : r.call = .evaluate mode c site p)
    (hnot : ¬((∀ name, c.Meets site r.before p name) ∧ c.WantsDirection)) :
    r.traffic = [] ∧ (∃ answer, r.answer = .ok answer) ∧ r.after = r.before := by
  have hidle : r.call.Idle r.before := by
    rw [hcall]
    exact ContextCall.idle_evaluate_iff.mpr hnot
  have hmoved : r.call.moved r.before = r.before := by rw [hcall]; rfl
  cases h with
  | idle _ htraffic hanswer hafter => exact ⟨htraffic, hanswer, hafter.trans hmoved⟩
  | looked hlooks => exact absurd hlooks (hidle _ _)

end CallRecord.Explained

/-! ## What the reads and writes are paid with -/

/-- The potential of a context : one if the direction is settled. -/
def FlowState.settled (state : FlowState) : Nat := if state = .untracked then 0 else 1

theorem FlowState.settled_le_one (state : FlowState) : state.settled ≤ 1 := by
  unfold settled
  split <;> decide

/-- A look-up that reads, or writes, settles the direction or fails. -/
theorem Lookup.accesses_le {mode : ReadMode} {device : DeviceId} {p : Packet}
    {before after : FlowState} {traffic : List Access} {result : Except CacheError FlowState}
    (h : Lookup mode device p before traffic result after) :
    traffic.countP Access.isRead + before.settled ≤ (!result.toBool).toNat + after.settled ∧
      traffic.countP Access.isWrite + before.settled ≤ (!result.toBool).toNat + after.settled := by
  cases h with
  | known => simp [Except.toBool]
  | noSignature hnew | readFails hnew | marked hnew | writeFails hnew | unmarked hnew =>
    subst hnew
    simp [List.countP_cons, Access.isRead, Access.isWrite, FlowState.settled, Except.toBool]

namespace CallRecord.Explained

variable {r : CallRecord}

theorem accesses_le (h : r.Explained) :
    r.traffic.countP Access.isRead + r.before.flowState.settled ≤
        r.failed.toNat + r.after.flowState.settled ∧
      r.traffic.countP Access.isWrite + r.before.flowState.settled ≤
        r.failed.toNat + r.after.flowState.settled := by
  cases h with
  | idle hidle htraffic hanswer hafter =>
    rw [htraffic, hafter, ContextCall.flowState_moved]
    simp
  | @looked mode p result hlooks hlookup hanswer hafter =>
    have hfailed : r.failed = !result.toBool := by
      rw [CallRecord.failed, hanswer]
      cases result <;> rfl
    rw [hfailed]
    exact hlookup.accesses_le

theorem changes_le (h : r.Explained) :
    r.changes.toNat + r.before.flowState.settled ≤ r.after.flowState.settled := by
  by_cases hnew : r.before.flowState = .untracked
  · cases hstate : r.after.flowState <;> simp [changes, FlowState.settled, hnew, hstate]
  · have hafter := (h.quiet hnew).after
    simp [changes, hafter]

end CallRecord.Explained

/-! ## Whole histories -/

namespace ContextCall

variable {cache : Cache σ}

theorem explained_of_mem {r : CallRecord} :
    ∀ {calls : List ContextCall} {s : EvalState σ}, r ∈ history cache calls s → r.Explained
  | call :: calls, s, h => by
    rcases List.mem_cons.mp h with rfl | h
    · exact (explained_record cache call s).2
    · exact explained_of_mem h

/-- What one call pays for is paid for in the whole history. -/
theorem countP_history_le (cache : Cache σ) {α : Type} (f : CallRecord → List α)
    (q : α → Bool) (fails : CallRecord → Bool)
    (hstep : ∀ r : CallRecord, r.Explained →
      (f r).countP q + r.before.flowState.settled ≤
        (fails r).toNat + r.after.flowState.settled) :
    ∀ (calls : List ContextCall) (s : EvalState σ),
      ((history cache calls s).flatMap f).countP q + s.context.flowState.settled ≤
        (history cache calls s).countP fails + (run cache calls s).context.flowState.settled
  | [], s => by simp [history, run]
  | call :: calls, s => by
    have hfirst := hstep _ (explained_record cache call s).2
    have hrest := countP_history_le cache f q fails hstep calls
      (Eval.outcome (call.perform cache) s).2
    have hbefore : (call.record cache s).before = s.context := rfl
    have hafter : (call.record cache s).after =
      (Eval.outcome (call.perform cache) s).2.context := rfl
    have hrun : run cache (call :: calls) s =
      run cache calls (Eval.outcome (call.perform cache) s).2 := rfl
    rw [hbefore, hafter] at hfirst
    rw [history, List.flatMap_cons, List.countP_append, List.countP_cons, hrun]
    cases hfails : fails (call.record cache s) <;> simp [hfails] at hfirst ⊢ <;> omega

/-- A change of the direction is paid for by settling it, and no failure pays for one. -/
theorem countP_changes_le (cache : Cache σ) (calls : List ContextCall) (s : EvalState σ) :
    (history cache calls s).countP CallRecord.changes ≤ 1 := by
  have hend := (run cache calls s).context.flowState.settled_le_one
  have hle := countP_history_le cache (fun r => [r]) CallRecord.changes (fun _ => false)
    (fun r hr => by
      have hpaid := hr.changes_le
      cases hchanges : r.changes <;> simpa [hchanges] using hpaid) calls s
  rw [List.flatMap_singleton', List.countP_false] at hle
  simp only [Function.const_apply] at hle
  omega

/-- What is settled before some calls is before and after each of them. -/
theorem quiet_of_known {state : FlowState} (hstate : state ≠ .untracked) :
    ∀ (calls : List ContextCall) (s : EvalState σ), s.context.flowState = state →
      ∀ r ∈ history cache calls s, r.Quiet state
  | [], _, _, r, hr => absurd hr (by simp [history])
  | call :: calls, s, hs, r, hr => by
    have hbefore : (call.record cache s).before.flowState = state := hs
    have hquiet := (explained_record cache call s).2.quiet (by rwa [hbefore])
    rw [hbefore] at hquiet
    rcases List.mem_cons.mp hr with rfl | hr
    · exact hquiet
    · exact quiet_of_known hstate calls _ hquiet.after r hr

theorem pairwise_history :
    ∀ (calls : List ContextCall) (s : EvalState σ), (history cache calls s).Pairwise
      fun r r' => r.after.flowState ≠ .untracked → r'.Quiet r.after.flowState
  | [], _ => List.Pairwise.nil
  | call :: calls, s => by
    refine List.pairwise_cons.mpr ⟨fun r hr hstate => ?_, pairwise_history calls _⟩
    exact quiet_of_known hstate calls _ rfl r hr

/-- The traffic of a whole run under observation is that of the records. -/
theorem run_observed : ∀ (calls : List ContextCall) (s : EvalState σ) (past : List Access),
    run cache.observed calls (s.observed past) =
      (run cache calls s).observed (past ++ (history cache calls s).flatMap CallRecord.traffic)
  | [], s, past => by simp [run, history]
  | call :: calls, s, past => by
    have hrun : ∀ {τ : Type} (cache : Cache τ) (t : EvalState τ), run cache (call :: calls) t =
      run cache calls (Eval.outcome (call.perform cache) t).2 := fun _ _ => rfl
    rw [hrun, hrun, (explained_record cache call s).1 past, run_observed calls, history,
      List.flatMap_cons, List.append_assoc]

/-- Each call finds the context as the one before left it. -/
theorem isChain_history : ∀ (calls : List ContextCall) (s : EvalState σ),
    (history cache calls s).IsChain fun r r' => r'.before = r.after
  | [], _ => List.IsChain.nil
  | call :: calls, s => by
    refine List.isChain_cons.mpr ⟨fun r hr => ?_, isChain_history calls _⟩
    cases calls with
    | nil => simp [history] at hr
    | cons call' calls =>
      obtain rfl := Option.some.inj hr
      rfl

end ContextCall

/-- What the records of the calls made of one context keep to. -/
structure SettledOnce (records : List CallRecord) : Prop where
  linked : records.IsChain fun r r' => r'.before = r.after
  /-- The direction changes at most once, -/
  changes_le : records.countP CallRecord.changes ≤ 1
  /-- and then from unknown to one of the two. -/
  changed : ∀ r ∈ records, r.changes = true → r.before.flowState = .untracked ∧
    (r.after.flowState = .forward ∨ r.after.flowState = .returning)
  /-- A call on a settled context asks nothing and tells what is settled, -/
  quiet : ∀ r ∈ records, r.before.flowState ≠ .untracked → r.Quiet r.before.flowState
  /-- and so does every call after the one that settled it. -/
  quiet_after : records.Pairwise
    fun r r' => r.after.flowState ≠ .untracked → r'.Quiet r.after.flowState
  reads_le : (records.flatMap CallRecord.traffic).countP Access.isRead ≤
    records.countP CallRecord.failed + 1
  writes_le : (records.flatMap CallRecord.traffic).countP Access.isWrite ≤
    records.countP CallRecord.failed + 1
  /-- A write comes right after a read of the packet's own key that found no marker, and
  puts the marker under the opposite key. -/
  written : ∀ r ∈ records, ∀ key value answer, .set key value answer ∈ r.traffic →
    ∃ mode p sig found, r.call.LooksFor r.before mode p ∧ p.flowSig? = some sig ∧
      found ≠ some returnMarker ∧ key = reverseKey r.before.device sig ∧ value = returnMarker ∧
      r.traffic = [.getAndTouch mode (trackingKey r.before.device sig) (.ok found),
        .set key value answer]
  /-- A packet without signature is found forward, and the cache is not asked. -/
  noSignature : ∀ r ∈ records, ∀ mode p, r.call.LooksFor r.before mode p →
    r.before.flowState = .untracked → p.flowSig? = none →
    r.traffic = [] ∧ r.answer = .ok (r.call.reply .forward) ∧
      r.after = { r.before with flowState := .forward }
  /-- A condition of which a clause is not met, or that wants no direction, leaves cache
  and context alone. -/
  evaluated : ∀ r ∈ records, ∀ mode c site p, r.call = .evaluate mode c site p →
    ¬((∀ name, c.Meets site r.before p name) ∧ c.WantsDirection) →
    r.traffic = [] ∧ (∃ answer, r.answer = .ok answer) ∧ r.after = r.before

namespace ContextCall

/-- Whatever the cache answers, the direction of a flow is settled at most once in the life
of a context, and the cache is asked once for it and once more for each failure. Under
observation the cache sees the traffic of the records. -/
theorem history_settledOnce (cache : Cache σ) (calls : List ContextCall) (s : EvalState σ) :
    SettledOnce (history cache calls s) ∧
      run cache.observed calls (s.observed []) =
        (run cache calls s).observed ((history cache calls s).flatMap CallRecord.traffic) := by
  have hexplained : ∀ r ∈ history cache calls s, r.Explained := fun r hr => explained_of_mem hr
  have hend := (run cache calls s).context.flowState.settled_le_one
  have hreads := countP_history_le cache CallRecord.traffic Access.isRead CallRecord.failed
    (fun r hr => hr.accesses_le.1) calls s
  have hwrites := countP_history_le cache CallRecord.traffic Access.isWrite CallRecord.failed
    (fun r hr => hr.accesses_le.2) calls s
  have hrecords : SettledOnce (history cache calls s) :=
    { linked := isChain_history calls s
      changes_le := countP_changes_le cache calls s
      changed := fun r hr => (hexplained r hr).of_changes
      quiet := fun r hr => (hexplained r hr).quiet
      quiet_after := pairwise_history calls s
      reads_le := by omega
      writes_le := by omega
      written := fun r hr key value answer => (hexplained r hr).of_write
      noSignature := fun r hr mode p => (hexplained r hr).of_noSignature
      evaluated := fun r hr mode c site p => (hexplained r hr).of_evaluate }
  exact ⟨hrecords, run_observed calls s []⟩

/-! ## A history with a failure -/

/-- A cache that finds nothing and refuses its first write. -/
def refusesFirst : Cache Bool where
  read _ refused := (.ok none, refused)
  readAsync _ := .done (.ok none)
  renew _ refused := (.ok none, refused)
  renewAsync _ := .done (.ok none)
  set _ _ refused := (if refused then .ok () else .error .timeout, true)
  expirationSecs _ := 60

/-- The first look-up fails, the second settles the direction, and then a packet without
signature is found of the same direction. -/
def sampleCalls : List ContextCall :=
  [.flowState .blocking sampleRequest, .setOutPort none,
    .evaluate .async { returnFlow := true } .element sampleRequest, .flowState .async {}]

/-- A context on which nothing is known. -/
def sampleState : EvalState Bool := ⟨{ device := ⟨0⟩ }, false, []⟩

/-- One failure, two reads and two writes, and after them the cache is not asked. -/
theorem sampleCalls_settledOnce :
    (history refusesFirst sampleCalls sampleState).countP CallRecord.failed = 1 ∧
    ((history refusesFirst sampleCalls sampleState).flatMap CallRecord.traffic).countP
      Access.isRead = 2 ∧
    ((history refusesFirst sampleCalls sampleState).flatMap CallRecord.traffic).countP
      Access.isWrite = 2 ∧
    ∀ r ∈ (history refusesFirst sampleCalls sampleState).getLast?, r.Quiet .forward := by
  obtain ⟨hsettled, -⟩ := history_settledOnce refusesFirst sampleCalls sampleState
  refine ⟨rfl, rfl, rfl, fun r hr => ?_⟩
  have hbefore : r.before.flowState = .forward := by
    obtain rfl := Option.some.inj hr
    rfl
  have hquiet := hsettled.quiet r (List.mem_of_getLast? hr) (by rw [hbefore]; decide)
  rwa [hbefore] at hquiet

end ContextCall

end FlowRules
