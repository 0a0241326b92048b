import FlowRules.Proofs.Eval.History

/-!
# When an evaluation fails

An evaluation fails only where it looks for the direction of a flow, and there only by one
of two calls of the cache : the read of the own key, or the write of the opposite key
after a read that found no marker (`Refusal`). The failure is handed on as it is, one line
is reported under the key of the call that failed, and the context is left as it was, so
that the next look-up starts anew. `Condition.evaluate_fails_iff` puts this together.
-/

namespace FlowRules

variable {σ : Type}

/-- One of the two calls of a look-up fails : the key of that call, the failure, the store
after it, and the calls made up to it. -/
inductive Refusal (cache : Cache σ) (mode : ReadMode) (device : DeviceId) (sig : FlowSig)
    (store : σ) : String → CacheError → σ → List Access → Prop where
  | read {e : CacheError} {store' : σ}
      (hread : cache.getAndTouch mode (trackingKey device sig) store = (.error e, store')) :
      Refusal cache mode device sig store (trackingKey device sig) e store'
        [.getAndTouch mode (trackingKey device sig) (.error e)]
  /-- The read has succeeded, with anything but the marker. -/
  | write {value : Option String} {mid : σ} {e : CacheError} {store' : σ}
      (hread : cache.getAndTouch mode (trackingKey device sig) store = (.ok value, mid))
      (hvalue : value ≠ some returnMarker)
      (hwrite : cache.set (reverseKey device sig) returnMarker mid = (.error e, store')) :
      Refusal cache mode device sig store (reverseKey device sig) e store'
        [.getAndTouch mode (trackingKey device sig) (.ok value),
          .set (reverseKey device sig) returnMarker (.error e)]

/-- What a context adds to the log when a call about the key failed : one line, unless its
reports are discarded. -/
def Context.failureReport (ctx : Context) (key : String) (e : CacheError) : List LogLine :=
  if ctx.reports then [⟨.warn, "conn track " ++ key ++ ": " ++ e.message⟩] else []

theorem Eval.reported_eq (s : EvalState σ) (key : String) (e : CacheError) :
    reported s key e = { s with log := s.log ++ s.context.failureReport key e } := by
  unfold reported Context.failureReport
  split <;> simp

/-! ## Looking for a direction -/

section Direction

variable {cache : Cache σ} {mode : ReadMode} {p : Packet} {s s' : EvalState σ}
  {sig : FlowSig} {key : String} {e : CacheError} {store : σ} {traffic : List Access}

/-- A refused call is what makes the look-up fail, also under observation. -/
theorem Refusal.directed
    (h : Refusal cache mode s.context.device sig s.cache key e store traffic)
    (hnew : s.context.flowState = .untracked) (hsig : p.flowSig? = some sig) :
    Directed cache mode p s (.error e) (Eval.reported { s with cache := store } key e) ∧
    ∀ past, Directed cache.observed mode p (s.observed past) (.error e)
      ((Eval.reported { s with cache := store } key e).observed (past ++ traffic)) := by
  cases h with
  | read hread =>
    refine ⟨.readFails hnew hsig hread, fun past => ?_⟩
    rw [EvalState.observed_reported]
    exact .readFails hnew hsig (Cache.observed_getAndTouch hread past)
  | write hread hvalue hwrite =>
    refine ⟨.writeFails hnew hsig hread hvalue hwrite, fun past => ?_⟩
    rw [EvalState.observed_reported, List.append_cons]
    exact .writeFails hnew hsig (Cache.observed_getAndTouch hread past) hvalue
      (Cache.observed_set hwrite _)

/-- A look-up that fails does so by a refused call. -/
theorem Directed.exists_refusal (h : Directed cache mode p s (.error e) s') :
    s.context.flowState = .untracked ∧ ∃ sig, p.flowSig? = some sig ∧ ∃ key store traffic,
      Refusal cache mode s.context.device sig s.cache key e store traffic ∧
      s' = Eval.reported { s with cache := store } key e := by
  cases h with
  | readFails hnew hsig hread => exact ⟨hnew, _, hsig, _, _, _, .read hread, rfl⟩
  | writeFails hnew hsig hread hvalue hwrite =>
    exact ⟨hnew, _, hsig, _, _, _, .write hread hvalue hwrite, rfl⟩

/-- Nothing is reported by a look-up that succeeds. -/
theorem Directed.log_eq {state : FlowState} (h : Directed cache mode p s (.ok state) s') :
    s'.log = s.log := by
  cases h <;> rfl

end Direction

/-! ## Evaluating a condition -/

namespace Condition

variable {cache : Cache σ} {mode : ReadMode} {c : Condition} {site : Attachment} {p : Packet}
  {s s' : EvalState σ}

/-- An evaluation is idle, or it answers by the direction. -/
theorem outcome_evaluate_cases (cache : Cache σ) (mode : ReadMode) (c : Condition)
    (site : Attachment) (p : Packet) (s : EvalState σ) :
    (¬((∀ name, c.Meets site s.context p name) ∧ c.WantsDirection) ∧
      ∃ holds, Eval.outcome (c.evaluate cache mode site p) s = (.ok holds, s)) ∨
    (((∀ name, c.Meets site s.context p name) ∧ c.WantsDirection) ∧
      ∃ r s', Directed cache mode p s r s' ∧ Eval.outcome (c.evaluate cache mode site p) s =
        (r.map fun state => if c.flowHolds state then !c.negated else c.negated, s')) := by
  rw [← stateless_iff, ← needsFlowState_iff]
  cases hst : c.stateless site s.context p with
  | false => exact Or.inl ⟨by simp, _, outcome_evaluate_of_unmet hst⟩
  | true =>
    cases hwants : c.needsFlowState with
    | false => exact Or.inl ⟨by simp, _, outcome_evaluate_of_met hst hwants⟩
    | true =>
      obtain ⟨r, s', hdir⟩ := Eval.exists_directed cache mode p s
      exact Or.inr ⟨⟨rfl, rfl⟩, r, s', hdir, outcome_evaluate_of_directed hst hwants hdir⟩

/-- An evaluation fails as its look-up fails. -/
theorem outcome_evaluate_eq_error_iff {e : CacheError} :
    Eval.outcome (c.evaluate cache mode site p) s = (.error e, s') ↔
      ((∀ name, c.Meets site s.context p name) ∧ c.WantsDirection) ∧
        Directed cache mode p s (.error e) s' := by
  constructor
  · intro h
    rcases outcome_evaluate_cases cache mode c site p s with
      ⟨-, holds, hok⟩ | ⟨hasks, r, s₁, hdir, hr⟩
    · simp [hok] at h
    · rw [hr] at h
      obtain ⟨hmap, rfl⟩ := Prod.mk.inj h
      cases r with
      | ok state => simp [Except.map] at hmap
      | error e' =>
        obtain rfl := Except.error.inj hmap
        exact ⟨hasks, hdir⟩
  · rintro ⟨⟨hclauses, hwants⟩, hdir⟩
    exact outcome_evaluate_of_directed (stateless_iff.mpr hclauses)
      (needsFlowState_iff.mpr hwants) hdir

/-- An evaluation that gives a result reports nothing. -/
theorem log_eq_of_outcome_evaluate {holds : Bool}
    (h : Eval.outcome (c.evaluate cache mode site p) s = (.ok holds, s')) : s'.log = s.log := by
  rcases outcome_evaluate_cases cache mode c site p s with
    ⟨-, holds, hok⟩ | ⟨-, r, s₁, hdir, hr⟩
  · rw [hok] at h
    obtain ⟨-, rfl⟩ := Prod.mk.inj h
    rfl
  · rw [hr] at h
    obtain ⟨hmap, rfl⟩ := Prod.mk.inj h
    cases r with
    | ok state => exact hdir.log_eq
    | error e => simp [Except.map] at hmap

/-- An evaluation fails if it comes to look for a direction that is not settled, of a
packet with a signature, and one of the two calls of the cache is refused. Then it fails
in the same way, inverted or not, asks nothing more, reports one line and leaves the
context as it was, and the next call that looks for a direction reads the cache again. If
it gives a result it reports nothing. -/
theorem evaluate_fails_iff (cache : Cache σ) (mode : ReadMode) (c : Condition)
    (site : Attachment) (p : Packet) (s : EvalState σ) :
    (∀ e s', Eval.outcome (c.evaluate cache mode site p) s = (.error e, s') ↔
      (∀ name, c.Meets site s.context p name) ∧ c.WantsDirection ∧
      s.context.flowState = .untracked ∧
      ∃ sig, p.flowSig? = some sig ∧ ∃ key store traffic,
        Refusal cache mode s.context.device sig s.cache key e store traffic ∧
        s' = ⟨s.context, store, s.log ++ s.context.failureReport key e⟩) ∧
    (∀ e s', Eval.outcome (c.evaluate cache mode site p) s = (.error e, s') →
      (∀ sig key store traffic, p.flowSig? = some sig →
        Refusal cache mode s.context.device sig s.cache key e store traffic →
        ∀ past, Eval.outcome (c.evaluate cache.observed mode site p) (s.observed past) =
          (.error e, s'.observed (past ++ traffic))) ∧
      (∀ negated, Eval.outcome ({ c with negated }.evaluate cache mode site p) s =
        (.error e, s')) ∧
      ∀ (call : ContextCall) (mode' : ReadMode) (p' : Packet) (sig : FlowSig) (store : σ)
        (log : List LogLine), call.LooksFor s'.context mode' p' → p'.flowSig? = some sig →
        ∃ answer rest, (call.record cache ⟨s'.context, store, log⟩).traffic =
          .getAndTouch mode' (trackingKey s'.context.device sig) answer :: rest) ∧
    ∀ holds s', Eval.outcome (c.evaluate cache mode site p) s = (.ok holds, s') →
      s'.log = s.log := by
  refine ⟨fun e s' => ?_, fun e s' h => ?_, fun holds s' => log_eq_of_outcome_evaluate⟩
  · rw [outcome_evaluate_eq_error_iff]
    constructor
    · rintro ⟨⟨hclauses, hwants⟩, hdir⟩
      obtain ⟨hnew, sig, hsig, key, store, traffic, hrefusal, rfl⟩ := hdir.exists_refusal
      exact ⟨hclauses, hwants, hnew, sig, hsig, key, store, traffic, hrefusal,
        Eval.reported_eq _ _ _⟩
    · rintro ⟨hclauses, hwants, hnew, sig, hsig, key, store, traffic, hrefusal, rfl⟩
      have hdir := (hrefusal.directed hnew hsig).1
      rw [Eval.reported_eq] at hdir
      exact ⟨⟨hclauses, hwants⟩, hdir⟩
  · obtain ⟨hasks, hdir⟩ := outcome_evaluate_eq_error_iff.mp h
    have hnew := hdir.exists_refusal.1
    refine ⟨?_, fun negated => outcome_evaluate_eq_error_iff.mpr ⟨hasks, hdir⟩, ?_⟩
    · intro sig key store traffic hsig hrefusal past
      obtain ⟨hplain, hobserved⟩ := hrefusal.directed hnew hsig
      have hsame := (outcome_evaluate_eq_error_iff.mpr ⟨hasks, hplain⟩).symm.trans h
      obtain rfl := (Prod.mk.inj hsame).2
      exact outcome_evaluate_eq_error_iff.mpr ⟨hasks, hobserved past⟩
    · intro call mode' p' sig store log hlooks hsig
      obtain ⟨_, _, _, key, _, _, _, rfl⟩ := hdir.exists_refusal
      rw [Eval.context_reported] at hlooks ⊢
      exact (ContextCall.explained_record cache call ⟨s.context, store, log⟩).2.of_signature
        hlooks hnew hsig

/-! ## A write that is refused -/

/-- A context that reports, on a cache that refuses its first write. -/
def reportingState : EvalState Bool := ⟨{ device := ⟨0⟩, reports := true }, false, []⟩

/-- The state after the refusal. -/
def refusedState : EvalState Bool :=
  ⟨reportingState.context, true, [⟨.warn, "conn track 00000000-0000-0000-0000-000000000000|6|" ++
    "10.0.11.34:1234|10.0.20.6:4321: connection tracking cache timed out"⟩]⟩

/-- The condition that holds of any packet but a forward one. -/
def notForward : Condition := { negated := true, forwardFlow := true }

/-- The refused write is the failure of the evaluation, although the condition is
inverted, there are no calls but the read and the write, and the next look-up reads anew. -/
theorem sampleRequest_fails :
    Eval.outcome (notForward.evaluate ContextCall.refusesFirst .async .element sampleRequest)
      reportingState = (.error .timeout, refusedState) ∧
    Eval.outcome (notForward.evaluate ContextCall.refusesFirst.observed .async .element
      sampleRequest) (reportingState.observed []) = (.error .timeout, refusedState.observed
        [.getAndTouch .async (trackingKey ⟨0⟩ sampleSig) (.ok none),
          .set (reverseKey ⟨0⟩ sampleSig) returnMarker (.error .timeout)]) ∧
    ∃ answer rest, ((ContextCall.flowState .blocking sampleRequest).record
      ContextCall.refusesFirst refusedState).traffic =
        .getAndTouch .blocking (trackingKey ⟨0⟩ sampleSig) answer :: rest := by
  have hsig : sampleRequest.flowSig? = some sampleSig := rfl
  have hmeets : ∀ name, notForward.Meets .element reportingState.context sampleRequest name :=
    stateless_iff.mp rfl
  have hwants : notForward.WantsDirection := Or.inl rfl
  have hrefusal : Refusal ContextCall.refusesFirst .async ⟨0⟩ sampleSig false
      (reverseKey ⟨0⟩ sampleSig) .timeout true _ := .write rfl (by decide) rfl
  have hkey : reverseKey ⟨0⟩ sampleSig =
    "00000000-0000-0000-0000-000000000000|6|10.0.11.34:1234|10.0.20.6:4321" := by cbv
  have hreport : refusedState = ⟨reportingState.context, true,
      reportingState.context.failureReport (reverseKey ⟨0⟩ sampleSig) .timeout⟩ := by
    rw [hkey]
    rfl
  obtain ⟨hfails, hafter, -⟩ := evaluate_fails_iff ContextCall.refusesFirst .async notForward
    .element sampleRequest reportingState
  have herror := (hfails .timeout refusedState).mpr
    ⟨hmeets, hwants, rfl, sampleSig, hsig, _, _, _, hrefusal, hreport⟩
  obtain ⟨htraffic, -, hagain⟩ := hafter _ _ herror
  exact ⟨herror, htraffic _ _ _ _ hsig hrefusal [], hagain (.flowState .blocking sampleRequest)
    .blocking sampleRequest sampleSig true refusedState.log .flowState hsig⟩

end Condition

end FlowRules
