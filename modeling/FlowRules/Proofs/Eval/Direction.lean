import FlowRules.Proofs.Eval.Suspension

/-!
# How the direction of a flow is found

`Directed cache mode p s r s'` gives the rules by which the direction of a packet's
flow is found from the state `s`, whatever the cache answers : what is settled is not
asked again; a packet without signature is forward; otherwise the packet's own key is
read, and the marker written under the opposite key unless it was found. The result
`r` is the direction, or the failure of the one call that failed, and `s'` the state
after it. `Eval.outcome_flowState_iff` says that these rules are what `Eval.flowState`
computes.
-/

namespace FlowRules

variable {σ : Type}

namespace Eval

/-- The state with the direction of the flow settled. -/
def settled (s : EvalState σ) (state : FlowState) : EvalState σ :=
  { s with context := { s.context with flowState := state } }

theorem outcome_settle (state : FlowState) (s : EvalState σ) :
    outcome (settle state) s = (.ok state, settled s state) := rfl

theorem outcome_call_ok {α : Type} {key : String} {op : σ → Except CacheError α × σ}
    {s : EvalState σ} {a : α} {store : σ} (h : op s.cache = (.ok a, store)) :
    outcome (call key op) s = (.ok a, { s with cache := store }) := by
  simp [outcome, call, ExceptT.run, StateT.run, h]

theorem outcome_call_error {α : Type} {key : String} {op : σ → Except CacheError α × σ}
    {s : EvalState σ} {e : CacheError} {store : σ} (h : op s.cache = (.error e, store)) :
    outcome (call key op) s = (.error e, reported { s with cache := store } key e) := by
  simp [outcome, call, ExceptT.run, StateT.run, h]

end Eval

/-! ## The rules -/

open Eval

/-- The direction of the packet's flow, or why it cannot be found, and the state after
looking for it. -/
inductive Directed (cache : Cache σ) (mode : ReadMode) (p : Packet) (s : EvalState σ) :
    Except CacheError FlowState → EvalState σ → Prop where
  /-- What is known is not asked again. -/
  | known (hknown : s.context.flowState ≠ .untracked) :
      Directed cache mode p s (.ok s.context.flowState) s
  /-- A packet without signature is forward. -/
  | noSignature (hnew : s.context.flowState = .untracked) (hsig : p.flowSig? = none) :
      Directed cache mode p s (.ok .forward) (settled s .forward)
  | readFails {sig : FlowSig} {e : CacheError} {store : σ}
      (hnew : s.context.flowState = .untracked) (hsig : p.flowSig? = some sig)
      (hread : cache.getAndTouch mode (trackingKey s.context.device sig) s.cache =
        (.error e, store)) :
      Directed cache mode p s (.error e)
        (reported { s with cache := store } (trackingKey s.context.device sig) e)
  /-- The marker stands under the packet's own key. -/
  | marked {sig : FlowSig} {store : σ}
      (hnew : s.context.flowState = .untracked) (hsig : p.flowSig? = some sig)
      (hread : cache.getAndTouch mode (trackingKey s.context.device sig) s.cache =
        (.ok (some returnMarker), store)) :
      Directed cache mode p s (.ok .returning) (settled { s with cache := store } .returning)
  | writeFails {sig : FlowSig} {value : Option String} {store store' : σ} {e : CacheError}
      (hnew : s.context.flowState = .untracked) (hsig : p.flowSig? = some sig)
      (hread : cache.getAndTouch mode (trackingKey s.context.device sig) s.cache =
        (.ok value, store))
      (hvalue : value ≠ some returnMarker)
      (hwrite : cache.set (reverseKey s.context.device sig) returnMarker store =
        (.error e, store')) :
      Directed cache mode p s (.error e)
        (reported { s with cache := store' } (reverseKey s.context.device sig) e)
  /-- No marker : the packet is forward, and its opposite will be recognised. -/
  | unmarked {sig : FlowSig} {value : Option String} {store store' : σ}
      (hnew : s.context.flowState = .untracked) (hsig : p.flowSig? = some sig)
      (hread : cache.getAndTouch mode (trackingKey s.context.device sig) s.cache =
        (.ok value, store))
      (hvalue : value ≠ some returnMarker)
      (hwrite : cache.set (reverseKey s.context.device sig) returnMarker store =
        (.ok (), store')) :
      Directed cache mode p s (.ok .forward) (settled { s with cache := store' } .forward)

namespace Eval

variable {cache : Cache σ} {mode : ReadMode} {p : Packet} {s : EvalState σ}

/-! ## The rules are what is computed -/

theorem outcome_flowState_of_known (h : s.context.flowState ≠ .untracked) :
    outcome (flowState cache mode p) s = (.ok s.context.flowState, s) := by
  have ht : s.context.isTracked = true := by simpa [Context.isTracked] using h
  rw [flowState_eq_blocking, flowStateBlocking, outcome_bind, outcome_get]
  simp [ht, outcome_pure]

theorem outcome_flowState_of_noSignature (h : s.context.flowState = .untracked)
    (hsig : p.flowSig? = none) :
    outcome (flowState cache mode p) s = (.ok .forward, settled s .forward) := by
  have ht : s.context.isTracked = false := by simp [Context.isTracked, h]
  rw [flowState_eq_blocking, flowStateBlocking, outcome_bind, outcome_get]
  simp [ht, hsig, outcome_settle]

/-- For a packet with a signature that is not settled, the own key is read and the
value decides. -/
theorem outcome_flowState_of_signature {sig : FlowSig} (h : s.context.flowState = .untracked)
    (hsig : p.flowSig? = some sig) :
    outcome (flowState cache mode p) s =
      outcome (call (trackingKey s.context.device sig)
          (cache.getAndTouch mode (trackingKey s.context.device sig)) >>=
        classify cache s.context.device sig) s := by
  have ht : s.context.isTracked = false := by simp [Context.isTracked, h]
  rw [flowState_eq_blocking, flowStateBlocking, outcome_bind, outcome_get]
  simp only [ht, hsig, Bool.false_eq_true, if_false]
  cases mode <;> rfl

theorem outcome_classify_marked (device : DeviceId) (sig : FlowSig) (s : EvalState σ) :
    outcome (classify cache device sig (some returnMarker)) s =
      (.ok .returning, settled s .returning) := by
  simp [classify, outcome_settle]

theorem outcome_classify_unmarked {value : Option String} (hvalue : value ≠ some returnMarker)
    (device : DeviceId) (sig : FlowSig) (s : EvalState σ) :
    outcome (classify cache device sig value) s =
      outcome (call (reverseKey device sig) (cache.set (reverseKey device sig) returnMarker) >>=
        fun _ => settle .forward) s := by
  simp [classify, hvalue]

/-- Every rule gives what is computed. -/
theorem outcome_flowState_of_directed {r : Except CacheError FlowState} {s' : EvalState σ}
    (h : Directed cache mode p s r s') : outcome (flowState cache mode p) s = (r, s') := by
  cases h with
  | known hknown => exact outcome_flowState_of_known hknown
  | noSignature hnew hsig => exact outcome_flowState_of_noSignature hnew hsig
  | readFails hnew hsig hread =>
    rw [outcome_flowState_of_signature hnew hsig, outcome_bind, outcome_call_error hread]
  | marked hnew hsig hread =>
    rw [outcome_flowState_of_signature hnew hsig, outcome_bind, outcome_call_ok hread]
    exact outcome_classify_marked _ _ _
  | writeFails hnew hsig hread hvalue hwrite =>
    rw [outcome_flowState_of_signature hnew hsig, outcome_bind, outcome_call_ok hread]
    simp only
    rw [outcome_classify_unmarked hvalue, outcome_bind, outcome_call_error hwrite]
  | unmarked hnew hsig hread hvalue hwrite =>
    rw [outcome_flowState_of_signature hnew hsig, outcome_bind, outcome_call_ok hread]
    simp only
    rw [outcome_classify_unmarked hvalue, outcome_bind, outcome_call_ok hwrite]
    rfl

/-- From every state one of the rules applies. -/
theorem exists_directed (cache : Cache σ) (mode : ReadMode) (p : Packet) (s : EvalState σ) :
    ∃ r s', Directed cache mode p s r s' := by
  by_cases hnew : s.context.flowState = .untracked
  · cases hsig : p.flowSig? with
    | none => exact ⟨_, _, .noSignature hnew hsig⟩
    | some sig =>
      rcases hread : cache.getAndTouch mode (trackingKey s.context.device sig) s.cache with
        ⟨e | value, store⟩
      · exact ⟨_, _, .readFails hnew hsig hread⟩
      · by_cases hvalue : value = some returnMarker
        · subst hvalue
          exact ⟨_, _, .marked hnew hsig hread⟩
        · rcases hwrite : cache.set (reverseKey s.context.device sig) returnMarker store with
            ⟨e | _, store'⟩
          · exact ⟨_, _, .writeFails hnew hsig hread hvalue hwrite⟩
          · exact ⟨_, _, .unmarked hnew hsig hread hvalue hwrite⟩
  · exact ⟨_, _, .known hnew⟩

theorem outcome_flowState_iff {r : Except CacheError FlowState} {s' : EvalState σ} :
    outcome (flowState cache mode p) s = (r, s') ↔ Directed cache mode p s r s' := by
  constructor
  · intro h
    obtain ⟨r₁, s₁, h₁⟩ := exists_directed cache mode p s
    rw [outcome_flowState_of_directed h₁] at h
    obtain ⟨rfl, rfl⟩ := Prod.mk.inj h
    exact h₁
  · exact outcome_flowState_of_directed

end Eval

end FlowRules
