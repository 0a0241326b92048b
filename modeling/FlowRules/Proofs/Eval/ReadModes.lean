import FlowRules.Proofs.Eval.Calls
import FlowRules.Tracking.Doubles
import FlowRules.Tracking.ExpiringCache
import Mathlib.Data.List.Forall2

/-!
# Reads that block and reads that do not

A cache is `Cache.Uniform` if its renewing reads answer alike and leave the same behind
whether they block or not. On such a cache the two searches for a direction are in step, and
the two evaluations of a condition, so a call does not show the mode it is made in
(`ContextCall.perform_reading`).

So in a run of contexts that share the cache, where others use it as well and time passes,
any of the calls may be made in the other mode : `SharedState.run_eq_of_alike` says that all
answers, and all contexts, cache and log at the end, stay what they are.
-/

namespace FlowRules

variable {σ : Type}

/-! ## Uniform caches -/

/-- Do renewing reads answer alike, and leave the same behind, whether they block or not? -/
def Cache.Uniform (cache : Cache σ) : Prop :=
  ∀ key s, (cache.renewAsync key).complete s = cache.renew key s

theorem ExpiringCache.uniform_cache : ExpiringCache.cache.Uniform := fun _ _ => rfl

theorem FixedCache.uniform_cache : FixedCache.cache.Uniform := fun _ _ => rfl

theorem uniform_failingCache : failingCache.Uniform := fun _ _ => rfl

namespace Cache.Uniform

variable {cache : Cache σ}

theorem awaiting_eq (h : cache.Uniform) : cache.awaiting = cache := by
  have hrenew : (fun key => (cache.renewAsync key).complete) = cache.renew :=
    funext fun key => funext (h key)
  rw [awaiting, hrenew]

theorem inMode_eq (h : cache.Uniform) (mode : ReadMode) : cache.inMode mode = cache := by
  cases mode with
  | blocking => rfl
  | async => exact h.awaiting_eq

/-- The search for a direction takes the same steps if it may be suspended. -/
theorem inStep_flowState (h : cache.Uniform) (p : Packet) :
    InStep (Eval.flowStateAsync cache p) (Eval.flowStateBlocking cache p) := by
  have hstep := Eval.inStep_flowState cache p
  rwa [h.awaiting_eq] at hstep

/-- An evaluation takes the same steps if it may be suspended. -/
theorem inStep_evaluate (h : cache.Uniform) (c : Condition) (site : Attachment) (p : Packet) :
    InStep (c.evaluateAsync cache site p) (c.evaluateBlocking cache site p) := by
  have hstep := c.inStep_evaluate cache site p
  rwa [h.awaiting_eq] at hstep

end Cache.Uniform

/-! ## Calls in another mode -/

namespace ContextCall

/-- The call with its reads in a mode, if it has any. -/
def reading (mode : ReadMode) : ContextCall → ContextCall
  | evaluate _ c site p => evaluate mode c site p
  | flowState _ p => flowState mode p
  | call => call

theorem perform_reading {cache : Cache σ} (h : cache.Uniform) (mode : ReadMode)
    (call : ContextCall) : (call.reading mode).perform cache = call.perform cache := by
  cases call with
  | evaluate mode' c site p =>
    rw [reading, perform, perform, Condition.evaluate_eq_blocking,
      Condition.evaluate_eq_blocking, h.inMode_eq, h.inMode_eq]
  | flowState mode' p =>
    rw [reading, perform, perform, Eval.flowState_eq_blocking, Eval.flowState_eq_blocking,
      h.inMode_eq, h.inMode_eq]
  | _ => rfl

end ContextCall

/-! ## Contexts that share a cache -/

/-- Contexts that share a cache, and a log for their reports. -/
structure SharedState (ι σ : Type) where
  contexts : ι → Context
  cache : σ
  log : List LogLine := []

/-- What happens where contexts share a cache. -/
inductive SharedStep (ι σ : Type) where
  | call (i : ι) (call : ContextCall)
  /-- Others use the cache, or time passes. -/
  | others (change : σ → σ)

/-- Do two steps differ in nothing but the mode in which a call reads? -/
inductive SharedStep.Alike {ι : Type} : SharedStep ι σ → SharedStep ι σ → Prop where
  | refl (step : SharedStep ι σ) : Alike step step
  | reading (i : ι) (call : ContextCall) (mode : ReadMode) :
      Alike (.call i call) (.call i (call.reading mode))

namespace SharedState

variable {ι : Type} [DecidableEq ι]

/-- The state after a step, and the answer if the step is a call. -/
def step (cache : Cache σ) (w : SharedState ι σ) :
    SharedStep ι σ → Option (ι × Except CacheError CallAnswer) × SharedState ι σ
  | .call i call =>
    let (answer, s) := Eval.outcome (call.perform cache) ⟨w.contexts i, w.cache, w.log⟩
    (some (i, answer), ⟨Function.update w.contexts i s.context, s.cache, s.log⟩)
  | .others change => (none, { w with cache := change w.cache })

/-- The answers of all calls in order, and the state at the end. -/
def run (cache : Cache σ) : List (SharedStep ι σ) → SharedState ι σ →
    List (ι × Except CacheError CallAnswer) × SharedState ι σ
  | [], w => ([], w)
  | e :: es, w =>
    let (answers, last) := run cache es (step cache w e).2
    ((step cache w e).1.toList ++ answers, last)

variable {cache : Cache σ}

theorem step_eq_of_alike (h : cache.Uniform) {e e' : SharedStep ι σ} (he : e.Alike e')
    (w : SharedState ι σ) : step cache w e = step cache w e' := by
  cases he with
  | refl => rfl
  | reading i call mode => rw [step, step, ContextCall.perform_reading h]

theorem run_eq_of_alike (h : cache.Uniform) {es es' : List (SharedStep ι σ)}
    (hes : List.Forall₂ SharedStep.Alike es es') (w : SharedState ι σ) :
    run cache es w = run cache es' w := by
  induction hes generalizing w with
  | nil => rfl
  | cons he _ ih => rw [run, run, step_eq_of_alike h he, ih]

end SharedState

/-- The computations that may be suspended end as those that block on a cache whose reads of
both modes do the same, as those of the expiring cache and of its stand-ins do : in one
evaluation, in one search for a direction, and in any run of contexts that share the cache. -/
theorem Cache.modes_interchangeable :
    (ExpiringCache.cache.Uniform ∧ FixedCache.cache.Uniform ∧ failingCache.Uniform) ∧
    ∀ {σ : Type} (cache : Cache σ), cache.Uniform →
      (∀ (c : Condition) (site : Attachment) (p : Packet) (s : EvalState σ),
        Eval.outcome (c.evaluateAsync cache site p).complete s =
          Eval.outcome (c.evaluateBlocking cache site p) s) ∧
      (∀ (p : Packet) (s : EvalState σ), Eval.outcome (Eval.flowStateAsync cache p).complete s =
        Eval.outcome (Eval.flowStateBlocking cache p) s) ∧
      ∀ {ι : Type} [DecidableEq ι] (es es' : List (SharedStep ι σ)) (w : SharedState ι σ),
        List.Forall₂ SharedStep.Alike es es' →
        SharedState.run cache es w = SharedState.run cache es' w := by
  refine ⟨⟨ExpiringCache.uniform_cache, FixedCache.uniform_cache, uniform_failingCache⟩, ?_⟩
  intro σ cache h
  refine ⟨fun c site p s => ?_, fun p s => ?_, fun es es' w hes => ?_⟩
  · exact congrArg (Eval.outcome · s) (h.inStep_evaluate c site p)
  · exact congrArg (Eval.outcome · s) (h.inStep_flowState p)
  · exact SharedState.run_eq_of_alike h hes w

/-- The expiring cache, with reads that wait before they renew unless they block. -/
def slowCache : Cache (Clocked ExpiringCache) :=
  { ExpiringCache.cache with
    renewAsync := fun key => .step id fun _ => ExpiringCache.cache.renewAsync key }

/-- A packet, and a second later the reply to it on a context of its own. -/
def sampleExchange (mode : ReadMode) : List (SharedStep Bool (Clocked ExpiringCache)) :=
  [.call false (.flowState mode sampleRequest), .others fun s => s.advance nanosPerSecond,
    .call true (.evaluate mode { returnFlow := true } .element sampleReply)]

/-- Two contexts on one device, with an expiring cache that is empty. -/
def samplePair : SharedState Bool (Clocked ExpiringCache) :=
  ⟨fun _ => { device := ⟨0⟩ }, ⟨⟨0⟩, .new {}⟩, []⟩

/-- The reply is found to return in either mode. -/
theorem sampleExchange_interchangeable :
    (SharedState.run slowCache (sampleExchange .blocking) samplePair).1 =
      [(false, .ok (.direction .forward)), (true, .ok (.matched true))] ∧
    SharedState.run slowCache (sampleExchange .blocking) samplePair =
      SharedState.run slowCache (sampleExchange .async) samplePair := by
  have huniform : slowCache.Uniform := fun _ _ => rfl
  refine ⟨rfl, ?_⟩
  obtain ⟨-, hall⟩ := Cache.modes_interchangeable
  obtain ⟨-, -, hrun⟩ := hall slowCache huniform
  refine hrun _ _ samplePair (.cons ?_ (.cons (.refl _) (.cons ?_ .nil)))
  · exact .reading false (.flowState .blocking sampleRequest) .async
  · exact .reading true (.evaluate .blocking { returnFlow := true } .element sampleReply) .async

end FlowRules
