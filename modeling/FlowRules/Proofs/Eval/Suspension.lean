import FlowRules.Eval.Matching

/-!
# Suspended computations at their end

A computation that may be suspended is `InStep` with one that blocks if the two are the
same once it is brought to its end. What is put together from computations in step is in
step (`InStep.bind`, `InStep.ite`), so two bodies are compared line by line.

For the two searches for a direction and the two evaluations of a condition this is done
on any cache : what waits for the answers of a cache is in step with what blocks on the
cache whose reads block until those answers are there (`Cache.awaiting`). So in either
mode a computation is one that blocks (`Eval.flowState_eq_blocking`,
`Condition.evaluate_eq_blocking`).
-/

namespace FlowRules

variable {σ : Type}

/-! ## Running computations one after the other -/

namespace Eval

theorem outcome_bind {α β : Type} (m : Eval σ α) (f : α → Eval σ β) (s : EvalState σ) :
    outcome (m >>= f) s = match outcome m s with
      | (.ok a, s') => outcome (f a) s'
      | (.error e, s') => (.error e, s') := by
  show (ExceptT.bindCont f (m s).1 (m s).2) = _
  rcases h : m s with ⟨r | a, s'⟩ <;> simp [outcome, ExceptT.run, StateT.run, h] <;> rfl

theorem outcome_pure {α : Type} (a : α) (s : EvalState σ) :
    outcome (pure a : Eval σ α) s = (.ok a, s) := rfl

theorem outcome_get (s : EvalState σ) : outcome (get : Eval σ (EvalState σ)) s = (.ok s, s) := rfl

theorem outcome_modify (f : EvalState σ → EvalState σ) (s : EvalState σ) :
    outcome (modify f : Eval σ PUnit) s = (.ok ⟨⟩, f s) := rfl

theorem outcome_map {α β : Type} (f : α → β) (m : Eval σ α) (s : EvalState σ) :
    outcome (f <$> m) s = ((outcome m s).1.map f, (outcome m s).2) := by
  rw [map_eq_pure_bind, outcome_bind]
  rcases outcome m s with ⟨e | a, s'⟩ <;> rfl

end Eval

/-! ## Computations in step -/

/-- Is the computation that may be suspended, brought to its end, the one that blocks? -/
def InStep {α : Type} (async : AsyncEval σ α) (blocking : Eval σ α) : Prop :=
  async.complete = blocking

namespace InStep

variable {α β : Type}

theorem pure (a : α) : InStep (Pure.pure a : AsyncEval σ α) (Pure.pure a) := rfl

theorem now (m : Eval σ α) : InStep (.now m) m :=
  funext fun s => Future.complete_now (Eval.outcome m) s

/-- To wait for an answer until it is there is a call of the cache, however often the
computation is suspended. -/
theorem await (key : String) (answer : Future σ (Except CacheError α)) :
    InStep (.await key answer) (Eval.call key answer.complete) := by
  funext s
  have hawait : AsyncEval.complete (.await key answer) s =
      Eval.answered key (answer.complete s.cache).1
        { s with cache := (answer.complete s.cache).2 } := by
    show Future.complete (answer.within EvalState.cachePart >>= fun result =>
      (AsyncEval.now (Eval.answered key result)).run) s = _
    rw [Future.complete_bind, Future.complete_within]
    exact congrFun (now (Eval.answered key (answer.complete s.cache).1)) _
  rw [hawait, Eval.call]
  rcases answer.complete s.cache with ⟨e | a, store⟩ <;> rfl

/-- What follows goes on from the state in which the first part ends. -/
theorem bind {m : AsyncEval σ α} {b : Eval σ α} {f : α → AsyncEval σ β} {g : α → Eval σ β}
    (hfirst : InStep m b) (hrest : ∀ a, InStep (f a) (g a)) : InStep (m >>= f) (b >>= g) := by
  obtain rfl : m.complete = b := hfirst
  obtain rfl : (fun a => (f a).complete) = g := funext hrest
  funext s
  have hbind : (m >>= f).complete s =
      (ExceptT.bindCont f (m.run.complete s).1).complete (m.run.complete s).2 :=
    Future.complete_bind m.run (ExceptT.bindCont f) s
  have hafter : (m.complete >>= fun a => (f a).complete) s =
      ExceptT.bindCont (fun a => (f a).complete) (m.run.complete s).1 (m.run.complete s).2 := rfl
  rw [hbind, hafter]
  rcases m.run.complete s with ⟨e | a, s'⟩ <;> rfl

theorem ite {c : Prop} [Decidable c] {m m' : AsyncEval σ α} {b b' : Eval σ α}
    (hthen : InStep m b) (helse : InStep m' b') :
    InStep (if c then m else m') (if c then b else b') := by
  split
  · exact hthen
  · exact helse

end InStep

/-! ## A computation in either mode -/

/-- The cache with renewing reads that block until the answer of those that do not is
there. -/
def Cache.awaiting (cache : Cache σ) : Cache σ :=
  { cache with renew := fun key => (cache.renewAsync key).complete }

/-- The cache as a computation of the mode reads it. -/
def Cache.inMode (cache : Cache σ) : ReadMode → Cache σ
  | .blocking => cache
  | .async => cache.awaiting

namespace Eval

/-- The two searches for a direction differ in nothing but how they read. -/
theorem inStep_flowState (cache : Cache σ) (p : Packet) :
    InStep (flowStateAsync cache p) (flowStateBlocking cache.awaiting p) := by
  refine .bind (.now get) fun s => .ite (.pure s.context.flowState) ?_
  cases p.flowSig? with
  | none => exact .now (settle .forward)
  | some sig => exact .bind (.await _ _) fun value => .now (classify cache _ sig value)

theorem flowState_eq_blocking (cache : Cache σ) (mode : ReadMode) (p : Packet) :
    flowState cache mode p = flowStateBlocking (cache.inMode mode) p := by
  cases mode with
  | blocking => rfl
  | async => exact inStep_flowState cache p

end Eval

namespace Condition

/-- The two evaluations differ in nothing but how they search for a direction. -/
theorem inStep_evaluate (cache : Cache σ) (c : Condition) (site : Attachment) (p : Packet) :
    InStep (c.evaluateAsync cache site p) (c.evaluateBlocking cache.awaiting site p) := by
  refine .bind (.now get) fun s => .ite (.pure c.negated) (.ite ?_ (.pure (!c.negated)))
  exact .bind (Eval.inStep_flowState cache p) fun state =>
    .ite (.pure c.negated) (.pure (!c.negated))

theorem evaluate_eq_blocking (cache : Cache σ) (mode : ReadMode) (c : Condition)
    (site : Attachment) (p : Packet) :
    c.evaluate cache mode site p = c.evaluateBlocking (cache.inMode mode) site p := by
  cases mode with
  | blocking => rfl
  | async => exact inStep_evaluate cache c site p

end Condition

end FlowRules
