import FlowRules.Proofs.Eval.History
import FlowRules.Tracking.Doubles
import FlowRules.Tracking.ExpiringCache

/-!
# Rules in any order

Rules are evaluated one after the other for one packet on one context. The first of them
that comes to look for the direction settles it, and by doing so it may change the cache;
the others go by what is settled. On a cache that does not fail (`Cache.Reliable`) the
look-up is the same whichever rule it is made for, since none before it has asked the
cache for anything. So what a rule answers (`Condition.outcome_evaluate_of_found`) does not
depend on its place, and where the rules leave context and cache depends only on whether
one of them asks for the direction at all (`ContextCall.run_evaluations`). Neither does the
order matter then (`ContextCall.evaluations_permutable`).
-/

namespace FlowRules

variable {σ : Type}

/-! ## Caches that do not fail -/

/-- Does every renewing read and every write succeed? -/
structure Cache.Reliable (cache : Cache σ) : Prop where
  reads : ∀ mode key s, ∃ value, (cache.getAndTouch mode key s).1 = .ok value
  writes : ∀ key value s, (cache.set key value s).1 = .ok ()

theorem ExpiringCache.reliable_cache : ExpiringCache.cache.Reliable :=
  ⟨fun mode key s => ⟨_, congrArg Prod.fst (getAndTouch_cache mode key s)⟩, fun _ _ _ => rfl⟩

theorem FixedCache.reliable_cache : FixedCache.cache.Reliable :=
  ⟨fun mode _ s => ⟨s.answer, by cases mode <;> rfl⟩, fun _ _ _ => rfl⟩

section Direction

variable {cache : Cache σ} {mode : ReadMode} {p : Packet} {s s' : EvalState σ}
  {state : FlowState}

/-- A cache that does not fail tells the direction. -/
theorem Cache.Reliable.exists_found (h : cache.Reliable) (mode : ReadMode) (p : Packet)
    (s : EvalState σ) : ∃ state s', Directed cache mode p s (.ok state) s' := by
  obtain ⟨r, s', hdir⟩ := Eval.exists_directed cache mode p s
  cases r with
  | ok state => exact ⟨state, s', hdir⟩
  | error e =>
    cases hdir with
    | readFails _ _ hread =>
      obtain ⟨value, hvalue⟩ := h.reads mode _ s.cache
      rw [hread] at hvalue
      cases hvalue
    | @writeFails sig _ store _ _ _ _ _ _ hwrite =>
      have hok := h.writes (reverseKey s.context.device sig) returnMarker store
      rw [hwrite] at hok
      cases hok

/-- The direction that is found is settled, on a context that is otherwise the same. -/
theorem Directed.settles (h : Directed cache mode p s (.ok state) s') :
    s'.context = { s.context with flowState := state } ∧ state ≠ .untracked := by
  cases h with
  | known hknown => exact ⟨rfl, hknown⟩
  | _ => exact ⟨rfl, by decide⟩

/-- A second look-up finds what is settled, and asks nothing. -/
theorem Directed.again (h : Directed cache mode p s (.ok state) s') :
    Directed cache mode p s' (.ok state) s' := by
  obtain ⟨hcontext, hknown⟩ := h.settles
  have hstate : s'.context.flowState = state := by rw [hcontext]
  have hagain : Directed cache mode p s' (.ok s'.context.flowState) s' :=
    .known (by rwa [hstate])
  rwa [hstate] at hagain

end Direction

/-! ## One rule -/

namespace Condition

/-- Does an evaluation come to look for the direction? -/
def asks (c : Condition) (site : Attachment) (ctx : Context) (p : Packet) : Bool :=
  c.stateless site ctx p && c.needsFlowState

/-- What an evaluation answers where that direction is found. -/
def answerFor (c : Condition) (site : Attachment) (ctx : Context) (p : Packet)
    (state : FlowState) : Bool :=
  if c.stateless site ctx p && c.flowHolds state then !c.negated else c.negated

variable {cache : Cache σ} {mode : ReadMode} {c : Condition} {site : Attachment} {p : Packet}
  {s s' : EvalState σ} {state : FlowState}

theorem flowHolds_of_not_needs (h : c.needsFlowState = false) (state : FlowState) :
    c.flowHolds state = true := by
  simp only [needsFlowState, Bool.or_eq_false_iff] at h
  simp [flowHolds, h.1, h.2]

/-- An evaluation answers by the direction that would be found, and leaves the state after
the look-up if it makes one. -/
theorem outcome_evaluate_of_found (hdir : Directed cache mode p s (.ok state) s') :
    Eval.outcome (c.evaluate cache mode site p) s =
      (.ok (c.answerFor site s.context p state),
        if c.asks site s.context p then s' else s) := by
  cases hst : c.stateless site s.context p with
  | false =>
    rw [outcome_evaluate_of_unmet hst]
    simp [asks, answerFor, hst]
  | true =>
    cases hwants : c.needsFlowState with
    | false =>
      rw [outcome_evaluate_of_met hst hwants]
      simp [asks, answerFor, hst, hwants, flowHolds_of_not_needs hwants]
    | true =>
      rw [outcome_evaluate_of_directed hst hwants hdir]
      simp [asks, answerFor, hst, hwants, Except.map]

/-- The direction on the context has no part in the clauses. -/
theorem answerFor_of_settled (hdir : Directed cache mode p s (.ok state) s')
    (c : Condition) (site : Attachment) :
    c.answerFor site s'.context p state = c.answerFor site s.context p state := by
  rw [hdir.settles.1]
  rfl

end Condition

/-! ## Rules one after the other -/

namespace ContextCall

/-- The evaluations of rules for one packet. A rule is a condition with the place where it
is attached. -/
def evaluations (mode : ReadMode) (p : Packet) (rules : List (Condition × Attachment)) :
    List ContextCall :=
  rules.map fun rule => .evaluate mode rule.1 rule.2 p

variable {cache : Cache σ} {mode : ReadMode} {p : Packet} {s s' : EvalState σ}
  {state : FlowState}

theorem outcome_perform_evaluate (hdir : Directed cache mode p s (.ok state) s')
    (rule : Condition × Attachment) :
    Eval.outcome ((evaluate mode rule.1 rule.2 p).perform cache) s =
      (.ok (.matched (rule.1.answerFor rule.2 s.context p state)),
        if rule.1.asks rule.2 s.context p then s' else s) := by
  rw [perform, Eval.outcome_map, Condition.outcome_evaluate_of_found hdir]
  rfl

/-- Every rule answers by the direction that one look-up from the start finds. -/
theorem answers_evaluations (hdir : Directed cache mode p s (.ok state) s')
    (rules : List (Condition × Attachment)) :
    (history cache (evaluations mode p rules) s).map CallRecord.answer =
      rules.map fun rule => .ok (.matched (rule.1.answerFor rule.2 s.context p state)) := by
  induction rules generalizing s with
  | nil => rfl
  | cons rule rules ih =>
    have hfirst := outcome_perform_evaluate hdir rule
    have hrest : (history cache (evaluations mode p rules)
        (Eval.outcome ((evaluate mode rule.1 rule.2 p).perform cache) s).2).map
          CallRecord.answer =
        rules.map fun rule => .ok (.matched (rule.1.answerFor rule.2 s.context p state)) := by
      rw [hfirst]
      split
      · simp only [ih hdir.again, Condition.answerFor_of_settled hdir]
      · exact ih hdir
    rw [evaluations, List.map_cons, history, List.map_cons, List.map_cons, ← evaluations, hrest,
      record, hfirst]

/-- The rules leave the state after the look-up if one of them makes it. -/
theorem run_evaluations (hdir : Directed cache mode p s (.ok state) s')
    (rules : List (Condition × Attachment)) :
    run cache (evaluations mode p rules) s =
      if rules.any fun rule => rule.1.asks rule.2 s.context p then s' else s := by
  induction rules generalizing s with
  | nil => rfl
  | cons rule rules ih =>
    have hrun : run cache (evaluations mode p (rule :: rules)) s =
        run cache (evaluations mode p rules)
          (Eval.outcome ((evaluate mode rule.1 rule.2 p).perform cache) s).2 := rfl
    rw [hrun, outcome_perform_evaluate hdir, List.any_cons]
    cases rule.1.asks rule.2 s.context p with
    | true => simp [ih hdir.again]
    | false =>
      rw [Bool.false_or]
      exact ih hdir

theorem run_evaluations_of_perm (hdir : Directed cache mode p s (.ok state) s')
    {rules rules' : List (Condition × Attachment)} (h : rules.Perm rules') :
    run cache (evaluations mode p rules) s = run cache (evaluations mode p rules') s := by
  rw [run_evaluations hdir, run_evaluations hdir, h.any_eq]

/-- On a cache that does not fail, as the expiring one at one moment does not, rules can be
evaluated for a packet in any order : what a rule answers is the same in every list and at
every place, a permuted list leaves context, cache and log as they would be, and the calls
of the cache are the same. -/
theorem evaluations_permutable :
    (ExpiringCache.cache.Reliable ∧ FixedCache.cache.Reliable) ∧
    ∀ {σ : Type} (cache : Cache σ), cache.Reliable →
      ∀ (mode : ReadMode) (p : Packet) (s : EvalState σ),
        (∃ found : Condition × Attachment → Bool, ∀ rules,
          (history cache (evaluations mode p rules) s).map CallRecord.answer =
            rules.map fun rule => .ok (.matched (found rule))) ∧
        ∀ rules rules', rules.Perm rules' →
          run cache (evaluations mode p rules) s = run cache (evaluations mode p rules') s ∧
          (history cache (evaluations mode p rules) s).flatMap CallRecord.traffic =
            (history cache (evaluations mode p rules') s).flatMap CallRecord.traffic := by
  refine ⟨⟨ExpiringCache.reliable_cache, FixedCache.reliable_cache⟩, ?_⟩
  intro σ cache h mode p s
  obtain ⟨state, s', hdir⟩ := h.exists_found mode p s
  obtain ⟨traffic, -, hobserved⟩ := hdir.observed
  refine ⟨⟨fun rule => rule.1.answerFor rule.2 s.context p state, answers_evaluations hdir⟩, ?_⟩
  intro rules rules' hperm
  refine ⟨run_evaluations_of_perm hdir hperm, ?_⟩
  -- Under observation the calls are part of the state that is left.
  have hseen := run_evaluations_of_perm (hobserved []) hperm
  rw [run_observed, run_observed] at hseen
  exact congrArg (fun t => t.cache.traffic) hseen

/-! ## A flow that is its own opposite -/

/-- A packet from an endpoint to itself. -/
def sampleLoop : Packet :=
  { sampleRequest with dest := sampleRequest.source, dstPort := sampleRequest.srcPort }

/-- A rule for either direction. -/
def sampleBothWays : List (Condition × Attachment) :=
  [({ forwardFlow := true }, .element), ({ returnFlow := true }, .portFilter)]

/-- The rule that comes first finds the packet forward and puts the marker under its own
key, and the other does not mistake it for its reply, in either order. -/
theorem sampleBothWays_permutable :
    (history ExpiringCache.cache (evaluations .blocking sampleLoop sampleBothWays)
      ⟨{ device := ⟨0⟩ }, ⟨⟨0⟩, .new {}⟩, []⟩).map CallRecord.answer =
        [.ok (.matched true), .ok (.matched false)] ∧
    run ExpiringCache.cache (evaluations .blocking sampleLoop sampleBothWays)
        ⟨{ device := ⟨0⟩ }, ⟨⟨0⟩, .new {}⟩, []⟩ =
      run ExpiringCache.cache (evaluations .blocking sampleLoop sampleBothWays.reverse)
        ⟨{ device := ⟨0⟩ }, ⟨⟨0⟩, .new {}⟩, []⟩ := by
  obtain ⟨⟨hreliable, -⟩, hall⟩ := evaluations_permutable
  obtain ⟨-, hperm⟩ := hall ExpiringCache.cache hreliable .blocking sampleLoop
    ⟨{ device := ⟨0⟩ }, ⟨⟨0⟩, .new {}⟩, []⟩
  exact ⟨rfl, (hperm _ _ (List.reverse_perm sampleBothWays).symm).1⟩

end ContextCall

end FlowRules
