import FlowRules.Proofs.Tracking.Classification

/-!
# Classifications one after the other

Here a classification is one step : the read of the own key and the write of the
opposite key with nothing in between (`Operation`, `SharedCache.run`). Then no flow and
its opposite are live together, however the cache is kept
(`SharedCache.oneWay_run`) : the marker of a flow is only written by a packet of the
opposite flow, which would itself have returned if its own marker had been live.
-/

namespace FlowRules

/-- What happens to the cache in one step. -/
inductive Operation where
  | classify (job : Job)
  | upkeep (u : Upkeep)

namespace Operation

/-- The cache afterwards. -/
def after (o : Operation) (s : SharedCache) : SharedCache :=
  match o with
  | classify j => (j.classify s).2
  | upkeep u => u.apply s

end Operation

/-! ## One classification -/

namespace Job

variable {s : SharedCache} {f : Flow}

theorem classify_of_noFlow {j : Job} (h : j.flow? = none) : j.classify s = (.ok .forward, s) := by
  rw [classify_eq, read_of_noFlow h]

theorem classify_of_live {j : Job} (h : j.flow? = some f) (hm : s.Marked) (hl : s.Live f) :
    j.classify s = (.ok .returning, s.touched f) := by
  rw [classify_eq, read_of_live h hm hl]

theorem classify_of_not_live {j : Job} (h : j.flow? = some f) (hl : ¬s.Live f) :
    j.classify s = (.ok .forward, s.marking f.opposite) := by
  rw [classify_eq, read_of_not_live h hl]
  exact congrArg (Prod.mk _) (write_of_flow h s)

/-- Where only markers are stored, a classification is one of three things. -/
theorem classify_cases (j : Job) (hm : s.Marked) :
    (j.flow? = none ∧ j.classify s = (.ok .forward, s)) ∨
      (∃ f, j.flow? = some f ∧ s.Live f ∧ j.classify s = (.ok .returning, s.touched f)) ∨
      ∃ f, j.flow? = some f ∧ ¬s.Live f ∧ j.classify s = (.ok .forward, s.marking f.opposite) := by
  cases hflow : j.flow? with
  | none => exact Or.inl ⟨rfl, classify_of_noFlow hflow⟩
  | some f =>
    by_cases hl : s.Live f
    · exact Or.inr (Or.inl ⟨f, rfl, hl, classify_of_live hflow hm hl⟩)
    · exact Or.inr (Or.inr ⟨f, rfl, hl, classify_of_not_live hflow hl⟩)

theorem classify_returning_iff {j : Job} (hm : s.Marked) (h : j.flow? = some f) :
    (j.classify s).1 = .ok .returning ↔ s.Live f := by
  by_cases hl : s.Live f
  · simp [classify_of_live h hm hl, hl]
  · simp [classify_of_not_live h hl, hl]

end Job

/-! ## What is live -/

namespace SharedCache

variable {s : SharedCache} {f g : Flow}

theorem live_touched_iff (hf : f.Tracked) (hg : g.Tracked) :
    (s.touched g).Live f ↔ s.Live f := by
  have hnow : (s.touched g).now = s.now := rfl
  rw [live_iff, live_iff, stored?_touched hf hg, ttl_touched, hnow]
  by_cases hfg : f = g
  · rw [if_pos hfg]
    constructor
    · rintro ⟨e, he, hfresh⟩
      obtain ⟨e', hstored, rfl⟩ := Option.map_eq_some_iff.mp he
      cases hexp : s.state.ttl.isExpired e'.lastHit s.now with
      | false => exact ⟨e', hstored, hexp⟩
      | true => simp [CacheEntry.renewed, hexp] at hfresh
    · rintro ⟨e, hstored, hfresh⟩
      refine ⟨_, by rw [hstored, Option.map_some], ?_⟩
      rw [CacheEntry.renewed, hfresh, if_neg Bool.false_ne_true]
      exact Ttl.isFresh_self hfresh
  · rw [if_neg hfg]

theorem live_marking_iff (hf : f.Tracked) (hg : g.Tracked) : (s.marking g).Live f ↔
    if f = g then s.state.ttl.isExpired s.now s.now = false else s.Live f := by
  have hnow : (s.marking g).now = s.now := rfl
  have httl : (s.marking g).state.ttl = s.state.ttl := rfl
  rw [live_iff, stored?_marking hf hg, httl, hnow]
  by_cases hfg : f = g
  · simp [hfg, mark]
  · rw [if_neg hfg, if_neg hfg, live_iff]

/-- What is live stays live through a classification. -/
theorem live_classify (hm : s.Marked) (hf : f.Tracked) (hl : s.Live f) (j : Job) :
    (j.classify s).2.Live f := by
  rcases j.classify_cases hm with ⟨-, h⟩ | ⟨g, hflow, -, h⟩ | ⟨g, hflow, -, h⟩
  · rw [h]
    exact hl
  · rw [h]
    exact (live_touched_iff hf (Job.tracked_of_flow? hflow)).mpr hl
  · rw [h]
    refine (live_marking_iff hf (Job.tracked_of_flow? hflow).opposite).mpr ?_
    split
    · obtain ⟨e, -, hfresh⟩ := live_iff.mp hl
      exact Ttl.isFresh_self hfresh
    · exact hl

/-! ## One way at a time -/

/-- No flow and its opposite are live, unless they are the same. -/
def OneWay (s : SharedCache) : Prop :=
  ∀ f : Flow, f.Tracked → f ≠ f.opposite → ¬(s.Live f ∧ s.Live f.opposite)

theorem marked_after (hm : s.Marked) (o : Operation) : (o.after s).Marked := by
  cases o with
  | classify j =>
    rcases j.classify_cases hm with ⟨-, h⟩ | ⟨g, -, -, h⟩ | ⟨g, -, -, h⟩ <;>
      rw [Operation.after, h]
    · exact hm
    · exact marked_touched hm g
    · exact marked_marking hm g.opposite
  | upkeep u => exact Upkeep.marked_apply hm

/-- A packet writes the marker of the opposite flow only if its own is not live. -/
theorem oneWay_marking (ho : s.OneWay) (hg : g.Tracked) (hl : ¬s.Live g) :
    (s.marking g.opposite).OneWay := by
  rintro f hf hne ⟨hlive, hlive'⟩
  rw [live_marking_iff hf hg.opposite] at hlive
  rw [live_marking_iff hf.opposite hg.opposite] at hlive'
  by_cases h : f = g.opposite
  · subst h
    rw [if_neg hne.symm] at hlive'
    exact hl hlive'
  · rw [if_neg h] at hlive
    by_cases h' : f.opposite = g.opposite
    · obtain rfl : f = g := Flow.opposite_eq_iff.mp h'
      exact hl hlive
    · rw [if_neg h'] at hlive'
      exact ho f hf hne ⟨hlive, hlive'⟩

theorem oneWay_after (hm : s.Marked) (ho : s.OneWay) (o : Operation) : (o.after s).OneWay := by
  cases o with
  | classify j =>
    rcases j.classify_cases hm with ⟨-, h⟩ | ⟨g, hflow, -, h⟩ | ⟨g, hflow, hl, h⟩ <;>
      rw [Operation.after, h]
    · exact ho
    · have hg := Job.tracked_of_flow? hflow
      intro f hf hne
      rw [live_touched_iff hf hg, live_touched_iff hf.opposite hg]
      exact ho f hf hne
    · exact oneWay_marking ho (Job.tracked_of_flow? hflow) hl
  | upkeep u =>
    rintro f hf hne ⟨hlive, hlive'⟩
    exact ho f hf hne ⟨Upkeep.live_of_apply hlive, Upkeep.live_of_apply hlive'⟩

/-- The cache after some operations. -/
def run (ops : List Operation) (s : SharedCache) : SharedCache :=
  ops.foldl (fun s o => o.after s) s

theorem marked_run (hm : s.Marked) (ops : List Operation) : (run ops s).Marked := by
  induction ops generalizing s with
  | nil => exact hm
  | cons o ops ih => exact ih (marked_after hm o)

theorem oneWay_run (hm : s.Marked) (ho : s.OneWay) (ops : List Operation) :
    (run ops s).OneWay := by
  induction ops generalizing s with
  | nil => exact ho
  | cons o ops ih => exact ih (marked_after hm o) (oneWay_after hm ho o)

theorem live_run_classify (hm : s.Marked) (hf : f.Tracked) (hl : s.Live f) (jobs : List Job) :
    (run (jobs.map .classify) s).Live f := by
  induction jobs generalizing s with
  | nil => exact hl
  | cons j jobs ih => exact ih (marked_after hm (.classify j)) (live_classify hm hf hl j)

/-! ## From an empty cache -/

variable {config : CacheConfig} {now : Moment}

theorem oneWay_start (config : CacheConfig) (now : Moment) : (start config now).OneWay :=
  fun f _ _ hlive => not_live_start config now f hlive.1

/-- A flow that differs from its opposite is not live together with it. -/
theorem not_both_live (ops : List Operation) (hf : f.Tracked) (hsig : f.sig ≠ f.sig.mirror) :
    ¬((run ops (start config now)).Live f ∧ (run ops (start config now)).Live f.opposite) := by
  have hne : f ≠ f.opposite := fun h => hsig (congrArg Flow.sig h)
  exact oneWay_run (marked_start config now) (oneWay_start config now) ops f hf hne

/-- After a packet of the flow returned, none of the opposite flow returns as long as
there are only classifications. -/
theorem not_both_returning (ops : List Operation) (hf : f.Tracked)
    (hsig : f.sig ≠ f.sig.mirror) (mid : List Job) {j j' : Job} (hj : j.flow? = some f)
    (hj' : j'.flow? = some f.opposite)
    (hreturns : (j.classify (run ops (start config now))).1 = .ok .returning) :
    (j'.classify (run (mid.map .classify) (run ops (start config now)))).1 ≠ .ok .returning := by
  have hne : f ≠ f.opposite := fun h => hsig (congrArg Flow.sig h)
  have hm := marked_run (marked_start config now) ops
  have ho := oneWay_run (marked_start config now) (oneWay_start config now) ops
  have hm' := marked_run hm (mid.map .classify)
  have ho' := oneWay_run hm ho (mid.map .classify)
  have hlive := (Job.classify_returning_iff hm hj).mp hreturns
  intro hreturns'
  have hlive' := (Job.classify_returning_iff hm' hj').mp hreturns'
  exact ho' f hf hne ⟨live_run_classify hm hf hlive mid, hlive'⟩

end SharedCache

end FlowRules
