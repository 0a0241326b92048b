import FlowRules.Proofs.Tracking.Classification
import Mathlib.Logic.Function.Basic
import Mathlib.Data.List.Chain

/-!
# Workers that share a cache

A `Crew` is any number of workers, each with one packet to classify, and the cache they
share. A worker first reads the key of its own flow and later, if the marker was not
found, writes the opposite key; the steps of all workers and upkeep come in any order
(`Crew.Step`, `Crew.Run`). A run lists the classifications that were completed, oldest
first.

What a step does to the cache is said once, by the rules of `Effect`. From them every
invariant follows : only markers are stored, an entry stands for a packet of the
opposite flow that was found forward (`Crew.Run.exists_forward`), and an entry is the
mark of its last refresh as long as no interval between refreshes reaches the lifetime
(`Crew.Run.entry_kept`). The main statement is `Crew.classifications_sound_and_kept`.
-/

namespace FlowRules

variable {ι : Type}

/-! ## Steps and runs -/

/-- A classification that was completed. -/
structure Completion (ι : Type) where
  worker : ι
  moment : Moment
  state : FlowState

/-- What a phase adds to the completed classifications. -/
def Phase.completions (w : ι) (t : Moment) : Phase → List (Completion ι)
  | .done state => [⟨w, t, state⟩]
  | _ => []

theorem Phase.exists_mem_completions {p : Phase} {v w : ι} {t : Moment} {state : FlowState} :
    (∃ t', (⟨w, t', state⟩ : Completion ι) ∈ p.completions v t) ↔ w = v ∧ p = .done state := by
  cases p <;> simp [completions, eq_comm]

/-- Workers that share a cache. -/
structure Crew (ι : Type) where
  store : SharedCache
  phase : ι → Phase

namespace Crew

/-- The cache is empty, and no worker has begun. -/
def start (config : CacheConfig) (now : Moment) : Crew ι :=
  ⟨.start config now, fun _ => .waiting⟩

variable [DecidableEq ι]

/-- One worker does one half of its job, or there is upkeep of an allowed kind. -/
inductive Step (jobs : ι → Job) (allowed : Upkeep → SharedCache → Prop) :
    Crew ι → List (Completion ι) → Crew ι → Prop where
  | read {c : Crew ι} {w : ι} (hphase : c.phase w = .waiting) :
      Step jobs allowed c (((jobs w).read c.store).1.completions w c.store.now)
        ⟨((jobs w).read c.store).2, Function.update c.phase w ((jobs w).read c.store).1⟩
  | write {c : Crew ι} {w : ι} (hphase : c.phase w = .missed) :
      Step jobs allowed c [⟨w, c.store.now, .forward⟩]
        ⟨(jobs w).write c.store, Function.update c.phase w (.done .forward)⟩
  | upkeep {c : Crew ι} {u : Upkeep} (hallowed : allowed u c.store) :
      Step jobs allowed c [] ⟨u.apply c.store, c.phase⟩

/-- Steps one after the other, with the classifications completed on the way. -/
inductive Run (jobs : ι → Job) (allowed : Upkeep → SharedCache → Prop) (c : Crew ι) :
    List (Completion ι) → Crew ι → Prop where
  | nil : Run jobs allowed c [] c
  | snoc {h es : List (Completion ι)} {c' c'' : Crew ι} (hrun : Run jobs allowed c h c')
      (hstep : Step jobs allowed c' es c'') : Run jobs allowed c (h ++ es) c''

section

variable {jobs : ι → Job} {allowed : Upkeep → SharedCache → Prop} {c : Crew ι} {w : ι} {f : Flow}

/-- A worker that does not find the marker. -/
theorem Step.miss (hphase : c.phase w = .waiting) (hflow : (jobs w).flow? = some f)
    (hlive : ¬c.store.Live f) :
    Step jobs allowed c [] ⟨c.store, Function.update c.phase w .missed⟩ := by
  have hstep : Step jobs allowed c _ _ := .read hphase
  rw [Job.read_of_not_live hflow hlive] at hstep
  exact hstep

/-- A worker that finds the marker. -/
theorem Step.hit (hphase : c.phase w = .waiting)
    (hread : ((jobs w).read c.store).1 = .done .returning) :
    Step jobs allowed c [⟨w, c.store.now, .returning⟩]
      ⟨((jobs w).read c.store).2, Function.update c.phase w (.done .returning)⟩ := by
  have hstep : Step jobs allowed c _ _ := .read hphase
  rw [hread] at hstep
  exact hstep

/-- A worker that writes the marker. -/
theorem Step.mark (hphase : c.phase w = .missed) (hflow : (jobs w).flow? = some f) :
    Step jobs allowed c [⟨w, c.store.now, .forward⟩]
      ⟨c.store.marking f.opposite, Function.update c.phase w (.done .forward)⟩ := by
  have hstep : Step jobs allowed c _ _ := .write hphase
  rw [Job.write_of_flow hflow] at hstep
  exact hstep

end

end Crew

/-! ## What a step does to the cache -/

/-- The rules by which a step changes the cache, where only markers are stored. -/
inductive Effect (jobs : ι → Job) (allowed : Upkeep → SharedCache → Prop) (s : SharedCache) :
    List (Completion ι) → SharedCache → Prop where
  | untracked {w : ι} (hflow : (jobs w).flow? = none) :
      Effect jobs allowed s [⟨w, s.now, .forward⟩] s
  | hit {w : ι} {f : Flow} (hflow : (jobs w).flow? = some f) (hlive : s.Live f) :
      Effect jobs allowed s [⟨w, s.now, .returning⟩] (s.touched f)
  | miss : Effect jobs allowed s [] s
  | write {w : ι} {f : Flow} (hflow : (jobs w).flow? = some f) :
      Effect jobs allowed s [⟨w, s.now, .forward⟩] (s.marking f.opposite)
  | upkeep {u : Upkeep} (hallowed : allowed u s) : Effect jobs allowed s [] (u.apply s)

variable {jobs : ι → Job} {allowed : Upkeep → SharedCache → Prop}

theorem Crew.Step.effect [DecidableEq ι] {c c' : Crew ι} {es : List (Completion ι)}
    (hm : c.store.Marked) (hstep : Step jobs allowed c es c') :
    Effect jobs allowed c.store es c'.store := by
  cases hstep with
  | @read w hphase =>
    rcases (jobs w).read_cases hm with ⟨hflow, hread⟩ | ⟨f, hflow, hlive, hread⟩ |
      ⟨f, -, -, hread⟩ <;> rw [hread]
    · exact .untracked hflow
    · exact .hit hflow hlive
    · exact .miss
  | @write w hphase =>
    cases hflow : (jobs w).flow? with
    | none =>
      simp only [Job.write, hflow]
      exact .untracked hflow
    | some f =>
      rw [Job.write_of_flow hflow]
      exact .write hflow
  | upkeep hallowed => exact .upkeep hallowed

/-- A completion that writes or renews the entry of the flow. -/
def Completion.Refreshes (jobs : ι → Job) (f : Flow) (e : Completion ι) : Prop :=
  (e.state = .returning ∧ (jobs e.worker).flow? = some f) ∨
    (e.state = .forward ∧ (jobs e.worker).flow? = some f.opposite)

instance (jobs : ι → Job) (f : Flow) : DecidablePred (Completion.Refreshes jobs f) :=
  fun _ => inferInstanceAs (Decidable (_ ∨ _))

/-- The moments at which the entry of the flow was written or renewed. -/
def refreshTimes (jobs : ι → Job) (f : Flow) (h : List (Completion ι)) : List Moment :=
  (h.filter fun e => Completion.Refreshes jobs f e).map Completion.moment

theorem refreshTimes_append (jobs : ι → Job) (f : Flow) (h h' : List (Completion ι)) :
    refreshTimes jobs f (h ++ h') = refreshTimes jobs f h ++ refreshTimes jobs f h' := by
  simp [refreshTimes]

theorem refreshTimes_singleton {f : Flow} {e : Completion ι}
    (h : Completion.Refreshes jobs f e) : refreshTimes jobs f [e] = [e.moment] := by
  simp [refreshTimes, h]

theorem refreshTimes_of_not {f : Flow} {e : Completion ι}
    (h : ¬Completion.Refreshes jobs f e) : refreshTimes jobs f [e] = [] := by
  simp [refreshTimes, h]

theorem exists_refreshes {f : Flow} {es : List (Completion ι)} {t : Moment}
    (h : refreshTimes jobs f es = [t]) : ∃ e ∈ es, Completion.Refreshes jobs f e := by
  have hmem : t ∈ refreshTimes jobs f es := by simp [h]
  simp only [refreshTimes, List.mem_map, List.mem_filter, decide_eq_true_eq] at hmem
  obtain ⟨e, ⟨hmem, href⟩, -⟩ := hmem
  exact ⟨e, hmem, href⟩

namespace Effect

variable {s s' : SharedCache} {es : List (Completion ι)} {f : Flow}

theorem marked (he : Effect jobs allowed s es s') (hm : s.Marked) : s'.Marked := by
  cases he with
  | untracked => exact hm
  | @hit _ g => exact SharedCache.marked_touched hm g
  | miss => exact hm
  | @write _ g => exact SharedCache.marked_marking hm g.opposite
  | upkeep => exact Upkeep.marked_apply hm

theorem ttl_eq (he : Effect jobs allowed s es s') : s'.state.ttl = s.state.ttl := by
  cases he with
  | @hit _ g => exact ExpiringCache.ttl_lookup s.now g.key
  | upkeep => exact Upkeep.ttl_apply
  | _ => rfl

/-- The entry of a flow is marked afresh, or stays as it is, or there was upkeep. -/
theorem stored? (he : Effect jobs allowed s es s') (hm : s.Marked) (hf : f.Tracked) :
    (refreshTimes jobs f es = [s.now] ∧ s'.now = s.now ∧
        s'.stored? f = some (SharedCache.mark s.now)) ∨
      (refreshTimes jobs f es = [] ∧ s'.now = s.now ∧ s'.stored? f = s.stored? f) ∨
      (es = [] ∧ ∃ u, allowed u s ∧ s' = u.apply s) := by
  cases he with
  | untracked hflow =>
    refine Or.inr (Or.inl ⟨refreshTimes_of_not ?_, rfl, rfl⟩)
    simp [Completion.Refreshes, hflow]
  | @hit w g hflow hlive =>
    by_cases hfg : f = g
    · subst hfg
      refine Or.inl ⟨refreshTimes_singleton ?_, rfl, SharedCache.stored?_touched_self hf hm hlive⟩
      exact Or.inl ⟨rfl, hflow⟩
    · refine Or.inr (Or.inl ⟨refreshTimes_of_not ?_, rfl, ?_⟩)
      · simp [Completion.Refreshes, hflow, Ne.symm hfg]
      · exact SharedCache.stored?_touched_of_ne hf (Job.tracked_of_flow? hflow) hfg
  | miss => exact Or.inr (Or.inl ⟨rfl, rfl, rfl⟩)
  | @write w g hflow =>
    by_cases hfg : f = g.opposite
    · subst hfg
      refine Or.inl ⟨refreshTimes_singleton ?_, rfl, SharedCache.stored?_marking_self hf⟩
      exact Or.inr ⟨rfl, hflow⟩
    · refine Or.inr (Or.inl ⟨refreshTimes_of_not ?_, rfl, ?_⟩)
      · have hgf : g ≠ f.opposite := fun h => hfg (Flow.opposite_eq_iff.mp h.symm)
        simp [Completion.Refreshes, hflow, hgf]
      · exact SharedCache.stored?_marking_of_ne hf (Job.tracked_of_flow? hflow).opposite hfg
  | @upkeep u hallowed => exact Or.inr (Or.inr ⟨rfl, u, hallowed, rfl⟩)

/-- Who refreshes the entry of a flow leaves a mark of that moment. -/
theorem stored?_of_refreshes {e : Completion ι} (he : Effect jobs allowed s [e] s')
    (hm : s.Marked) (hf : f.Tracked) (href : Completion.Refreshes jobs f e) :
    e.moment = s.now ∧ s'.stored? f = some (SharedCache.mark e.moment) := by
  have htimes := refreshTimes_singleton href
  rcases he.stored? hm hf with ⟨hfresh, -, hmark⟩ | ⟨hnone, -, -⟩ | ⟨hnil, -⟩
  · rw [htimes, List.singleton_inj] at hfresh
    rw [hfresh]
    exact ⟨rfl, hmark⟩
  · simp [htimes] at hnone
  · simp at hnil

/-- Who is found to return has a live entry. -/
theorem live_of_returning (he : Effect jobs allowed s es s') {e : Completion ι} (hmem : e ∈ es)
    (hstate : e.state = .returning) (hflow : (jobs e.worker).flow? = some f) : s.Live f := by
  cases he with
  | @hit w g hg hlive =>
    obtain rfl := List.mem_singleton.mp hmem
    obtain rfl : g = f := by simpa [hg] using hflow
    exact hlive
  | untracked | write =>
    obtain rfl := List.mem_singleton.mp hmem
    simp at hstate
  | miss | upkeep => simp at hmem

/-- An entry was there before, or is the mark of a packet of the opposite flow. -/
theorem exists_source (he : Effect jobs allowed s es s') (hm : s.Marked) (hf : f.Tracked)
    (hsome : (s'.stored? f).isSome = true) :
    (s.stored? f).isSome = true ∨
      ∃ e ∈ es, e.state = .forward ∧ (jobs e.worker).flow? = some f.opposite := by
  rcases he.stored? hm hf with ⟨htimes, -, -⟩ | ⟨-, -, hsame⟩ | ⟨rfl, u, -, rfl⟩
  · obtain ⟨e, hmem, ⟨hstate, hflow⟩ | hforward⟩ := exists_refreshes htimes
    · obtain ⟨entry, hentry, -⟩ :=
        SharedCache.live_iff.mp (he.live_of_returning hmem hstate hflow)
      exact Or.inl (by simp [hentry])
    · exact Or.inr ⟨e, hmem, hforward⟩
  · rw [hsame] at hsome
    exact Or.inl hsome
  · obtain ⟨entry, hentry⟩ := Option.isSome_iff_exists.mp hsome
    exact Or.inl (by simp [SharedCache.stored?, Upkeep.get?_of_apply hentry])

end Effect

/-! ## What runs keep -/

/-- What is unbroken up to the moment after a step was so up to the moment before it. -/
theorem Effect.unbroken {s s' : SharedCache} {es : List (Completion ι)} {f : Flow}
    (he : Effect jobs allowed s es s') (hm : s.Marked) (hf : f.Tracked) {ttl : Ttl}
    {ts : List Moment} (hun : Unbroken ttl (ts ++ refreshTimes jobs f es ++ [s'.now])) :
    Unbroken ttl (ts ++ [s.now]) := by
  rcases he.stored? hm hf with ⟨htimes, -, -⟩ | ⟨htimes, hnow, -⟩ | ⟨rfl, u, -, rfl⟩
  · rw [htimes] at hun
    exact hun.of_append
  · rw [htimes, List.append_nil, hnow] at hun
    exact hun
  · have hnil : refreshTimes jobs f ([] : List (Completion ι)) = [] := rfl
    rw [hnil, List.append_nil] at hun
    exact hun.shorten Upkeep.now_le_apply

namespace Crew

variable [DecidableEq ι] {c c' c'' : Crew ι} {h : List (Completion ι)} {f : Flow}

namespace Run

theorem marked (hrun : Run jobs allowed c h c') (hm : c.store.Marked) : c'.store.Marked := by
  induction hrun with
  | nil => exact hm
  | snoc _ hstep ih => exact (hstep.effect ih).marked ih

theorem ttl_eq (hrun : Run jobs allowed c h c') (hm : c.store.Marked) :
    c'.store.state.ttl = c.store.state.ttl := by
  induction hrun with
  | nil => rfl
  | snoc hrun hstep ih => rw [(hstep.effect (hrun.marked hm)).ttl_eq, ih]

end Run

theorem Step.completions_cases {es : List (Completion ι)} (hstep : Step jobs allowed c es c') :
    es = [] ∨ ∃ e, es = [e] := by
  cases hstep with
  | @read w =>
    cases ((jobs w).read c.store).1 with
    | done state => exact Or.inr ⟨_, rfl⟩
    | _ => exact Or.inl rfl
  | write => exact Or.inr ⟨_, rfl⟩
  | upkeep => exact Or.inl rfl

/-- A completed classification was completed by a step of the run. -/
theorem Run.exists_step (hrun : Run jobs allowed c h c'') {pre post : List (Completion ι)}
    {e : Completion ι} (heq : h = pre ++ e :: post) : ∃ c₁ c₂, Run jobs allowed c pre c₁ ∧
      Step jobs allowed c₁ [e] c₂ ∧ Run jobs allowed c₂ post c'' := by
  induction hrun generalizing post with
  | nil => simp at heq
  | snoc hrun hstep ih =>
    rcases hstep.completions_cases with rfl | ⟨x, rfl⟩
    · obtain ⟨c₁, c₂, hpre, he, hpost⟩ := ih (by simpa using heq)
      exact ⟨c₁, c₂, hpre, he, by simpa using hpost.snoc hstep⟩
    · rcases List.eq_nil_or_concat post with rfl | ⟨post', y, rfl⟩
      · obtain ⟨rfl, hx⟩ := List.append_inj' heq rfl
        obtain rfl := (List.singleton_inj.mp hx)
        exact ⟨_, _, hrun, hstep, .nil⟩
      · rw [List.concat_eq_append, ← List.cons_append, ← List.append_assoc] at heq
        obtain ⟨hpre, hx⟩ := List.append_inj' heq rfl
        obtain rfl := (List.singleton_inj.mp hx)
        obtain ⟨c₁, c₂, hpre, he, hpost⟩ := ih hpre
        rw [List.concat_eq_append]
        exact ⟨c₁, c₂, hpre, he, hpost.snoc hstep⟩

/-- The completed classifications of a run from the start are those of the workers that
are done. -/
theorem Run.done_iff {config : CacheConfig} {now : Moment}
    (hrun : Run jobs allowed (start config now) h c) (w : ι) (state : FlowState) :
    c.phase w = .done state ↔ ∃ t, ⟨w, t, state⟩ ∈ h := by
  induction hrun with
  | nil => simp [start]
  | @snoc h es c c' _ hstep ih =>
    cases hstep with
    | @read v hphase =>
      simp only [List.mem_append, exists_or, Phase.exists_mem_completions, ← ih]
      by_cases hvw : w = v
      · subst hvw
        simp [hphase]
      · simp [hvw]
    | @write v hphase =>
      have hforward : (∃ t, (⟨w, t, state⟩ : Completion ι) ∈ [⟨v, c.store.now, .forward⟩]) ↔
          w = v ∧ Phase.done .forward = .done state :=
        Phase.exists_mem_completions (p := .done .forward)
      simp only [List.mem_append, exists_or, hforward, ← ih]
      by_cases hvw : w = v
      · subst hvw
        simp [hphase]
      · simp [hvw]
    | upkeep => simpa using ih

/-- An entry stands for a packet of the opposite flow that was found forward. -/
theorem Run.exists_forward {config : CacheConfig} {now : Moment}
    (hrun : Run jobs allowed (start config now) h c) (hf : f.Tracked)
    (hsome : (c.store.stored? f).isSome = true) :
    ∃ e ∈ h, e.state = .forward ∧ (jobs e.worker).flow? = some f.opposite := by
  induction hrun with
  | nil => simp [start, SharedCache.stored?_start] at hsome
  | snoc hrun hstep ih =>
    have hm := hrun.marked (SharedCache.marked_start config now)
    rcases (hstep.effect hm).exists_source hm hf hsome with hbefore | ⟨e, hmem, hforward⟩
    · obtain ⟨e, hmem, hforward⟩ := ih hbefore
      exact ⟨e, List.mem_append_left _ hmem, hforward⟩
    · exact ⟨e, List.mem_append_right _ hmem, hforward⟩

/-- As long as no interval between refreshes reaches the lifetime, the entry of a flow is
the mark of its last refresh. -/
theorem Run.entry_kept (hrun : Run jobs Upkeep.Calm c h c') (hm : c.store.Marked)
    (hle : c.store.state.ttl.millis ≤ maxWord64) (hf : f.Tracked) {t : Moment}
    (hentry : c.store.stored? f = some (SharedCache.mark t))
    (hun : Unbroken c.store.state.ttl (t :: refreshTimes jobs f h ++ [c'.store.now])) :
    ∀ u ∈ (t :: refreshTimes jobs f h).getLast?,
      c'.store.stored? f = some (SharedCache.mark u) := by
  induction hrun with
  | nil => simpa [refreshTimes] using hentry
  | @snoc h es c₁ c₂ hrun hstep ih =>
    have hm₁ := hrun.marked hm
    have heff := hstep.effect hm₁
    rw [refreshTimes_append, ← List.cons_append] at hun ⊢
    have hearlier := heff.unbroken hm₁ hf hun
    have hkept := ih hearlier
    rcases heff.stored? hm₁ hf with ⟨htimes, hnow, hmark⟩ | ⟨htimes, hnow, hsame⟩ |
      ⟨rfl, u, hcalm, hstore⟩
    · rw [htimes]
      intro u hu
      rw [List.getLast?_concat, Option.mem_some_iff] at hu
      rw [← hu]
      exact hmark
    · rw [htimes, List.append_nil, hsame]
      exact hkept
    · have hnil : refreshTimes jobs f ([] : List (Completion ι)) = [] := rfl
      rw [hnil, List.append_nil]
      intro v hv
      have hfresh : c₁.store.state.ttl.isExpired v c₁.store.now = false := by
        rw [← Bool.not_eq_true, hrun.ttl_eq hm, Ttl.isExpired_iff_reached hle]
        exact hearlier.not_reached hv
      rw [hstore]
      exact Upkeep.stored?_apply_of_calm hcalm (hkept v hv) hfresh

/-- As long as no interval between refreshes reaches the lifetime, a flow stays live. -/
theorem Run.live_kept (hrun : Run jobs Upkeep.Calm c h c') (hm : c.store.Marked)
    (hle : c.store.state.ttl.millis ≤ maxWord64) (hf : f.Tracked) {t : Moment}
    (hentry : c.store.stored? f = some (SharedCache.mark t))
    (hun : Unbroken c.store.state.ttl (t :: refreshTimes jobs f h ++ [c'.store.now])) :
    c'.store.Live f := by
  have hlast : (t :: refreshTimes jobs f h).getLast? =
      some ((t :: refreshTimes jobs f h).getLast (by simp)) := List.getLast?_eq_some_getLast _
  refine SharedCache.live_iff.mpr ⟨_, hrun.entry_kept hm hle hf hentry hun _ hlast, ?_⟩
  rw [← Bool.not_eq_true, hrun.ttl_eq hm, Ttl.isExpired_iff_reached hle]
  exact hun.not_reached hlast

/-- As long as that is so, no worker that has not begun is found forward. -/
theorem Run.waiting_or_returning (hrun : Run jobs Upkeep.Calm c h c') (hm : c.store.Marked)
    (hle : c.store.state.ttl.millis ≤ maxWord64) {t : Moment}
    (hentry : c.store.stored? f = some (SharedCache.mark t))
    (hun : Unbroken c.store.state.ttl (t :: refreshTimes jobs f h ++ [c'.store.now]))
    {w : ι} (hflow : (jobs w).flow? = some f) (hphase : c.phase w = .waiting) :
    c'.phase w = .waiting ∨ c'.phase w = .done .returning := by
  induction hrun with
  | nil => exact Or.inl hphase
  | @snoc h es c₁ c₂ hrun hstep ih =>
    have hm₁ := hrun.marked hm
    rw [refreshTimes_append, ← List.cons_append] at hun
    have hearlier := (hstep.effect hm₁).unbroken hm₁ (Job.tracked_of_flow? hflow) hun
    have hbefore := ih hearlier
    cases hstep with
    | @read v hwaiting =>
      by_cases hvw : w = v
      · subst hvw
        have hlive := hrun.live_kept hm hle (Job.tracked_of_flow? hflow) hentry hearlier
        have hread := Job.read_of_live hflow hm₁ hlive
        exact Or.inr ((Function.update_self ..).trans (congrArg Prod.fst hread))
      · simpa [hvw] using hbefore
    | @write v hmissed =>
      have hvw : w ≠ v := by
        rintro rfl
        simp [hmissed] at hbefore
      simpa [hvw] using hbefore
    | upkeep => exact hbefore

section

variable {config : CacheConfig} {now : Moment} {pre post : List (Completion ι)} {e : Completion ι}

/-- Who is found to return has a packet of the opposite flow before it. -/
theorem Run.forward_before_returning (hrun : Run jobs allowed (start config now) h c)
    (heq : h = pre ++ e :: post) (hstate : e.state = .returning)
    (hflow : (jobs e.worker).flow? = some f) :
    ∃ e' ∈ pre, e'.state = .forward ∧ (jobs e'.worker).flow? = some f.opposite := by
  obtain ⟨c₁, c₂, hpre, hstep, -⟩ := hrun.exists_step heq
  have hm₁ := hpre.marked (SharedCache.marked_start config now)
  have hlive := (hstep.effect hm₁).live_of_returning (List.mem_singleton_self e) hstate hflow
  obtain ⟨entry, hentry, -⟩ := SharedCache.live_iff.mp hlive
  exact hpre.exists_forward (Job.tracked_of_flow? hflow) (by simp [hentry])

/-- Who is found forward makes the opposite flow live. -/
theorem Run.live_after_forward (hrun : Run jobs Upkeep.Calm (start config now) h c)
    (heq : h = pre ++ e :: post) (hstate : e.state = .forward)
    (hflow : (jobs e.worker).flow? = some f)
    (hun : Unbroken (.ofSeconds config.expirationSecs)
      (e.moment :: refreshTimes jobs f.opposite post ++ [c.store.now])) :
    c.store.Live f.opposite := by
  have hf := (Job.tracked_of_flow? hflow).opposite
  obtain ⟨c₁, c₂, hpre, hstep, hpost⟩ := hrun.exists_step heq
  have hm₁ := hpre.marked (SharedCache.marked_start config now)
  have heff := hstep.effect hm₁
  have httl : c₂.store.state.ttl = .ofSeconds config.expirationSecs := by
    rw [heff.ttl_eq, hpre.ttl_eq (SharedCache.marked_start config now)]
    rfl
  have hle : c₂.store.state.ttl.millis ≤ maxWord64 := by
    rw [httl]
    exact Ttl.millis_ofSeconds_le _
  obtain ⟨-, hentry⟩ := heff.stored?_of_refreshes hm₁ hf (Or.inr ⟨hstate, hflow⟩)
  rw [← httl] at hun
  exact hpost.live_kept (heff.marked hm₁) hle hf hentry hun

end

/-- Who is found to return has a packet of the opposite flow before it that was found
forward. Who is found forward makes every packet of the opposite flow return, as long as
no interval between the refreshes of its entry reaches the lifetime. -/
theorem classifications_sound_and_kept (jobs : ι → Job) (config : CacheConfig) (now : Moment)
    {h : List (Completion ι)} {c : Crew ι}
    (hrun : Run jobs Upkeep.Calm (start config now) h c) :
    (∀ w state, c.phase w = .done state ↔ ∃ t, ⟨w, t, state⟩ ∈ h) ∧
    (∀ pre e post f, h = pre ++ e :: post → e.state = .returning →
      (jobs e.worker).flow? = some f →
      ∃ e' ∈ pre, e'.state = .forward ∧ (jobs e'.worker).flow? = some f.opposite) ∧
    ∀ pre e mid f w, h = pre ++ e :: mid → e.state = .forward →
      (jobs e.worker).flow? = some f → (jobs w).flow? = some f.opposite →
      Unbroken (.ofSeconds config.expirationSecs)
        (e.moment :: refreshTimes jobs f.opposite mid ++ [c.store.now]) →
      ((jobs w).read c.store).1 = .done .returning := by
  refine ⟨hrun.done_iff, ?_, ?_⟩
  · intro pre e post f heq hstate hflow
    exact hrun.forward_before_returning heq hstate hflow
  · intro pre e mid f w heq hstate hflow hflow' hun
    have hm := hrun.marked (SharedCache.marked_start config now)
    have hlive := hrun.live_after_forward heq hstate hflow hun
    rw [Job.read_of_live hflow' hm hlive]

/-- A flow through some device. -/
def sampleFlow : Flow := ⟨⟨7⟩, ⟨.tcp, ⟨10, 0, 0, 1⟩, ⟨10, 0, 0, 2⟩, 40000, 80⟩⟩

/-- A worker for each direction of the flow. -/
def sampleJobs (opposite : Bool) : Job :=
  if opposite then sampleFlow.opposite.job else sampleFlow.job

/-- One worker was found forward, and 59 seconds have passed. -/
def sampleCrew : Crew Bool :=
  ⟨Upkeep.apply (.wait 59000000000)
      ((SharedCache.start {} ⟨0⟩).marking sampleFlow.opposite),
    Function.update (fun _ => .waiting) false (.done .forward)⟩

theorem run_sampleCrew :
    Run sampleJobs Upkeep.Calm (start {} ⟨0⟩) [⟨false, ⟨0⟩, .forward⟩] sampleCrew := by
  have hflow : (sampleJobs false).flow? = some sampleFlow := Flow.flow?_job rfl
  have hempty : ¬(start {} ⟨0⟩ : Crew Bool).store.Live sampleFlow :=
    SharedCache.not_live_start {} ⟨0⟩ sampleFlow
  have hmiss : Run sampleJobs Upkeep.Calm _ _ _ := Run.nil.snoc (.miss rfl hflow hempty)
  have hmark := hmiss.snoc (.mark (Function.update_self ..) hflow)
  have hwait := hmark.snoc (.upkeep (u := .wait 59000000000) trivial)
  rw [Function.update_idem] at hwait
  exact hwait

/-- After the worker of the flow, that of the opposite flow returns. -/
theorem sampleCrew_sound_and_kept :
    ((sampleJobs true).read sampleCrew.store).1 = .done .returning ∧
      ∃ c, Run sampleJobs Upkeep.Calm (start {} ⟨0⟩)
          [⟨false, ⟨0⟩, .forward⟩, ⟨true, ⟨59000000000⟩, .returning⟩] c ∧
        ∃ e ∈ [(⟨false, ⟨0⟩, .forward⟩ : Completion Bool)], e.state = .forward ∧
          (sampleJobs e.worker).flow? = some sampleFlow := by
  have hflow : (sampleJobs false).flow? = some sampleFlow := Flow.flow?_job rfl
  have hflow' : (sampleJobs true).flow? = some sampleFlow.opposite := Flow.flow?_job rfl
  obtain ⟨-, -, hkept⟩ := classifications_sound_and_kept sampleJobs {} ⟨0⟩ run_sampleCrew
  have hread := hkept [] _ [] sampleFlow true rfl rfl hflow hflow' (by decide)
  have hrun := run_sampleCrew.snoc (.hit rfl hread)
  obtain ⟨-, hsound, -⟩ := classifications_sound_and_kept sampleJobs {} ⟨0⟩ hrun
  exact ⟨hread, _, hrun, hsound _ _ [] sampleFlow.opposite rfl rfl hflow'⟩

end Crew

end FlowRules
