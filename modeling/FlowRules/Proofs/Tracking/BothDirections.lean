import FlowRules.Proofs.Tracking.Serial
import FlowRules.Proofs.Tracking.Workers

/-!
# Both directions at once

If a classification is one step, a flow and its opposite are never live together. If
the read and the write are two steps, two workers can both read before either has
written, and then both directions are live (`Crew.run_bothForward`). From there on no
packet of either direction is found forward, as long as each of the two entries is
renewed within its lifetime. `Crew.oneWay_unless_interleaved` says all of this.
-/

namespace FlowRules

namespace Crew

variable {ι : Type} [DecidableEq ι] {jobs : ι → Job} {config : CacheConfig} {now : Moment}
  {v w : ι} {f : Flow}

/-! ## The race -/

/-- Two workers have read before either has written, and both have been found forward. -/
def bothForward (config : CacheConfig) (now : Moment) (v w : ι) (f : Flow) : Crew ι :=
  ⟨((SharedCache.start config now).marking f.opposite).marking f,
    Function.update (Function.update (fun _ => .waiting) v (.done .forward)) w (.done .forward)⟩

theorem run_bothForward (allowed : Upkeep → SharedCache → Prop) (hvw : v ≠ w)
    (hv : (jobs v).flow? = some f) (hw : (jobs w).flow? = some f.opposite) :
    Run jobs allowed (start config now) [⟨v, now, .forward⟩, ⟨w, now, .forward⟩]
      (bothForward config now v w f) := by
  have hempty : ∀ g : Flow, ¬(start config now : Crew ι).store.Live g :=
    SharedCache.not_live_start config now
  have hread : Run jobs allowed (start config now) _ _ := Run.nil.snoc (.miss rfl hv (hempty f))
  have hread' := hread.snoc
    (.miss (Function.update_of_ne hvw.symm ..) hw (hempty f.opposite))
  have hwrite := hread'.snoc
    (.mark ((Function.update_of_ne hvw ..).trans (Function.update_self ..)) hv)
  have hwrite' := hwrite.snoc
    (.mark ((Function.update_of_ne hvw.symm ..).trans (Function.update_self ..)) hw)
  have hphase : Function.update (Function.update (Function.update (Function.update
        (fun _ => Phase.waiting) v .missed) w .missed) v (.done .forward)) w (.done .forward) =
      Function.update (Function.update (fun _ => .waiting) v (.done .forward)) w
        (.done .forward) := by
    rw [Function.update_comm hvw, Function.update_idem, Function.update_comm hvw.symm,
      Function.update_idem]
  rw [bothForward, ← hphase]
  exact hwrite'

theorem stored?_bothForward (hf : f.Tracked) {g : Flow} (hg : g = f ∨ g = f.opposite) :
    (bothForward config now v w f).store.stored? g = some (SharedCache.mark now) := by
  have hmark := SharedCache.stored?_marking (s := (SharedCache.start config now).marking f.opposite)
    (show g.Tracked by rcases hg with rfl | rfl <;> exact hf) hf
  rcases hg with rfl | rfl
  · rw [if_pos rfl] at hmark
    exact hmark
  · refine hmark.trans ?_
    split
    · rfl
    · exact SharedCache.stored?_marking_self hf.opposite

theorem live_bothForward (hseconds : config.expirationSecs ≠ 0) (hf : f.Tracked) {g : Flow}
    (hg : g = f ∨ g = f.opposite) : (bothForward config now v w f).store.Live g := by
  refine SharedCache.live_iff.mpr ⟨_, stored?_bothForward hf hg, ?_⟩
  exact Ttl.isExpired_self.mpr (Ttl.millis_ofSeconds_ne_zero.mpr hseconds)

/-- Two workers can make both directions live, unless entries expire at once. -/
theorem exists_both_live_iff (hvw : v ≠ w) (hv : (jobs v).flow? = some f)
    (hw : (jobs w).flow? = some f.opposite) :
    (∃ c, Run jobs Upkeep.Calm (start config now)
        [⟨v, now, .forward⟩, ⟨w, now, .forward⟩] c ∧
      c.store.Live f ∧ c.store.Live f.opposite) ↔ config.expirationSecs ≠ 0 := by
  constructor
  · rintro ⟨c, hrun, hlive, -⟩
    obtain ⟨e, -, hfresh⟩ := SharedCache.live_iff.mp hlive
    rw [hrun.ttl_eq (SharedCache.marked_start config now)] at hfresh
    have hnow := Ttl.isFresh_self (v := now) hfresh
    exact Ttl.millis_ofSeconds_ne_zero.mp (Ttl.isExpired_self.mp hnow)
  · intro hseconds
    have hf := Job.tracked_of_flow? hv
    exact ⟨_, run_bothForward _ hvw hv hw, live_bothForward hseconds hf (Or.inl rfl),
      live_bothForward hseconds hf (Or.inr rfl)⟩

/-! ## What follows -/

/-- A flow that is live stays so, and its packets return, as long as its entry is renewed
in time. -/
theorem Run.stays_returning {allowed : Upkeep → SharedCache → Prop}
    {h h' : List (Completion ι)} {c c' : Crew ι}
    (hrun : Run jobs allowed (start config now) h c) (hf : f.Tracked) (hlive : c.store.Live f)
    (hrun' : Run jobs Upkeep.Calm c h' c')
    (hun : ∀ e, c.store.stored? f = some e → Unbroken (.ofSeconds config.expirationSecs)
      (e.lastHit :: refreshTimes jobs f h' ++ [c'.store.now])) :
    c'.store.Live f ∧ ∀ w, (jobs w).flow? = some f →
      ((jobs w).read c'.store).1 = .done .returning ∧
      (c.phase w = .waiting → c'.phase w = .waiting ∨ c'.phase w = .done .returning) := by
  have hstart : (start config now : Crew ι).store.Marked := SharedCache.marked_start config now
  have hm := hrun.marked hstart
  have httl : c.store.state.ttl = .ofSeconds config.expirationSecs := hrun.ttl_eq hstart
  have hle : c.store.state.ttl.millis ≤ maxWord64 := by
    rw [httl]
    exact Ttl.millis_ofSeconds_le _
  obtain ⟨e, hstored, -⟩ := SharedCache.live_iff.mp hlive
  have hmark : c.store.stored? f = some (SharedCache.mark e.lastHit) := by
    rw [hstored, SharedCache.mark, ← hm f.key e hstored]
  have hun' := hun e hstored
  rw [← httl] at hun'
  have hkept := hrun'.live_kept hm hle hf hmark hun'
  refine ⟨hkept, fun w hw => ⟨?_, ?_⟩⟩
  · rw [Job.read_of_live hw (hrun'.marked hm) hkept]
  · exact hrun'.waiting_or_returning hm hle hmark hun' hw

/-- If classifications are single steps, the two directions of a flow are not live
together, and do not return together. If they are two steps, both directions can come to
be live, and then both stay so and return, as long as each is renewed in time. -/
theorem oneWay_unless_interleaved (jobs : ι → Job) (config : CacheConfig) (now : Moment) :
    (∀ ops (f : Flow), f.Tracked → f.sig ≠ f.sig.mirror →
      ¬((SharedCache.run ops (.start config now)).Live f ∧
        (SharedCache.run ops (.start config now)).Live f.opposite) ∧
      ∀ (mid : List Job) (j j' : Job), j.flow? = some f → j'.flow? = some f.opposite →
        (j.classify (SharedCache.run ops (.start config now))).1 = .ok .returning →
        (j'.classify (SharedCache.run (mid.map .classify)
          (SharedCache.run ops (.start config now)))).1 ≠ .ok .returning) ∧
    (∀ v w f, v ≠ w → (jobs v).flow? = some f → (jobs w).flow? = some f.opposite →
      ((∃ c, Run jobs Upkeep.Calm (start config now)
          [⟨v, now, .forward⟩, ⟨w, now, .forward⟩] c ∧
          c.store.Live f ∧ c.store.Live f.opposite) ↔ config.expirationSecs ≠ 0)) ∧
    ∀ h c f, Run jobs (fun _ _ => True) (start config now) h c → f.Tracked →
      c.store.Live f → c.store.Live f.opposite →
      ∀ h' c', Run jobs Upkeep.Calm c h' c' → ∀ g, g = f ∨ g = f.opposite →
      (∀ e, c.store.stored? g = some e → Unbroken (.ofSeconds config.expirationSecs)
        (e.lastHit :: refreshTimes jobs g h' ++ [c'.store.now])) →
      c'.store.Live g ∧ ∀ w, (jobs w).flow? = some g →
        ((jobs w).read c'.store).1 = .done .returning ∧
        (c.phase w = .waiting → c'.phase w = .waiting ∨ c'.phase w = .done .returning) := by
  refine ⟨?_, ?_, ?_⟩
  · intro ops f hf hsig
    exact ⟨SharedCache.not_both_live ops hf hsig,
      fun mid _ _ => SharedCache.not_both_returning ops hf hsig mid⟩
  · intro v w f hvw hv hw
    exact exists_both_live_iff hvw hv hw
  · intro h c f hrun hf hlive hlive' h' c' hrun' g hg hun
    rcases hg with rfl | rfl
    · exact hrun.stays_returning hf hlive hrun' hun
    · exact hrun.stays_returning hf.opposite hlive' hrun' hun

/-- Two workers for each direction of the flow. -/
def samplePairs (w : Bool × Bool) : Job := sampleJobs w.1

/-- One worker of each direction has raced the other. -/
def sampleRace : Crew (Bool × Bool) :=
  bothForward {} ⟨0⟩ (false, false) (true, false) sampleFlow

/-- After a packet of the flow its opposite returns, and then it does not return itself.
After a race of both, all packets of both return 59 seconds later. -/
theorem samplePairs_interleaved :
    (sampleFlow.opposite.job.classify
      (SharedCache.run [.classify sampleFlow.job] (.start {} ⟨0⟩))).1 = .ok .returning ∧
    (sampleFlow.job.classify (SharedCache.run [.classify sampleFlow.opposite.job]
      (SharedCache.run [.classify sampleFlow.job] (.start {} ⟨0⟩)))).1 ≠ .ok .returning ∧
    (∃ c, Run samplePairs Upkeep.Calm (start {} ⟨0⟩)
        [⟨(false, false), ⟨0⟩, .forward⟩, ⟨(true, false), ⟨0⟩, .forward⟩] c ∧
      c.store.Live sampleFlow ∧ c.store.Live sampleFlow.opposite) ∧
    ∀ w, ((samplePairs w).read (Upkeep.apply (.wait 59000000000) sampleRace.store)).1 =
      .done .returning := by
  have hf : sampleFlow.Tracked := rfl
  have hflow : sampleFlow.job.flow? = some sampleFlow := Flow.flow?_job hf
  have hflow' : sampleFlow.opposite.job.flow? = some sampleFlow.opposite := Flow.flow?_job hf
  have hseconds : ({} : CacheConfig).expirationSecs ≠ 0 := by decide
  obtain ⟨hone, hboth, hstay⟩ := oneWay_unless_interleaved samplePairs {} ⟨0⟩
  have hfirst : SharedCache.run [.classify sampleFlow.job] (.start {} ⟨0⟩) =
      (SharedCache.start {} ⟨0⟩).marking sampleFlow.opposite :=
    congrArg Prod.snd
      (Job.classify_of_not_live hflow (SharedCache.not_live_start {} ⟨0⟩ sampleFlow))
  have hlive : ((SharedCache.start {} ⟨0⟩).marking sampleFlow.opposite).Live
      sampleFlow.opposite := by
    rw [SharedCache.live_marking_iff hf.opposite hf.opposite, if_pos rfl]
    exact Ttl.isExpired_self.mpr (by decide)
  have hreturns : (sampleFlow.opposite.job.classify
      (SharedCache.run [.classify sampleFlow.job] (.start {} ⟨0⟩))).1 = .ok .returning := by
    rw [hfirst]
    exact (Job.classify_returning_iff (SharedCache.marked_marking
      (SharedCache.marked_start {} ⟨0⟩) _) hflow').mpr hlive
  refine ⟨hreturns, ?_, ?_, ?_⟩
  · exact (hone [.classify sampleFlow.job] sampleFlow.opposite hf.opposite (by decide)).2
      [sampleFlow.opposite.job] _ _ hflow' hflow hreturns
  · exact (hboth (false, false) (true, false) sampleFlow (by decide) hflow hflow').mpr hseconds
  · intro w
    have hrace : Run samplePairs (fun _ _ => True) (start {} ⟨0⟩) _ sampleRace :=
      run_bothForward _ (by decide) hflow hflow'
    have hwait : Run samplePairs Upkeep.Calm sampleRace ([] ++ []) _ :=
      Run.nil.snoc (.upkeep (u := .wait 59000000000) trivial)
    obtain ⟨g, hg, hw⟩ : ∃ g, (g = sampleFlow ∨ g = sampleFlow.opposite) ∧
        (samplePairs w).flow? = some g := by
      rcases w with ⟨_ | _, _⟩
      · exact ⟨_, Or.inl rfl, hflow⟩
      · exact ⟨_, Or.inr rfl, hflow'⟩
    refine ((hstay _ _ _ hrace hf (live_bothForward hseconds hf (Or.inl rfl))
      (live_bothForward hseconds hf (Or.inr rfl)) _ _ hwait g hg ?_).2 w hw).1
    intro e hstored
    rw [sampleRace, stored?_bothForward hf hg] at hstored
    obtain rfl := Option.some.inj hstored
    exact (by decide : Unbroken (.ofSeconds 60) [⟨0⟩, ⟨59000000000⟩])

end Crew

end FlowRules
