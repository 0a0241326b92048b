import FlowRules.Proofs.Tracking.Serial

/-!
# Flows do not interfere

What is found of the packets of a flow and of its opposite depends on the cache only
through the clock, the lifetime and the two entries of the flow
(`SharedCache.Agree`). Any classification keeps two caches that agree in agreement, and
one of a packet of another flow changes nothing of what they agree on. So the packets
of other flows and of other devices can be left out of a history
(`SharedCache.answers_without_foreign`), whatever the cache held at first.
-/

namespace FlowRules

/-! ## Of which flow a packet is -/

namespace Job

/-- Is the packet of the flow, or of its opposite? -/
def Concerns (j : Job) (f : Flow) : Prop := j.flow? = some f ∨ j.flow? = some f.opposite

instance (j : Job) (f : Flow) : Decidable (j.Concerns f) := inferInstanceAs (Decidable (_ ∨ _))

/-- Does the packet pass another device, or have the signature of another flow? -/
def Foreign (j : Job) (f : Flow) : Prop :=
  j.context.device ≠ f.device ∨ ∃ sig ∈ j.packet.flowSig?, sig ≠ f.sig ∧ sig ≠ f.sig.mirror

instance (j : Job) (f : Flow) : Decidable (j.Foreign f) := inferInstanceAs (Decidable (_ ∨ _))

variable {j : Job} {f g : Flow}

theorem Concerns.tracked (h : j.Concerns f) : f.Tracked := by
  rcases h with h | h
  · exact tracked_of_flow? h
  · exact (tracked_of_flow? h).of_opposite

theorem Foreign.not_concerns (h : j.Foreign f) : ¬j.Concerns f := by
  simp only [Concerns, flow?_eq_some_iff]
  rintro (⟨hdevice, hsig⟩ | ⟨hdevice, hsig⟩) <;> rcases h with hother | ⟨sig, hmem, hne, hne'⟩
  · exact hother hdevice
  · exact hne (Option.some.inj (hmem.symm.trans hsig))
  · exact hother hdevice
  · exact hne' (Option.some.inj (hmem.symm.trans hsig))

/-- A packet of no flow is the only one of neither kind. -/
theorem flow?_eq_none (hc : ¬j.Concerns f) (hforeign : ¬j.Foreign f) : j.flow? = none := by
  by_contra hsome
  obtain ⟨g, hg⟩ := Option.ne_none_iff_exists'.mp hsome
  obtain ⟨hdevice, hsig⟩ := flow?_eq_some_iff.mp hg
  simp only [Foreign, not_or, not_not, not_exists, not_and] at hforeign
  obtain ⟨hsame, hsigs⟩ := hforeign
  refine hc ?_
  simp only [Concerns, flow?_eq_some_iff]
  by_cases hfg : g.sig = f.sig
  · exact Or.inl ⟨hsame, hsig.trans (congrArg some hfg)⟩
  · exact Or.inr ⟨hsame, hsig.trans (congrArg some (hsigs g.sig hsig hfg))⟩

end Job

/-! ## Caches that agree on a flow -/

namespace SharedCache

/-- The caches go by the same clock and lifetime, and hold the same of a flow and of its
opposite. -/
structure Agree (f : Flow) (s t : SharedCache) : Prop where
  now : s.now = t.now
  ttl : s.state.ttl = t.state.ttl
  stored : ∀ g, g = f ∨ g = f.opposite → s.stored? g = t.stored? g

variable {s t : SharedCache} {f g : Flow}

/-- What a read of the flow's key finds. -/
def found? (s : SharedCache) (f : Flow) : Option String :=
  ((s.stored? f).filter fun e => !s.state.ttl.isExpired e.lastHit s.now).map CacheEntry.value

theorem classify_of_flow {j : Job} (h : j.flow? = some g) (s : SharedCache) : j.classify s =
    if s.found? g = some returnMarker then (.ok .returning, s.touched g)
    else (.ok .forward, (s.touched g).marking g.opposite) := by
  have hfound : (s.state.lookup true s.now g.key).1 = s.found? g :=
    ExpiringCache.fst_lookup s.state s.now g.key
  rw [Job.classify_eq, Job.read, h]
  by_cases hmarker : s.found? g = some returnMarker
  · simp [hfound, hmarker]
  · simp [hfound, hmarker, Job.write_of_flow h]

theorem stored?_apply (u : Upkeep) : (u.apply s).stored? f =
    match u with
    | .sweep moment => (s.stored? f).filter fun e => !s.state.ttl.isExpired e.lastHit moment
    | .clear => none
    | .wait _ => s.stored? f := by
  cases u with
  | sweep moment => exact ExpiringCache.get?_sweep moment f.key
  | clear => exact ExpiringCache.get?_clear f.key
  | wait nanos => rfl

namespace Agree

theorem refl (f : Flow) (s : SharedCache) : Agree f s s := ⟨rfl, rfl, fun _ _ => rfl⟩

theorem tracked (hf : f.Tracked) (h : g = f ∨ g = f.opposite) : g.Tracked := by
  rcases h with rfl | rfl
  · exact hf
  · exact hf.opposite

theorem touched (h : Agree f s t) (hf : f.Tracked) (hg : g.Tracked) :
    Agree f (s.touched g) (t.touched g) := by
  refine ⟨h.now, ?_, fun x hx => ?_⟩
  · rw [ttl_touched, ttl_touched, h.ttl]
  · rw [stored?_touched (tracked hf hx) hg, stored?_touched (tracked hf hx) hg, h.stored x hx,
      h.ttl, h.now]

theorem marking (h : Agree f s t) (hf : f.Tracked) (hg : g.Tracked) :
    Agree f (s.marking g) (t.marking g) := by
  refine ⟨h.now, h.ttl, fun x hx => ?_⟩
  rw [stored?_marking (tracked hf hx) hg, stored?_marking (tracked hf hx) hg, h.stored x hx,
    h.now]

theorem apply (h : Agree f s t) (u : Upkeep) : Agree f (u.apply s) (u.apply t) := by
  refine ⟨?_, ?_, fun g hg => ?_⟩
  · cases u with
    | wait nanos => exact congrArg (fun m : Moment => m.plus nanos) h.now
    | _ => exact h.now
  · rw [Upkeep.ttl_apply, Upkeep.ttl_apply, h.ttl]
  · rw [stored?_apply, stored?_apply, h.stored g hg, h.ttl]

/-- A packet of the flow is found alike, and leaves the caches in agreement. -/
theorem classify (h : Agree f s t) {j : Job} (hj : j.Concerns f) :
    (j.classify s).1 = (j.classify t).1 ∧ Agree f (j.classify s).2 (j.classify t).2 := by
  obtain ⟨g, hflow, hg⟩ : ∃ g, j.flow? = some g ∧ (g = f ∨ g = f.opposite) := by
    rcases hj with hj | hj
    · exact ⟨f, hj, Or.inl rfl⟩
    · exact ⟨f.opposite, hj, Or.inr rfl⟩
  have hg' : g.Tracked := Job.tracked_of_flow? hflow
  have hf := hj.tracked
  have hfound : s.found? g = t.found? g := by rw [found?, found?, h.stored g hg, h.ttl, h.now]
  rw [classify_of_flow hflow, classify_of_flow hflow, hfound]
  split
  · exact ⟨rfl, h.touched hf hg'⟩
  · exact ⟨rfl, (h.touched hf hg').marking hf hg'.opposite⟩

/-- A packet of another flow leaves what the caches agree on. -/
theorem classify_left (h : Agree f s t) (hf : f.Tracked) {j : Job} (hj : ¬j.Concerns f) :
    Agree f (j.classify s).2 t := by
  cases hflow : j.flow? with
  | none =>
    rw [Job.classify_of_noFlow hflow]
    exact h
  | some g =>
    have hg : g.Tracked := Job.tracked_of_flow? hflow
    simp only [Job.Concerns, hflow, Option.some.injEq, not_or] at hj
    have hne : ∀ x, x = f ∨ x = f.opposite → x ≠ g ∧ x ≠ g.opposite := by
      rintro x (rfl | rfl)
      · exact ⟨Ne.symm hj.1, fun e => hj.2 (Flow.opposite_eq_iff.mp e.symm)⟩
      · exact ⟨Ne.symm hj.2, fun e => hj.1 (Flow.opposite_eq_iff.mp e).symm⟩
    have htouched : Agree f (s.touched g) t := by
      refine ⟨h.now, (ttl_touched s g).trans h.ttl, fun x hx => ?_⟩
      rw [stored?_touched_of_ne (tracked hf hx) hg (hne x hx).1, h.stored x hx]
    rw [classify_of_flow hflow]
    split
    · exact htouched
    · refine ⟨htouched.now, htouched.ttl, fun x hx => ?_⟩
      rw [stored?_marking_of_ne (tracked hf hx) hg.opposite (hne x hx).2, htouched.stored x hx]

end Agree

/-! ## Histories -/

/-- The classifications of a history with their results. -/
def answers : List Operation → SharedCache → List (Job × Except CacheError FlowState)
  | [], _ => []
  | .classify j :: ops, s => (j, (j.classify s).1) :: answers ops (j.classify s).2
  | .upkeep u :: ops, s => answers ops (u.apply s)

/-- The answers to packets of the flow and of its opposite. -/
def answersOf (f : Flow) (ops : List Operation) (s : SharedCache) :
    List (Job × Except CacheError FlowState) :=
  (answers ops s).filter fun a => a.1.Concerns f

/-- Is the operation a classification of a foreign packet? -/
def Foreign (f : Flow) : Operation → Prop
  | .classify j => j.Foreign f
  | .upkeep _ => False

instance (f : Flow) : DecidablePred (Foreign f)
  | .classify j => inferInstanceAs (Decidable (j.Foreign f))
  | .upkeep _ => inferInstanceAs (Decidable False)

theorem answersOf_classify_of_concerns {j : Job} (h : j.Concerns f) (ops : List Operation)
    (s : SharedCache) : answersOf f (.classify j :: ops) s =
      (j, (j.classify s).1) :: answersOf f ops (j.classify s).2 := by
  simp [answersOf, answers, h]

theorem answersOf_classify_of_not_concerns {j : Job} (h : ¬j.Concerns f) (ops : List Operation)
    (s : SharedCache) :
    answersOf f (.classify j :: ops) s = answersOf f ops (j.classify s).2 := by
  simp [answersOf, answers, h]

theorem Agree.answersOf_eq (hf : f.Tracked) (ops : List Operation) (h : Agree f s t) :
    answersOf f ops s = answersOf f (ops.filter fun o => ¬Foreign f o) t := by
  induction ops generalizing s t with
  | nil => rfl
  | cons o ops ih =>
    cases o with
    | upkeep u =>
      rw [List.filter_cons_of_pos (by simp [Foreign])]
      exact ih (h.apply u)
    | classify j =>
      by_cases hforeign : j.Foreign f
      · rw [List.filter_cons_of_neg (by simp [Foreign, hforeign]),
          answersOf_classify_of_not_concerns hforeign.not_concerns]
        exact ih (h.classify_left hf hforeign.not_concerns)
      · rw [List.filter_cons_of_pos (by simp [Foreign, hforeign])]
        by_cases hj : j.Concerns f
        · obtain ⟨hsame, hafter⟩ := h.classify hj
          rw [answersOf_classify_of_concerns hj, answersOf_classify_of_concerns hj, hsame,
            ih hafter]
        · have hnone := Job.flow?_eq_none hj hforeign
          rw [answersOf_classify_of_not_concerns hj, answersOf_classify_of_not_concerns hj,
            Job.classify_of_noFlow hnone, Job.classify_of_noFlow hnone]
          exact ih h

/-- The packets of a flow and of its opposite are found the same if the foreign packets
are left out, from any cache and through any upkeep. -/
theorem answers_without_foreign (f : Flow) (ops : List Operation) (s : SharedCache) :
    answersOf f ops s = answersOf f (ops.filter fun o => ¬Foreign f o) s := by
  by_cases hf : f.Tracked
  · exact (Agree.refl f s).answersOf_eq hf ops
  · have hnone : ∀ ops, answersOf f ops s = [] := by
      intro ops
      refine List.filter_eq_nil_iff.mpr fun a _ => ?_
      simp [show ¬a.1.Concerns f from fun h => hf h.tracked]
    rw [hnone, hnone]

end SharedCache

end FlowRules
