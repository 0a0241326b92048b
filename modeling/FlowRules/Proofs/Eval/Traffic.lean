import FlowRules.Proofs.Eval.Direction

/-!
# What is asked of the cache

`Cache.observed` is a cache together with the list of the calls made of it and their
answers. Watching changes nothing : the direction of a flow is found as on the cache
itself (`Directed.observed`). What is asked on the way is said by `Lookup`, without the
store and whatever it answers : nothing for what is settled or has no signature, else a
renewing read of the packet's own key, and after an answer other than the marker a write
of the marker under the opposite key.
-/

namespace FlowRules

variable {σ : Type}

/-! ## A cache under observation -/

/-- A call made of a cache, with its answer. -/
inductive Access where
  | get (mode : ReadMode) (key : String) (answer : ReadResult)
  | getAndTouch (mode : ReadMode) (key : String) (answer : ReadResult)
  | set (key value : String) (answer : Except CacheError Unit)

namespace Access

/-- Is the call a read, of either kind? -/
def isRead : Access → Bool
  | get .. | getAndTouch .. => true
  | set .. => false

/-- Is the call a write? -/
def isWrite : Access → Bool
  | set .. => true
  | _ => false

end Access

/-- A store with the calls made of it so far, oldest first. -/
structure Observed (σ : Type) where
  store : σ
  traffic : List Access := []

namespace Observed

/-- The store as a part of what is observed. -/
def storePart : Part (Observed σ) σ where
  get s := s.store
  put store s := { s with store }

/-- The answer to a call, which is listed. -/
def noting {α : Type} (s : Observed σ) (answer : α) (access : Access) : α × Observed σ :=
  (answer, { s with traffic := s.traffic ++ [access] })

end Observed

/-- The cache that also lists the calls made of it. A read that does not block is listed
when its answer is there. -/
def Cache.observed (cache : Cache σ) : Cache (Observed σ) where
  read key s :=
    let (answer, store) := cache.read key s.store
    { s with store }.noting answer (.get .blocking key answer)
  readAsync key := do
    let answer ← (cache.readAsync key).within Observed.storePart
    .now fun s => s.noting answer (.get .async key answer)
  renew key s :=
    let (answer, store) := cache.renew key s.store
    { s with store }.noting answer (.getAndTouch .blocking key answer)
  renewAsync key := do
    let answer ← (cache.renewAsync key).within Observed.storePart
    .now fun s => s.noting answer (.getAndTouch .async key answer)
  set key value s :=
    let (answer, store) := cache.set key value s.store
    (answer, ⟨store, s.traffic ++ [.set key value answer]⟩)
  expirationSecs s := cache.expirationSecs s.store

theorem Cache.observed_getAndTouch {cache : Cache σ} {mode : ReadMode} {key : String} {s t : σ}
    {answer : ReadResult} (h : cache.getAndTouch mode key s = (answer, t)) (past : List Access) :
    cache.observed.getAndTouch mode key ⟨s, past⟩ =
      (answer, ⟨t, past ++ [.getAndTouch mode key answer]⟩) := by
  cases mode with
  | blocking =>
    rw [getAndTouch] at h
    simp [getAndTouch, observed, Observed.noting, h]
  | async =>
    rw [getAndTouch] at h
    rw [getAndTouch, observed, Future.complete_bind, Future.complete_within]
    simp [Future.complete_now, Observed.noting, Observed.storePart, h]

theorem Cache.observed_set {cache : Cache σ} {key value : String} {s t : σ}
    {answer : Except CacheError Unit} (h : cache.set key value s = (answer, t))
    (past : List Access) :
    cache.observed.set key value ⟨s, past⟩ = (answer, ⟨t, past ++ [.set key value answer]⟩) := by
  simp [observed, h]

/-- The state with the cache under observation, after some calls. -/
def EvalState.observed (s : EvalState σ) (past : List Access) : EvalState (Observed σ) :=
  ⟨s.context, ⟨s.cache, past⟩, s.log⟩

/-- A report leaves the context as it is. -/
theorem Eval.context_reported (s : EvalState σ) (key : String) (e : CacheError) :
    (reported s key e).context = s.context := by
  unfold reported
  split <;> rfl

theorem EvalState.observed_reported (s : EvalState σ) (key : String) (e : CacheError)
    (past : List Access) :
    (Eval.reported s key e).observed past = Eval.reported (s.observed past) key e := by
  unfold Eval.reported
  cases h : s.context.reports <;> simp [observed, h]

/-! ## The calls of a lookup -/

/-- What finding the direction of a packet's flow asks of the cache : the direction on
the context before and after, the calls in between, and the result. -/
inductive Lookup (mode : ReadMode) (device : DeviceId) (p : Packet) (before : FlowState) :
    List Access → Except CacheError FlowState → FlowState → Prop where
  | known (hknown : before ≠ .untracked) : Lookup mode device p before [] (.ok before) before
  | noSignature (hnew : before = .untracked) (hsig : p.flowSig? = none) :
      Lookup mode device p before [] (.ok .forward) .forward
  | readFails {sig : FlowSig} {e : CacheError} (hnew : before = .untracked)
      (hsig : p.flowSig? = some sig) :
      Lookup mode device p before
        [.getAndTouch mode (trackingKey device sig) (.error e)] (.error e) before
  | marked {sig : FlowSig} (hnew : before = .untracked) (hsig : p.flowSig? = some sig) :
      Lookup mode device p before
        [.getAndTouch mode (trackingKey device sig) (.ok (some returnMarker))]
        (.ok .returning) .returning
  | writeFails {sig : FlowSig} {value : Option String} {e : CacheError}
      (hnew : before = .untracked) (hsig : p.flowSig? = some sig)
      (hvalue : value ≠ some returnMarker) :
      Lookup mode device p before
        [.getAndTouch mode (trackingKey device sig) (.ok value),
          .set (reverseKey device sig) returnMarker (.error e)] (.error e) before
  | unmarked {sig : FlowSig} {value : Option String} (hnew : before = .untracked)
      (hsig : p.flowSig? = some sig) (hvalue : value ≠ some returnMarker) :
      Lookup mode device p before
        [.getAndTouch mode (trackingKey device sig) (.ok value),
          .set (reverseKey device sig) returnMarker (.ok ())] (.ok .forward) .forward

namespace Directed

variable {cache : Cache σ} {mode : ReadMode} {p : Packet} {s s' : EvalState σ}
  {r : Except CacheError FlowState}

/-- Only the direction changes on the context. -/
theorem context_eq (h : Directed cache mode p s r s') :
    s'.context = { s.context with flowState := s'.context.flowState } := by
  cases h with
  | readFails => rw [Eval.context_reported]
  | writeFails => rw [Eval.context_reported]
  | _ => rfl

/-- Under observation the direction is found as before, by the calls of a lookup. -/
theorem observed (h : Directed cache mode p s r s') :
    ∃ traffic, Lookup mode s.context.device p s.context.flowState traffic r s'.context.flowState ∧
      ∀ past, Directed cache.observed mode p (s.observed past) r
        (s'.observed (past ++ traffic)) := by
  cases h with
  | known hknown =>
    refine ⟨[], .known hknown, fun past => ?_⟩
    rw [List.append_nil]
    exact .known hknown
  | noSignature hnew hsig =>
    refine ⟨[], .noSignature hnew hsig, fun past => ?_⟩
    rw [List.append_nil]
    exact .noSignature hnew hsig
  | @readFails sig e store hnew hsig hread =>
    refine ⟨[.getAndTouch mode (trackingKey s.context.device sig) (.error e)], ?_, fun past => ?_⟩
    · rw [Eval.context_reported]
      exact .readFails hnew hsig
    · rw [EvalState.observed_reported]
      exact .readFails hnew hsig (Cache.observed_getAndTouch hread past)
  | marked hnew hsig hread =>
    exact ⟨_, .marked hnew hsig, fun past =>
      .marked hnew hsig (Cache.observed_getAndTouch hread past)⟩
  | @writeFails sig value store store' e hnew hsig hread hvalue hwrite =>
    refine ⟨[.getAndTouch mode (trackingKey s.context.device sig) (.ok value),
      .set (reverseKey s.context.device sig) returnMarker (.error e)], ?_, fun past => ?_⟩
    · rw [Eval.context_reported]
      exact .writeFails hnew hsig hvalue
    · rw [EvalState.observed_reported, List.append_cons]
      exact .writeFails hnew hsig (Cache.observed_getAndTouch hread past) hvalue
        (Cache.observed_set hwrite _)
  | unmarked hnew hsig hread hvalue hwrite =>
    refine ⟨_, .unmarked hnew hsig hvalue, fun past => ?_⟩
    rw [List.append_cons]
    exact .unmarked hnew hsig (Cache.observed_getAndTouch hread past) hvalue
      (Cache.observed_set hwrite _)

end Directed

end FlowRules
