import FlowRules.Proofs.Eval.Direction
import FlowRules.Proofs.Tracking.Expiry
import FlowRules.Proofs.Tracking.Key

/-!
# One classification on a shared cache

A `Flow` is one direction of a flow through a device. A `Job` is a packet to be
classified, with a context of its own on which no direction is settled. On the shared
cache a job does two things : it reads the key of its own flow (`Job.read`), which
settles it if the marker is found or nothing is to be read, and otherwise it writes
the marker under the key of the opposite flow (`Job.write`). Done at once, both are
the evaluation of `Eval.flowState` (`Job.outcome_flowState`), which never fails on this
cache.

What the cache knows of a flow is the entry under its key (`SharedCache.stored?`), and
what each of the halves, and the upkeep between them, leaves of it is said here once
for every flow that a packet can have : keys of such flows do not collide.
-/

namespace FlowRules

/-! ## Flows -/

/-- One direction of a flow through a device. -/
structure Flow where
  device : DeviceId
  sig : FlowSig
  deriving DecidableEq

namespace Flow

variable {f g : Flow}

/-- The key of the flow. -/
def key (f : Flow) : String := trackingKey f.device f.sig

/-- The other direction through the same device. -/
def opposite (f : Flow) : Flow := ⟨f.device, f.sig.mirror⟩

theorem opposite_eq_iff : f.opposite = g ↔ f = g.opposite := by
  constructor
  · rintro rfl
    rfl
  · rintro rfl
    rfl

/-- Is the flow of TCP or UDP? -/
def Tracked (f : Flow) : Prop := f.sig.protocol.hasPorts = true

theorem Tracked.opposite (h : f.Tracked) : f.opposite.Tracked := h

theorem Tracked.of_opposite (h : f.opposite.Tracked) : f.Tracked := h

/-- Flows that a packet can have do not share a key. -/
theorem key_inj (hf : f.Tracked) (hg : g.Tracked) (h : f.key = g.key) : f = g := by
  obtain ⟨hdevice, hsig⟩ := trackingKey_inj hf hg h
  obtain ⟨device, sig⟩ := f
  obtain ⟨device', sig'⟩ := g
  rw [mk.injEq]
  exact ⟨hdevice, hsig⟩

theorem key_eq_iff (hf : f.Tracked) (hg : g.Tracked) : f.key = g.key ↔ f = g :=
  ⟨key_inj hf hg, congrArg key⟩

end Flow

/-! ## The shared cache -/

/-- An expiring cache with the clock by which it goes. -/
abbrev SharedCache := Clocked ExpiringCache

namespace SharedCache

/-- The cache without entries at some moment. -/
def start (config : CacheConfig) (now : Moment) : SharedCache := ⟨now, .new config⟩

/-- The entry under the key of a flow, expired or not. -/
def stored? (s : SharedCache) (f : Flow) : Option CacheEntry := s.state.entries.get? f.key

/-- The entry that stands for a flow found at that moment. -/
def mark (t : Moment) : CacheEntry := ⟨returnMarker, t⟩

/-- Is an entry present under the key of the flow, and not expired? -/
def Live (s : SharedCache) (f : Flow) : Prop := (s.state.live? s.now f.key).isSome = true

/-- Only markers are stored. -/
def Marked (s : SharedCache) : Prop :=
  ∀ k e, s.state.entries.get? k = some e → e.value = returnMarker

variable {s : SharedCache} {f g : Flow}

theorem live_iff : s.Live f ↔
    ∃ e, s.stored? f = some e ∧ s.state.ttl.isExpired e.lastHit s.now = false := by
  simp only [Live, Option.isSome_iff_exists, ExpiringCache.live?_eq_some_iff, stored?]

theorem live?_eq_none_of_not_live (h : ¬s.Live f) : s.state.live? s.now f.key = none := by
  simpa [Live] using h

theorem stored?_start (config : CacheConfig) (now : Moment) (f : Flow) :
    (start config now).stored? f = none := Table.get?_empty f.key

theorem not_live_start (config : CacheConfig) (now : Moment) (f : Flow) :
    ¬(start config now).Live f := by
  simp [live_iff, stored?_start]

theorem marked_start (config : CacheConfig) (now : Moment) : (start config now).Marked := by
  intro k e h
  exact absurd h (by simp [start, ExpiringCache.new, Table.get?_empty])

/-- The cache after a read of the flow's key. -/
def touched (s : SharedCache) (f : Flow) : SharedCache :=
  { s with state := (s.state.lookup true s.now f.key).2 }

/-- The cache with the marker written under the flow's key. -/
def marking (s : SharedCache) (f : Flow) : SharedCache :=
  { s with state := s.state.set s.now f.key returnMarker }

theorem ttl_touched (s : SharedCache) (f : Flow) : (s.touched f).state.ttl = s.state.ttl :=
  ExpiringCache.ttl_lookup s.now f.key

theorem stored?_touched (hf : f.Tracked) (hg : g.Tracked) : (s.touched g).stored? f =
    if f = g then (s.stored? f).map (CacheEntry.renewed s.state.ttl s.now) else s.stored? f := by
  simp only [touched, stored?, ExpiringCache.get?_lookup, Flow.key_eq_iff hf hg]

theorem stored?_marking (hf : f.Tracked) (hg : g.Tracked) :
    (s.marking g).stored? f = if f = g then some (mark s.now) else s.stored? f := by
  simp only [marking, stored?, ExpiringCache.get?_set, Flow.key_eq_iff hf hg, mark]

theorem stored?_marking_self (hf : f.Tracked) : (s.marking f).stored? f = some (mark s.now) := by
  rw [stored?_marking hf hf, if_pos rfl]

theorem stored?_marking_of_ne (hf : f.Tracked) (hg : g.Tracked) (h : f ≠ g) :
    (s.marking g).stored? f = s.stored? f := by
  rw [stored?_marking hf hg, if_neg h]

theorem stored?_touched_of_ne (hf : f.Tracked) (hg : g.Tracked) (h : f ≠ g) :
    (s.touched g).stored? f = s.stored? f := by
  rw [stored?_touched hf hg, if_neg h]

/-- Reading a live marker renews it. -/
theorem stored?_touched_self (hf : f.Tracked) (hm : s.Marked) (hl : s.Live f) :
    (s.touched f).stored? f = some (mark s.now) := by
  obtain ⟨e, hstored, hexp⟩ := live_iff.mp hl
  rw [stored?_touched hf hf, if_pos rfl, hstored, Option.map_some, CacheEntry.renewed, hexp,
    if_neg Bool.false_ne_true, hm f.key e hstored, mark]

theorem marked_marking (hm : s.Marked) (f : Flow) : (s.marking f).Marked := by
  intro k e h
  simp only [marking, ExpiringCache.get?_set] at h
  split at h
  · obtain rfl := Option.some.inj h
    rfl
  · exact hm k e h

theorem marked_touched (hm : s.Marked) (f : Flow) : (s.touched f).Marked := by
  intro k e h
  rw [touched, ExpiringCache.get?_lookup] at h
  split at h
  · obtain ⟨e', hget, rfl⟩ := Option.map_eq_some_iff.mp h
    rw [CacheEntry.renewed]
    split <;> exact hm k e' hget
  · exact hm k e h

end SharedCache

/-! ## Upkeep -/

/-- What happens to the cache besides classifications. -/
inductive Upkeep where
  /-- Expired entries are removed, as of the moment. -/
  | sweep (moment : Moment)
  /-- All entries are removed. -/
  | clear
  /-- Time passes. -/
  | wait (nanos : Nat)

namespace Upkeep

/-- The cache afterwards. -/
def apply (u : Upkeep) (s : SharedCache) : SharedCache :=
  match u with
  | sweep moment => { s with state := s.state.sweep moment }
  | clear => { s with state := s.state.clear }
  | wait nanos => s.advance nanos

/-- Nothing is cleared, and sweeps are not ahead of the clock. -/
def Calm (u : Upkeep) (s : SharedCache) : Prop :=
  match u with
  | sweep moment => moment.nanos ≤ s.now.nanos
  | clear => False
  | wait _ => True

variable {u : Upkeep} {s t : SharedCache} {f : Flow} {e : CacheEntry}

theorem ttl_apply : (u.apply s).state.ttl = s.state.ttl := by
  cases u <;> rfl

theorem now_le_apply : s.now.nanos ≤ (u.apply s).now.nanos := by
  cases u with
  | wait nanos => exact Nat.le_add_right _ _
  | _ => exact Nat.le_refl _

/-- Upkeep makes no entry, and changes none. -/
theorem get?_of_apply {k : String} (h : (u.apply s).state.entries.get? k = some e) :
    s.state.entries.get? k = some e := by
  cases u with
  | sweep moment =>
    rw [apply, ExpiringCache.get?_sweep, Option.filter_eq_some_iff] at h
    exact h.1
  | clear =>
    rw [apply, ExpiringCache.get?_clear] at h
    simp at h
  | wait nanos => exact h

theorem marked_apply (hm : s.Marked) : (u.apply s).Marked :=
  fun k e h => hm k e (get?_of_apply h)

/-- What is live after upkeep was so before. -/
theorem live_of_apply (h : (u.apply s).Live f) : s.Live f := by
  rw [SharedCache.live_iff] at h ⊢
  obtain ⟨e, he, hfresh⟩ := h
  rw [ttl_apply] at hfresh
  exact ⟨e, get?_of_apply he, Ttl.isFresh_of_later (Nat.le_refl _) now_le_apply hfresh⟩

/-- Calm upkeep keeps every entry that is live after it. -/
theorem stored?_apply_of_calm (hcalm : u.Calm s) (h : s.stored? f = some e)
    (hfresh : s.state.ttl.isExpired e.lastHit s.now = false) : (u.apply s).stored? f = some e := by
  cases u with
  | sweep moment =>
    rw [SharedCache.stored?, apply, ExpiringCache.get?_sweep, Option.filter_eq_some_iff]
    exact ⟨h, by simp [Ttl.isFresh_of_later (Nat.le_refl _) hcalm hfresh]⟩
  | clear => exact hcalm.elim
  | wait nanos => exact h

end Upkeep

/-! ## Jobs -/

/-- A packet to be classified, with a fresh context. -/
structure Job where
  context : Context
  packet : Packet
  mode : ReadMode := .blocking
  fresh : context.flowState = .untracked

/-- What has been done of a classification. -/
inductive Phase where
  | waiting
  /-- The own key was read, and the marker not found. -/
  | missed
  | done (state : FlowState)
  deriving DecidableEq

namespace Job

/-- The flow of the packet, if it has a signature. -/
def flow? (j : Job) : Option Flow := j.packet.flowSig?.map (Flow.mk j.context.device)

/-- The first half : the own key is read, unless there is none. -/
def read (j : Job) (s : SharedCache) : Phase × SharedCache :=
  match j.flow? with
  | none => (.done .forward, s)
  | some f =>
    (if (s.state.lookup true s.now f.key).1 = some returnMarker then .done .returning
      else .missed, s.touched f)

/-- The second half : the marker is written under the opposite key. The packet is
forward then. -/
def write (j : Job) (s : SharedCache) : SharedCache :=
  match j.flow? with
  | none => s
  | some f => s.marking f.opposite

/-- The whole classification, with nothing in between. -/
def classify (j : Job) (s : SharedCache) : Except CacheError FlowState × SharedCache :=
  let (result, after) :=
    Eval.outcome (Eval.flowState ExpiringCache.cache j.mode j.packet) ⟨j.context, s, []⟩
  (result, after.cache)

variable {j : Job} {f : Flow} {s : SharedCache}

theorem flow?_eq_some_iff : j.flow? = some f ↔
    j.context.device = f.device ∧ j.packet.flowSig? = some f.sig := by
  rw [flow?, Option.map_eq_some_iff]
  constructor
  · rintro ⟨sig, hsig, rfl⟩
    exact ⟨rfl, hsig⟩
  · rintro ⟨hdevice, hsig⟩
    exact ⟨f.sig, hsig, by rw [hdevice]⟩

/-- The flow of a packet is of TCP or UDP. -/
theorem tracked_of_flow? (h : j.flow? = some f) : f.Tracked :=
  Packet.hasPorts_of_flowSig? (flow?_eq_some_iff.mp h).2

theorem read_of_noFlow (h : j.flow? = none) (s : SharedCache) :
    j.read s = (.done .forward, s) := by
  simp [read, h]

/-- A live marker under the own key settles the job. -/
theorem read_of_live (h : j.flow? = some f) (hm : s.Marked) (hl : s.Live f) :
    j.read s = (.done .returning, s.touched f) := by
  obtain ⟨e, he⟩ := Option.isSome_iff_exists.mp hl
  have hvalue : e.value = returnMarker := hm f.key e (ExpiringCache.live?_eq_some_iff.mp he).1
  simp [read, h, ExpiringCache.lookup_of_live he, hvalue]

theorem read_of_not_live (h : j.flow? = some f) (hl : ¬s.Live f) : j.read s = (.missed, s) := by
  have hnone := SharedCache.live?_eq_none_of_not_live hl
  simp [read, h, ExpiringCache.lookup_of_not_live hnone, SharedCache.touched]

/-- Where only markers are stored, a read is one of three things. -/
theorem read_cases (j : Job) (hm : s.Marked) :
    (j.flow? = none ∧ j.read s = (.done .forward, s)) ∨
      (∃ f, j.flow? = some f ∧ s.Live f ∧ j.read s = (.done .returning, s.touched f)) ∨
      ∃ f, j.flow? = some f ∧ ¬s.Live f ∧ j.read s = (.missed, s) := by
  cases hflow : j.flow? with
  | none => exact Or.inl ⟨rfl, read_of_noFlow hflow s⟩
  | some f =>
    by_cases hl : s.Live f
    · exact Or.inr (Or.inl ⟨f, rfl, hl, read_of_live hflow hm hl⟩)
    · exact Or.inr (Or.inr ⟨f, rfl, hl, read_of_not_live hflow hl⟩)

theorem write_of_flow (h : j.flow? = some f) (s : SharedCache) :
    j.write s = s.marking f.opposite := by
  simp [write, h]

/-- Read and write at once are what is evaluated, and the evaluation does not fail. -/
theorem outcome_flowState (j : Job) (s : SharedCache) (log : List LogLine) :
    Eval.outcome (Eval.flowState ExpiringCache.cache j.mode j.packet) ⟨j.context, s, log⟩ =
      match j.read s with
      | (.done state, after) => (.ok state, ⟨{ j.context with flowState := state }, after, log⟩)
      | (_, mid) =>
        (.ok .forward, ⟨{ j.context with flowState := .forward }, j.write mid, log⟩) := by
  cases hsig : j.packet.flowSig? with
  | none =>
    have hflow : j.flow? = none := by simp [flow?, hsig]
    rw [read_of_noFlow hflow]
    exact Eval.outcome_flowState_of_directed (.noSignature j.fresh hsig)
  | some sig =>
    have hflow : j.flow? = some ⟨j.context.device, sig⟩ := by simp [flow?, hsig]
    have hread : ExpiringCache.cache.getAndTouch j.mode (trackingKey j.context.device sig) s =
        (.ok (s.state.lookup true s.now (trackingKey j.context.device sig)).1,
          s.touched ⟨j.context.device, sig⟩) := ExpiringCache.getAndTouch_cache _ _ s
    simp only [read, hflow, Flow.key]
    by_cases hvalue :
        (s.state.lookup true s.now (trackingKey j.context.device sig)).1 = some returnMarker
    · rw [hvalue] at hread
      simp only [hvalue, if_true]
      exact Eval.outcome_flowState_of_directed (.marked j.fresh hsig hread)
    · simp only [hvalue, if_false, write_of_flow hflow]
      exact Eval.outcome_flowState_of_directed (.unmarked j.fresh hsig hread hvalue rfl)

theorem classify_eq (j : Job) (s : SharedCache) : j.classify s =
    match j.read s with
    | (.done state, after) => (.ok state, after)
    | (_, mid) => (.ok .forward, j.write mid) := by
  rw [classify, outcome_flowState]
  rcases j.read s with ⟨_ | _ | state, after⟩ <;> rfl

end Job

/-! ## A job for every flow -/

/-- A packet with the signature. -/
def FlowSig.packet (sig : FlowSig) : Packet where
  etherType := some EtherType.ipv4
  source := some sig.source
  dest := some sig.dest
  protocol := some sig.protocol.number
  srcPort := some sig.srcPort
  dstPort := some sig.dstPort

/-- A packet that passes a device, without ports of the device. -/
def Flow.job (f : Flow) : Job where
  context := { device := f.device }
  packet := f.sig.packet
  fresh := rfl

theorem Flow.flow?_job {f : Flow} (hf : f.Tracked) : f.job.flow? = some f := by
  rw [Job.flow?_eq_some_iff]
  exact ⟨rfl, Packet.flowSig?_eq_some_iff.mpr ⟨rfl, rfl, hf, rfl, rfl, rfl, rfl⟩⟩

end FlowRules
