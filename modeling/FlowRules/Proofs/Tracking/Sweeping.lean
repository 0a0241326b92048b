import FlowRules.Proofs.Tracking.Classification
import FlowRules.Tracking.Doubles

/-!
# Sweeps do not show

A `CacheEvent` is a call of an expiring cache or its upkeep, and `SharedCache.history`
lists what happens to a cache with the moment and the answer of each event. Readers see
the live entries only, and of these a sweep that is not ahead of the clock takes none. So
a history with such sweeps is, apart from them, the history without them
(`SharedCache.filter_history`).

What a read finds is said by the calls before it alone (`SharedCache.Kept`) : the value of
the latest write of its key since the cache was cleared, as long as no interval between
the refreshes of the entry reaches the lifetime. Refreshes are that write and the renewing
reads that found the value; all other reads leave the cache as it is. The main statement
is `SharedCache.sweeps_unobservable`.
-/

namespace FlowRules

/-! ## Events -/

/-- What can happen to an expiring cache. -/
inductive CacheEvent where
  | call (c : CacheCall)
  | upkeep (u : Upkeep)

namespace CacheEvent

/-- The answer to a reader, and the cache afterwards. -/
def perform (e : CacheEvent) (s : SharedCache) : Option ReadResult × SharedCache :=
  match e with
  | call (.get mode key) => (ExpiringCache.cache.get mode key s).map some id
  | call (.getAndTouch mode key) => (ExpiringCache.cache.getAndTouch mode key s).map some id
  | call (.set key value) => (none, (ExpiringCache.cache.set key value s).2)
  | upkeep u => (none, u.apply s)

/-- Is the event a sweep? -/
def isSweep : CacheEvent → Bool
  | upkeep (.sweep _) => true
  | _ => false

/-- Does the event put an end to what was written under the key? -/
def replaces (key : String) : CacheEvent → Bool
  | call (.set k _) => k = key
  | upkeep .clear => true
  | _ => false

/-- The key that is read, if the event is a read. -/
def readKey? : CacheEvent → Option String
  | call (.get _ key) | call (.getAndTouch _ key) => some key
  | _ => none

end CacheEvent

/-- An event, with its moment and its answer to a reader. -/
structure CacheRecord where
  moment : Moment
  event : CacheEvent
  answer : Option ReadResult

namespace CacheRecord

/-- Is the event no sweep that is ahead of the clock? -/
def Timely (r : CacheRecord) : Prop :=
  match r.event with
  | .upkeep (.sweep moment) => moment.nanos ≤ r.moment.nanos
  | _ => True

instance : DecidablePred Timely
  | ⟨t, .upkeep (.sweep moment), _⟩ => inferInstanceAs (Decidable (moment.nanos ≤ t.nanos))
  | ⟨_, .upkeep .clear, _⟩ | ⟨_, .upkeep (.wait _), _⟩ | ⟨_, .call _, _⟩ =>
    inferInstanceAs (Decidable True)

/-- Is the event a renewing read of the key that found a value? -/
def renews (key : String) (r : CacheRecord) : Bool :=
  match r.event, r.answer with
  | .call (.getAndTouch _ k), some (.ok (some _)) => k = key
  | _, _ => false

end CacheRecord

namespace SharedCache

/-- What happens to the cache, oldest first. -/
def history : List CacheEvent → SharedCache → List CacheRecord
  | [], _ => []
  | e :: es, s => ⟨s.now, e, (e.perform s).1⟩ :: history es (e.perform s).2

/-- The moments at which the entry of the key was renewed. -/
def renewals (key : String) (h : List CacheRecord) : List Moment :=
  (h.filter (CacheRecord.renews key)).map CacheRecord.moment

/-- The latest write of the key since the cache was cleared wrote the value, and the
entry was written and renewed at the moments. -/
def Written (key value : String) (ts : List Moment) (past : List CacheRecord) : Prop :=
  ∃ pre r post, past = pre ++ r :: post ∧ r.event = .call (.set key value) ∧
    (∀ q ∈ post, q.event.replaces key = false) ∧ ts = r.moment :: renewals key post

/-- No interval between the refreshes of what was written, or from the last of them to
the moment, reaches the lifetime. -/
def Kept (ttl : Ttl) (key value : String) (past : List CacheRecord) (now : Moment) : Prop :=
  ∃ ts, Written key value ts past ∧ Unbroken ttl (ts ++ [now])

/-! ## What readers see -/

/-- The live entry of a key. -/
def live? (s : SharedCache) (key : String) : Option CacheEntry := s.state.live? s.now key

/-- Two caches that go by the same clock and lifetime, and show readers the same. -/
structure LiveAlike (s t : SharedCache) : Prop where
  now : s.now = t.now
  ttl : s.state.ttl = t.state.ttl
  live : ∀ key, s.live? key = t.live? key

end SharedCache

open SharedCache

namespace CacheEvent

variable {s t : SharedCache}

/-- A plain read leaves the cache as it is. -/
theorem perform_get (mode : ReadMode) (key : String) (s : SharedCache) :
    (call (.get mode key)).perform s =
      (some (.ok ((s.live? key).map CacheEntry.value)), s) := by
  simp [perform, ExpiringCache.get_cache, Clocked.lookup, ExpiringCache.lookup_false, live?]

theorem perform_getAndTouch (mode : ReadMode) (key : String) (s : SharedCache) :
    (call (.getAndTouch mode key)).perform s = (s.lookup true key).map some id := by
  rw [perform, ExpiringCache.getAndTouch_cache]

theorem now_perform_of_call (c : CacheCall) (s : SharedCache) :
    ((call c).perform s).2.now = s.now := by
  cases c with
  | get mode key =>
    rw [perform_get]
  | getAndTouch mode key =>
    rw [perform_getAndTouch]
    rfl
  | set key value => rfl

theorem ttl_perform (e : CacheEvent) (s : SharedCache) :
    (e.perform s).2.state.ttl = s.state.ttl := by
  cases e with
  | call c =>
    cases c with
    | get mode key => rw [perform_get]
    | getAndTouch mode key =>
      rw [perform_getAndTouch]
      exact ExpiringCache.ttl_lookup s.now key
    | set key value => rfl
  | upkeep u => exact Upkeep.ttl_apply

theorem answer_getAndTouch (mode : ReadMode) (key : String) (s : SharedCache) :
    ((call (.getAndTouch mode key)).perform s).1 =
      some (.ok ((s.live? key).map CacheEntry.value)) := by
  rw [perform_getAndTouch]
  exact congrArg (fun found => some (Except.ok found)) (ExpiringCache.fst_lookup s.state s.now key)

theorem live?_getAndTouch (mode : ReadMode) (key k : String) (s : SharedCache) :
    ((call (.getAndTouch mode key)).perform s).2.live? k =
      if k = key then (s.live? k).map fun e => ⟨e.value, s.now⟩ else s.live? k := by
  rw [perform_getAndTouch]
  exact ExpiringCache.live?_lookup s.now key k

theorem live?_set (key value k : String) (s : SharedCache) :
    ((call (.set key value)).perform s).2.live? k =
      if k = key then if s.state.ttl.isExpired s.now s.now then none else some ⟨value, s.now⟩
      else s.live? k :=
  ExpiringCache.live?_set s.now key value k

theorem live?_clear (k : String) (s : SharedCache) :
    ((upkeep .clear).perform s).2.live? k = none :=
  ExpiringCache.live?_clear s.now k

theorem live?_wait (nanos : Nat) (k : String) (s : SharedCache) :
    ((upkeep (.wait nanos)).perform s).2.live? k = (s.live? k).filter fun e =>
      !s.state.ttl.isExpired e.lastHit (s.now.plus nanos) :=
  ExpiringCache.live?_of_later (Nat.le_add_right _ _)

theorem live?_sweep {moment : Moment} (h : moment.nanos ≤ s.now.nanos) (k : String) :
    ((upkeep (.sweep moment)).perform s).2.live? k = s.live? k :=
  ExpiringCache.live?_sweep h k

end CacheEvent

namespace SharedCache

variable {s t : SharedCache}

theorem LiveAlike.refl (s : SharedCache) : LiveAlike s s := ⟨rfl, rfl, fun _ => rfl⟩

/-- Caches that show the same answer alike, and show the same afterwards. -/
theorem LiveAlike.perform (h : LiveAlike s t) {e : CacheEvent} (he : e.isSweep = false) :
    (e.perform s).1 = (e.perform t).1 ∧ LiveAlike (e.perform s).2 (e.perform t).2 := by
  have httl : (e.perform s).2.state.ttl = (e.perform t).2.state.ttl := by
    rw [CacheEvent.ttl_perform, CacheEvent.ttl_perform, h.ttl]
  cases e with
  | call c =>
    have hnow : ((CacheEvent.call c).perform s).2.now = ((CacheEvent.call c).perform t).2.now := by
      rw [CacheEvent.now_perform_of_call, CacheEvent.now_perform_of_call, h.now]
    cases c with
    | get mode key =>
      rw [CacheEvent.perform_get, CacheEvent.perform_get, h.live]
      exact ⟨rfl, h⟩
    | getAndTouch mode key =>
      rw [CacheEvent.answer_getAndTouch, CacheEvent.answer_getAndTouch, h.live]
      refine ⟨rfl, hnow, httl, fun k => ?_⟩
      rw [CacheEvent.live?_getAndTouch, CacheEvent.live?_getAndTouch, h.live, h.now]
    | set key value =>
      refine ⟨rfl, hnow, httl, fun k => ?_⟩
      rw [CacheEvent.live?_set, CacheEvent.live?_set, h.live, h.now, h.ttl]
  | upkeep u =>
    cases u with
    | sweep moment => simp [CacheEvent.isSweep] at he
    | clear =>
      refine ⟨rfl, h.now, httl, fun k => ?_⟩
      rw [CacheEvent.live?_clear, CacheEvent.live?_clear]
    | wait nanos =>
      refine ⟨rfl, congrArg (Moment.plus · nanos) h.now, httl, fun k => ?_⟩
      rw [CacheEvent.live?_wait, CacheEvent.live?_wait, h.live, h.now, h.ttl]

/-- A sweep that is not ahead of the clock shows on neither side. -/
theorem LiveAlike.sweep (h : LiveAlike s t) {moment : Moment}
    (htimely : moment.nanos ≤ s.now.nanos) :
    LiveAlike ((CacheEvent.upkeep (.sweep moment)).perform s).2 t := by
  refine ⟨h.now, h.ttl, fun k => ?_⟩
  rw [CacheEvent.live?_sweep htimely, h.live]

/-- Without its sweeps a history is that of the events without the sweeps. -/
theorem LiveAlike.filter_history {events : List CacheEvent} (h : LiveAlike s t)
    (htimely : ∀ r ∈ history events s, r.Timely) :
    (history events s).filter (fun r => !r.event.isSweep) =
      history (events.filter fun e => !e.isSweep) t := by
  induction events generalizing s t with
  | nil => rfl
  | cons e es ih =>
    rw [history, List.forall_mem_cons] at htimely
    obtain ⟨hfirst, hrest⟩ := htimely
    cases he : e.isSweep with
    | false =>
      obtain ⟨hanswer, hafter⟩ := h.perform he
      rw [history, List.filter_cons_of_pos (by simp [he]), List.filter_cons_of_pos (by simp [he]),
        history, ih hafter hrest, h.now, hanswer]
    | true =>
      rw [history, List.filter_cons_of_neg (by simp [he]), List.filter_cons_of_neg (by simp [he])]
      match e, he with
      | .upkeep (.sweep moment), _ => exact ih (h.sweep hfirst) hrest

/-! ## What was written and renewed -/

theorem renewals_append (key : String) (h h' : List CacheRecord) :
    renewals key (h ++ h') = renewals key h ++ renewals key h' := by
  simp [renewals]

variable {key value : String} {ts : List Moment} {past : List CacheRecord} {r : CacheRecord}

theorem not_written_nil : ¬Written key value ts [] := by
  rintro ⟨pre, r, post, heq, -⟩
  simp at heq

/-- The last record is the write, or it comes after it and is no end of it. -/
theorem written_concat_iff : Written key value ts (past ++ [r]) ↔
    (r.event = .call (.set key value) ∧ ts = [r.moment]) ∨
      r.event.replaces key = false ∧
        ∃ ts', Written key value ts' past ∧ ts = ts' ++ renewals key [r] := by
  constructor
  · rintro ⟨pre, w, post, heq, hevent, hpost, rfl⟩
    rcases List.eq_nil_or_concat post with rfl | ⟨post', q, rfl⟩
    · obtain ⟨-, hr⟩ := List.append_inj' heq rfl
      obtain rfl := List.singleton_inj.mp hr
      exact Or.inl ⟨hevent, rfl⟩
    · rw [List.concat_eq_append] at *
      rw [← List.cons_append, ← List.append_assoc] at heq
      obtain ⟨hpast, hr⟩ := List.append_inj' heq rfl
      obtain rfl := List.singleton_inj.mp hr
      refine Or.inr ⟨hpost r (by simp), w.moment :: renewals key post',
        ⟨pre, w, post', hpast, hevent, fun q hq => hpost q (by simp [hq]), rfl⟩, ?_⟩
      rw [renewals_append, List.cons_append]
  · rintro (⟨hevent, rfl⟩ | ⟨hkeeps, ts', ⟨pre, w, post, rfl, hevent, hpost, rfl⟩, rfl⟩)
    · exact ⟨past, r, [], rfl, hevent, by simp, rfl⟩
    · refine ⟨pre, w, post ++ [r], by simp, hevent, ?_, ?_⟩
      · simpa [or_imp, forall_and] using ⟨hpost, hkeeps⟩
      · rw [renewals_append, List.cons_append]

/-- A record that has nothing to do with the key. -/
theorem written_concat_of_idle (hkeeps : r.event.replaces key = false)
    (hrenews : r.renews key = false) :
    Written key value ts (past ++ [r]) ↔ Written key value ts past := by
  have hset : r.event ≠ .call (.set key value) := by
    intro h
    simp [h, CacheEvent.replaces] at hkeeps
  simp [written_concat_iff, hkeeps, hset, renewals, hrenews]

/-- A write puts an end to what was written before. -/
theorem written_concat_of_set {v : String} (hset : r.event = .call (.set key v)) :
    Written key value ts (past ++ [r]) ↔ value = v ∧ ts = [r.moment] := by
  simp [written_concat_iff, hset, CacheEvent.replaces, eq_comm]

theorem Written.exists_last (h : Written key value ts past) : ∃ u, ts.getLast? = some u := by
  obtain ⟨-, w, post, -, -, -, rfl⟩ := h
  exact ⟨_, List.getLast?_eq_some_getLast (by simp)⟩

/-- A renewing read that found a value comes after what was written. -/
theorem written_concat_of_renews (hrenews : r.renews key = true) :
    Written key value ts (past ++ [r]) ↔
      ∃ ts', Written key value ts' past ∧ ts = ts' ++ [r.moment] := by
  obtain ⟨moment, event, answer⟩ := r
  have hlast : renewals key [⟨moment, event, answer⟩] = [moment] := by simp [renewals, hrenews]
  have hread : ∃ mode k, event = .call (.getAndTouch mode k) := by
    unfold CacheRecord.renews at hrenews
    split at hrenews
    · exact ⟨_, _, by assumption⟩
    · simp at hrenews
  obtain ⟨mode, k, rfl⟩ := hread
  simp [written_concat_iff, CacheEvent.replaces, hlast]

/-! ## What is live was written and kept -/

/-- The entry is what the past wrote under the key and kept up to the moment, and was
last hit at the last refresh. -/
def Accounted (ttl : Ttl) (key : String) (e : CacheEntry) (past : List CacheRecord)
    (now : Moment) : Prop :=
  ∃ ts, Written key e.value ts past ∧ ts.getLast? = some e.lastHit ∧ Unbroken ttl (ts ++ [now])

/-- The live entries are those that the past accounts for. -/
def Explained (past : List CacheRecord) (s : SharedCache) : Prop :=
  ∀ key e, s.live? key = some e ↔ Accounted s.state.ttl key e past s.now

theorem explained_start (config : CacheConfig) (now : Moment) :
    Explained [] (start config now) := by
  intro key e
  have hempty : (start config now).live? key = none := by
    rw [live?, start, ExpiringCache.live?, ExpiringCache.new, Table.get?_empty, Option.filter_none]
  simp [hempty, Accounted, not_written_nil]

variable {ttl : Ttl} {now : Moment} {e : CacheEntry}

theorem accounted_concat_of_idle (hkeeps : r.event.replaces key = false)
    (hrenews : r.renews key = false) :
    Accounted ttl key e (past ++ [r]) now ↔ Accounted ttl key e past now := by
  simp only [Accounted, written_concat_of_idle hkeeps hrenews]

/-- A write accounts for what is written. -/
theorem accounted_concat_of_set (hset : r.event = .call (.set key value)) :
    Accounted ttl key e (past ++ [r]) r.moment ↔
      e = ⟨value, r.moment⟩ ∧ ¬ttl.Reached r.moment r.moment := by
  simp only [Accounted, written_concat_of_set hset]
  constructor
  · rintro ⟨ts, ⟨hvalue, rfl⟩, hlast, hun⟩
    have hhit : r.moment = e.lastHit := by simpa using hlast
    refine ⟨?_, hun.not_reached (by simp)⟩
    rw [← hvalue, hhit]
  · rintro ⟨rfl, hnot⟩
    exact ⟨[r.moment], ⟨rfl, rfl⟩, rfl, (unbroken_concat_iff rfl).mpr ⟨.singleton _, hnot⟩⟩

theorem not_accounted_of_clear (hclear : r.event = .upkeep .clear) :
    ¬Accounted ttl key e (past ++ [r]) now := by
  simp [Accounted, written_concat_iff, hclear, CacheEvent.replaces]

/-- Time takes what it makes expire. -/
theorem accounted_later_iff {later : Moment} (hlater : now.nanos ≤ later.nanos) :
    Accounted ttl key e past later ↔
      Accounted ttl key e past now ∧ ¬ttl.Reached e.lastHit later := by
  constructor
  · rintro ⟨ts, hwritten, hlast, hun⟩
    exact ⟨⟨ts, hwritten, hlast, hun.shorten hlater⟩, hun.not_reached hlast⟩
  · rintro ⟨⟨ts, hwritten, hlast, hun⟩, hnot⟩
    exact ⟨ts, hwritten, hlast, (unbroken_concat_iff hlast).mpr ⟨hun.of_append, hnot⟩⟩

/-- A renewing read that found a value accounts for the renewed entry. -/
theorem accounted_concat_of_renews (hrenews : r.renews key = true) :
    Accounted ttl key e (past ++ [r]) r.moment ↔
      (∃ u, Accounted ttl key ⟨e.value, u⟩ past r.moment) ∧ e.lastHit = r.moment := by
  simp only [Accounted, written_concat_of_renews hrenews]
  constructor
  · rintro ⟨-, ⟨ts, hwritten, rfl⟩, hlast, hun⟩
    obtain ⟨u, hu⟩ := hwritten.exists_last
    exact ⟨⟨u, ts, hwritten, hu, hun.of_append⟩, by simpa using hlast.symm⟩
  · rintro ⟨⟨u, ts, hwritten, hu, hun⟩, hlast⟩
    refine ⟨ts ++ [r.moment], ⟨ts, hwritten, rfl⟩, by simp [hlast], ?_⟩
    refine (unbroken_concat_iff (t := r.moment) (by simp)).mpr ⟨hun, fun hreached => ?_⟩
    have hnot := hun.not_reached hu
    simp only [Ttl.Reached] at hreached hnot
    omega

namespace Explained

variable (h : Explained past s)

include h

theorem concat_of_idle (hnow : t.now = s.now) (httl : t.state.ttl = s.state.ttl)
    (hlive : t.live? key = s.live? key) (hkeeps : r.event.replaces key = false)
    (hrenews : r.renews key = false) :
    t.live? key = some e ↔ Accounted t.state.ttl key e (past ++ [r]) t.now := by
  rw [hlive, accounted_concat_of_idle hkeeps hrenews, hnow, httl]
  exact h key e

theorem getAndTouch (mode : ReadMode) (k : String) :
    Explained (past ++ [⟨s.now, .call (.getAndTouch mode k),
        ((CacheEvent.call (.getAndTouch mode k)).perform s).1⟩])
      ((CacheEvent.call (.getAndTouch mode k)).perform s).2 := by
  intro key e
  have hnow := CacheEvent.now_perform_of_call (.getAndTouch mode k) s
  have httl := CacheEvent.ttl_perform (.call (.getAndTouch mode k)) s
  have hlive := CacheEvent.live?_getAndTouch mode k key s
  rw [CacheEvent.answer_getAndTouch]
  by_cases hk : key = k
  · subst hk
    rw [if_pos rfl] at hlive
    cases hfound : s.live? key with
    | none =>
      rw [hfound] at hlive
      exact h.concat_of_idle hnow httl (hlive.trans hfound.symm) rfl rfl
    | some found =>
      rw [hlive, hfound, hnow, httl, accounted_concat_of_renews (by simp [CacheRecord.renews])]
      constructor
      · rintro hentry
        obtain rfl : ⟨found.value, s.now⟩ = e := by simpa using hentry
        exact ⟨⟨found.lastHit, (h key found).mp hfound⟩, rfl⟩
      · rintro ⟨⟨u, hu⟩, hlast⟩
        have hsame := ((h key ⟨e.value, u⟩).mpr hu).symm.trans hfound
        obtain rfl := Option.some.inj hsame
        exact congrArg some (congrArg (CacheEntry.mk e.value) hlast.symm)
  · rw [if_neg hk] at hlive
    have hrenews : CacheRecord.renews key ⟨s.now, .call (.getAndTouch mode k),
        some (.ok ((s.live? k).map CacheEntry.value))⟩ = false := by
      cases s.live? k <;> simp [CacheRecord.renews, Ne.symm hk]
    exact h.concat_of_idle hnow httl hlive rfl hrenews

theorem set (hle : s.state.ttl.millis ≤ maxWord64) (k value : String) :
    Explained (past ++ [⟨s.now, .call (.set k value), none⟩])
      ((CacheEvent.call (.set k value)).perform s).2 := by
  intro key e
  have hlive := CacheEvent.live?_set k value key s
  by_cases hk : key = k
  · subst hk
    rw [if_pos rfl] at hlive
    have haccounted : Accounted s.state.ttl key e
        (past ++ [⟨s.now, .call (.set key value), none⟩]) s.now ↔
          e = ⟨value, s.now⟩ ∧ ¬s.state.ttl.Reached s.now s.now := accounted_concat_of_set rfl
    refine Iff.trans ?_ haccounted.symm
    rw [hlive, ← Ttl.isExpired_iff_reached hle]
    cases s.state.ttl.isExpired s.now s.now <;> simp [eq_comm]
  · rw [if_neg hk] at hlive
    exact h.concat_of_idle (by rfl) (by rfl) hlive (by simp [CacheEvent.replaces, Ne.symm hk]) rfl

theorem wait (hle : s.state.ttl.millis ≤ maxWord64) (nanos : Nat) :
    Explained (past ++ [⟨s.now, .upkeep (.wait nanos), none⟩])
      ((CacheEvent.upkeep (.wait nanos)).perform s).2 := by
  intro key e
  have hlater : s.now.nanos ≤ (s.now.plus nanos).nanos := Nat.le_add_right _ _
  have hlive := CacheEvent.live?_wait nanos key s
  rw [hlive, Option.filter_eq_some_iff, h key e, accounted_concat_of_idle rfl rfl]
  refine Iff.trans (and_congr_right' ?_) (accounted_later_iff hlater).symm
  rw [← Ttl.isExpired_iff_reached hle]
  simp

end Explained

/-- An event that is no sweep ahead of the clock keeps the live entries explained. -/
theorem Explained.perform (h : Explained past s) (hle : s.state.ttl.millis ≤ maxWord64)
    {event : CacheEvent} (htimely : CacheRecord.Timely ⟨s.now, event, (event.perform s).1⟩) :
    Explained (past ++ [⟨s.now, event, (event.perform s).1⟩]) (event.perform s).2 := by
  have httl : (event.perform s).2.state.ttl = s.state.ttl := CacheEvent.ttl_perform event s
  cases event with
  | call c =>
    cases c with
    | get mode k =>
      have hnow := CacheEvent.now_perform_of_call (.get mode k) s
      intro key e
      exact h.concat_of_idle hnow httl (by rw [CacheEvent.perform_get]) rfl rfl
    | getAndTouch mode k => exact h.getAndTouch mode k
    | set k value => exact h.set hle k value
  | upkeep u =>
    cases u with
    | sweep moment =>
      intro key e
      have hlive := CacheEvent.live?_sweep htimely key
      exact h.concat_of_idle (by rfl) httl hlive rfl rfl
    | clear =>
      intro key e
      rw [CacheEvent.live?_clear]
      exact iff_of_false (by simp) (not_accounted_of_clear rfl)
    | wait nanos => exact h.wait hle nanos

/-- Before each event of a history the live entries are explained by the past. -/
theorem Explained.history {events : List CacheEvent} (h : Explained past s)
    (hle : s.state.ttl.millis ≤ maxWord64) (htimely : ∀ r ∈ history events s, r.Timely)
    {pre rest : List CacheRecord} (heq : history events s = pre ++ r :: rest) :
    ∃ s', s'.state.ttl = s.state.ttl ∧ Explained (past ++ pre) s' ∧
      r = ⟨s'.now, r.event, (r.event.perform s').1⟩ := by
  induction events generalizing s past pre with
  | nil => simp [SharedCache.history] at heq
  | cons event events ih =>
    rw [SharedCache.history] at heq htimely
    rw [List.forall_mem_cons] at htimely
    obtain ⟨hfirst, hrest⟩ := htimely
    cases pre with
    | nil =>
      obtain ⟨rfl, -⟩ := List.cons.inj heq
      exact ⟨s, rfl, by simpa using h, rfl⟩
    | cons q pre =>
      obtain ⟨rfl, htail⟩ := List.cons.inj heq
      have httl := CacheEvent.ttl_perform event s
      obtain ⟨s', httl', hexplained, hr⟩ :=
        ih (h.perform hle hfirst) (by rw [httl]; exact hle) hrest htail
      exact ⟨s', httl'.trans httl, by simpa using hexplained, hr⟩

/-- A read finds what the past has kept of its key. -/
theorem Explained.answer_iff (h : Explained past s) {event : CacheEvent}
    (hread : event.readKey? = some key) :
    ∃ found, (event.perform s).1 = some (.ok found) ∧
      ∀ value, found = some value ↔ Kept s.state.ttl key value past s.now := by
  have hanswer : (event.perform s).1 = some (.ok ((s.live? key).map CacheEntry.value)) := by
    cases event with
    | call c =>
      cases c with
      | get mode k =>
        obtain rfl : k = key := by simpa [CacheEvent.readKey?] using hread
        rw [CacheEvent.perform_get]
      | getAndTouch mode k =>
        obtain rfl : k = key := by simpa [CacheEvent.readKey?] using hread
        exact CacheEvent.answer_getAndTouch mode k s
      | set k value => simp [CacheEvent.readKey?] at hread
    | upkeep u => simp [CacheEvent.readKey?] at hread
  refine ⟨_, hanswer, fun value => ?_⟩
  rw [Option.map_eq_some_iff]
  constructor
  · rintro ⟨e, hlive, rfl⟩
    obtain ⟨ts, hwritten, -, hun⟩ := (h key e).mp hlive
    exact ⟨ts, hwritten, hun⟩
  · rintro ⟨ts, hwritten, hun⟩
    obtain ⟨u, hu⟩ := hwritten.exists_last
    exact ⟨⟨value, u⟩, (h key ⟨value, u⟩).mpr ⟨ts, hwritten, hu, hun⟩, rfl⟩

end SharedCache

/-! ## One sweep -/

namespace ExpiringCache

variable {c : ExpiringCache} {moment earlier : Moment}

/-- What goes is what is expired. -/
theorem expiredCount_eq (c : ExpiringCache) (moment : Moment) : c.expiredCount moment =
    (c.entries.entries.filter fun e => c.ttl.isExpired e.2.lastHit moment).length := by
  have hsum := List.length_eq_length_filter_add (l := c.entries.entries)
    fun e => c.ttl.isExpired e.2.lastHit moment
  simp only [expiredCount, size, Table.size, sweep, Table.filter]
  omega

/-- A second sweep as of no later moment finds nothing. -/
theorem sweep_sweep (h : earlier.nanos ≤ moment.nanos) :
    (c.sweep moment).sweep earlier = c.sweep moment := by
  have hentries : ((c.sweep moment).sweep earlier).entries = (c.sweep moment).entries := by
    refine Table.ext_entries (List.filter_eq_self.mpr fun e he => ?_)
    obtain ⟨-, hfresh⟩ := List.mem_filter.mp he
    rw [Bool.not_eq_true'] at hfresh ⊢
    exact Ttl.isFresh_of_later (Nat.le_refl _) h hfresh
  exact congrArg (ExpiringCache.mk c.name c.ttl) hentries

theorem expiredCount_sweep (h : earlier.nanos ≤ moment.nanos) :
    (c.sweep moment).expiredCount earlier = 0 := by
  rw [expiredCount, sweep_sweep h, Nat.sub_self]

/-- The report of a sweep is a note if something went, and else nothing. -/
theorem level_sweepLog (c : ExpiringCache) (moment : Moment) :
    (c.sweepLog moment).map LogLine.level = if 0 < c.expiredCount moment then [.note] else [] := by
  unfold sweepLog
  by_cases hcount : c.expiredCount moment = 0
  · simp [hcount]
  · simp [hcount, Nat.pos_of_ne_zero hcount]

end ExpiringCache

/-! ## Sweeps do not show -/

namespace SharedCache

/-- A renewing read that finds nothing leaves the cache as it is. -/
theorem perform_getAndTouch_of_none {mode : ReadMode} {key : String} {s : SharedCache}
    (h : ((CacheEvent.call (.getAndTouch mode key)).perform s).1 = some (.ok none)) :
    ((CacheEvent.call (.getAndTouch mode key)).perform s).2 = s := by
  rw [CacheEvent.answer_getAndTouch] at h
  have hlive : s.state.live? s.now key = none := by simpa [live?] using h
  simp [CacheEvent.perform_getAndTouch, Clocked.lookup, ExpiringCache.lookup_of_not_live hlive]

/-- Sweeps that are not ahead of the clock change no answer : each read finds the value of
the latest write of its key since the cache was cleared, if no interval between the
refreshes of the entry or from the last of them to the read reaches the lifetime. Plain
reads and reads that find nothing refresh nothing, and a sweep removes the expired entries
and no others. -/
theorem sweeps_unobservable (config : CacheConfig) (now : Moment) (events : List CacheEvent)
    (htimely : ∀ r ∈ history events (start config now), r.Timely) :
    (history events (start config now)).filter (fun r => !r.event.isSweep) =
        history (events.filter fun e => !e.isSweep) (start config now) ∧
    (∀ past r rest key, history events (start config now) = past ++ r :: rest →
      r.event.readKey? = some key →
      ∃ found, r.answer = some (.ok found) ∧ ∀ value, found = some value ↔
        Kept (.ofSeconds config.expirationSecs) key value past r.moment) ∧
    (∀ mode key s, ((CacheEvent.call (.get mode key)).perform s).2 = s ∧
      (((CacheEvent.call (.getAndTouch mode key)).perform s).1 = some (.ok none) →
        ((CacheEvent.call (.getAndTouch mode key)).perform s).2 = s)) ∧
    ∀ (c : ExpiringCache) moment,
      (∀ key e, (c.sweep moment).entries.get? key = some e ↔
        c.entries.get? key = some e ∧ c.ttl.isExpired e.lastHit moment = false) ∧
      c.expiredCount moment =
        (c.entries.entries.filter fun e => c.ttl.isExpired e.2.lastHit moment).length ∧
      (c.sweepLog moment).map LogLine.level =
        (if 0 < c.expiredCount moment then [.note] else []) ∧
      ∀ earlier : Moment, earlier.nanos ≤ moment.nanos →
        (c.sweep moment).sweep earlier = c.sweep moment ∧
          (c.sweep moment).expiredCount earlier = 0 := by
  refine ⟨(LiveAlike.refl _).filter_history htimely, ?_, ?_, ?_⟩
  · intro past r rest key heq hread
    have hle : (start config now).state.ttl.millis ≤ maxWord64 := Ttl.millis_ofSeconds_le _
    obtain ⟨s, httl, hexplained, hr⟩ := (explained_start config now).history hle htimely heq
    rw [hr]
    rw [← show s.state.ttl = .ofSeconds config.expirationSecs from httl]
    exact hexplained.answer_iff hread
  · intro mode key s
    exact ⟨by rw [CacheEvent.perform_get], perform_getAndTouch_of_none⟩
  · intro c moment
    refine ⟨fun key e => ?_, c.expiredCount_eq moment, c.level_sweepLog moment, fun earlier h =>
      ⟨ExpiringCache.sweep_sweep h, ExpiringCache.expiredCount_sweep h⟩⟩
    rw [ExpiringCache.get?_sweep, Option.filter_eq_some_iff, Bool.not_eq_true']

/-- A value that is renewed between two sweeps and expires before a third. -/
def sampleEvents : List CacheEvent :=
  [.call (.set "a" "r"), .upkeep (.wait 600000000), .upkeep (.sweep ⟨600000000⟩),
    .call (.getAndTouch .async "a"), .upkeep (.wait 600000000), .upkeep (.sweep ⟨1200000000⟩),
    .call (.get .blocking "a"), .upkeep (.wait 400000000), .upkeep (.sweep ⟨1600000000⟩),
    .call (.get .blocking "a")]

/-- Its reads find it, find it again, and find it gone, with the sweeps and without. -/
theorem sampleEvents_unobservable :
    (∀ r ∈ history sampleEvents (start ⟨"ct", 1⟩ ⟨0⟩), r.Timely) ∧
      (history sampleEvents (start ⟨"ct", 1⟩ ⟨0⟩)).filter (fun r => !r.event.isSweep) =
        history (sampleEvents.filter fun e => !e.isSweep) (start ⟨"ct", 1⟩ ⟨0⟩) ∧
      (history sampleEvents (start ⟨"ct", 1⟩ ⟨0⟩)).filterMap CacheRecord.answer =
        [.ok (some "r"), .ok (some "r"), .ok none] := by
  have htimely : ∀ r ∈ history sampleEvents (start ⟨"ct", 1⟩ ⟨0⟩), r.Timely := by decide
  obtain ⟨hfilter, -⟩ := sweeps_unobservable ⟨"ct", 1⟩ ⟨0⟩ sampleEvents htimely
  exact ⟨htimely, hfilter, rfl⟩

end SharedCache

end FlowRules
