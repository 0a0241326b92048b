import FlowRules.Tracking.ExpiringCache
import Mathlib.Data.List.Chain
import Mathlib.Tactic.ByContra

/-!
# When entries expire, and what the operations leave of an entry

The milliseconds between two moments are those of the nanoseconds between them, cut at
the greatest word of 64 bits (`Moment.millisSince_eq`). So an entry is expired once
the nanoseconds since its last hit reach the lifetime (`Ttl.isExpired_iff_reached`), and it
stays expired as time goes on (`Ttl.isExpired_mono`). Moments that follow each other are
`Unbroken` if no interval between them reaches the lifetime.

What one operation of an expiring cache leaves under a key is said by one equation for
each operation, and so is what it leaves of the live entries, which are all that readers
see (`ExpiringCache.live?`).
-/

namespace FlowRules

/-! ## Time -/

theorem saturate_saturate_add (m n : Nat) : saturate (saturate m + n) = saturate (m + n) := by
  simp only [saturate]
  omega

theorem saturate_mono {m n : Nat} (h : m ≤ n) : saturate m ≤ saturate n := by
  simp only [saturate]
  omega

/-- Seconds and what is left over make the elapsed milliseconds. -/
theorem Moment.millisSince_eq (t earlier : Moment) :
    t.millisSince earlier = saturate ((t.nanos - earlier.nanos) / nanosPerMilli) := by
  simp only [millisSince, saturate_saturate_add]
  congr 1
  simp only [nanosPerSecond, nanosPerMilli, millisPerSecond]
  omega

namespace Ttl

/-- The nanoseconds from one moment to another reach the lifetime. -/
def Reached (ttl : Ttl) (t u : Moment) : Prop := ttl.millis * nanosPerMilli ≤ u.nanos - t.nanos

instance (ttl : Ttl) (t u : Moment) : Decidable (ttl.Reached t u) :=
  inferInstanceAs (Decidable (_ ≤ _))

/-- An entry that is expired stays so, and an older one is expired as well. -/
theorem isExpired_mono {ttl : Ttl} {t t' u u' : Moment} (ht : t'.nanos ≤ t.nanos)
    (hu : u.nanos ≤ u'.nanos) (h : ttl.isExpired t u = true) : ttl.isExpired t' u' = true := by
  simp only [isExpired, decide_eq_true_eq, Moment.millisSince_eq] at h ⊢
  exact Nat.le_trans h (saturate_mono (Nat.div_le_div_right (by omega)))

theorem isFresh_of_later {ttl : Ttl} {t t' u u' : Moment} (ht : t'.nanos ≤ t.nanos)
    (hu : u.nanos ≤ u'.nanos) (h : ttl.isExpired t' u' = false) : ttl.isExpired t u = false := by
  by_contra hexp
  rw [Bool.not_eq_false] at hexp
  rw [isExpired_mono ht hu hexp] at h
  simp at h

/-- The lifetime of some seconds fits a word. -/
theorem millis_ofSeconds_le (seconds : BitVec 64) : (ofSeconds seconds).millis ≤ maxWord64 :=
  Nat.min_le_right _ _

/-- An entry is expired once its lifetime is reached. -/
theorem isExpired_iff_reached {ttl : Ttl} (hle : ttl.millis ≤ maxWord64) {t u : Moment} :
    ttl.isExpired t u = true ↔ ttl.Reached t u := by
  have hpos : 0 < nanosPerMilli := by decide
  simp only [isExpired, decide_eq_true_eq, Moment.millisSince_eq, Reached, saturate,
    Nat.le_min, hle, and_true, Nat.le_div_iff_mul_le hpos]

/-- Only a lifetime of zero ends at once. -/
theorem isExpired_self {ttl : Ttl} {t : Moment} : ttl.isExpired t t = false ↔ ttl.millis ≠ 0 := by
  simp [isExpired, Moment.millisSince_eq, saturate]

theorem isFresh_self {ttl : Ttl} {t u v : Moment} (h : ttl.isExpired t u = false) :
    ttl.isExpired v v = false := by
  rw [isExpired_self]
  intro hzero
  simp [isExpired, hzero] at h

theorem millis_ofSeconds_ne_zero {seconds : BitVec 64} :
    (ofSeconds seconds).millis ≠ 0 ↔ seconds ≠ 0 := by
  have hmax : 0 < maxWord64 := by decide
  have hzero : seconds ≠ 0 ↔ seconds.toNat ≠ 0 := by simp [← BitVec.toNat_inj]
  simp only [hzero, ofSeconds, saturate, millisPerSecond]
  omega

end Ttl

/-! ## Moments that follow each other -/

/-- No interval between a moment and the next reaches the lifetime. -/
def Unbroken (ttl : Ttl) (ts : List Moment) : Prop := ts.IsChain fun t u => ¬ttl.Reached t u

instance (ttl : Ttl) (ts : List Moment) : Decidable (Unbroken ttl ts) :=
  inferInstanceAs (Decidable (ts.IsChain _))

theorem Unbroken.of_append {ttl : Ttl} {ts us : List Moment} (h : Unbroken ttl (ts ++ us)) :
    Unbroken ttl ts := (List.isChain_append.mp h).1

/-- The last interval may end earlier. -/
theorem Unbroken.shorten {ttl : Ttl} {ts : List Moment} {u v : Moment}
    (h : Unbroken ttl (ts ++ [v])) (huv : u.nanos ≤ v.nanos) : Unbroken ttl (ts ++ [u]) := by
  obtain ⟨hts, -, hlast⟩ := List.isChain_append.mp h
  refine List.isChain_append.mpr ⟨hts, List.isChain_singleton u, ?_⟩
  intro t ht x hx hreached
  obtain rfl : u = x := by simpa using hx
  refine hlast t ht v (by simp) ?_
  simp only [Ttl.Reached] at hreached ⊢
  omega

theorem unbroken_concat_iff {ttl : Ttl} {ts : List Moment} {t u : Moment}
    (ht : ts.getLast? = some t) :
    Unbroken ttl (ts ++ [u]) ↔ Unbroken ttl ts ∧ ¬ttl.Reached t u := by
  simp [Unbroken, List.isChain_append, ht]

theorem Unbroken.not_reached {ttl : Ttl} {ts : List Moment} {t u : Moment}
    (h : Unbroken ttl (ts ++ [u])) (ht : t ∈ ts.getLast?) : ¬ttl.Reached t u :=
  (List.isChain_append.mp h).2.2 t ht u (by simp)

/-! ## Entries -/

theorem Table.get?_filter {κ ν : Type} [Ord κ] [Std.LawfulEqOrd κ] (keep : κ → ν → Bool)
    (t : Table κ ν) (k : κ) : (t.filter keep).get? k = (t.get? k).filter (keep k) := by
  apply Option.ext
  intro v
  rw [get?_eq_some_iff, Option.filter_eq_some_iff, get?_eq_some_iff, filter, List.mem_filter]

/-- What a read leaves of the entry under its key. -/
def CacheEntry.renewed (ttl : Ttl) (now : Moment) (e : CacheEntry) : CacheEntry :=
  if ttl.isExpired e.lastHit now then e else ⟨e.value, now⟩

namespace ExpiringCache

variable {c : ExpiringCache} {now : Moment} {key k : String} {e : CacheEntry}

theorem live?_eq_some_iff : c.live? now key = some e ↔
    c.entries.get? key = some e ∧ c.ttl.isExpired e.lastHit now = false := by
  simp [live?, Option.filter_eq_some_iff]

/-- A read of a live entry renews it. -/
theorem lookup_of_live (h : c.live? now key = some e) : c.lookup true now key =
    (some e.value, { c with entries := c.entries.insert key ⟨e.value, now⟩ }) := by
  simp [lookup, h]

/-- A read of anything else changes nothing. -/
theorem lookup_of_not_live (h : c.live? now key = none) : c.lookup true now key = (none, c) := by
  simp [lookup, h]

/-- A read that does not renew changes nothing. -/
theorem lookup_false (c : ExpiringCache) (now : Moment) (key : String) :
    c.lookup false now key = ((c.live? now key).map CacheEntry.value, c) := by
  cases hl : c.live? now key <;> simp [lookup, hl]

theorem get?_set (now : Moment) (key value k : String) :
    (c.set now key value).entries.get? k =
      if k = key then some ⟨value, now⟩ else c.entries.get? k :=
  Table.get?_insert c.entries key k ⟨value, now⟩

theorem get?_sweep (now : Moment) (k : String) : (c.sweep now).entries.get? k =
    (c.entries.get? k).filter fun e => !c.ttl.isExpired e.lastHit now :=
  Table.get?_filter _ c.entries k

theorem get?_clear (k : String) : c.clear.entries.get? k = none := Table.get?_empty k

theorem get?_lookup (c : ExpiringCache) (now : Moment) (key k : String) :
    (c.lookup true now key).2.entries.get? k =
      if k = key then (c.entries.get? k).map (CacheEntry.renewed c.ttl now)
      else c.entries.get? k := by
  cases hl : c.live? now key with
  | none =>
    rw [lookup_of_not_live hl]
    by_cases hk : k = key
    · subst hk
      cases hget : c.entries.get? k with
      | none => simp
      | some e =>
        have hexp : c.ttl.isExpired e.lastHit now = true := by simpa [live?, hget] using hl
        simp [CacheEntry.renewed, hexp]
    · rw [if_neg hk]
  | some e =>
    obtain ⟨hget, hexp⟩ := live?_eq_some_iff.mp hl
    rw [lookup_of_live hl, Table.get?_insert]
    by_cases hk : k = key
    · subst hk
      rw [if_pos rfl, if_pos rfl, hget, Option.map_some, CacheEntry.renewed, hexp,
        if_neg Bool.false_ne_true]
    · rw [if_neg hk, if_neg hk]

/-- The value that a read finds. -/
theorem fst_lookup (c : ExpiringCache) (now : Moment) (key : String) :
    (c.lookup true now key).1 = (c.live? now key).map CacheEntry.value := by
  cases hl : c.live? now key with
  | none => rw [lookup_of_not_live hl, Option.map_none]
  | some e => rw [lookup_of_live hl, Option.map_some]

/-! ### What readers see -/

theorem live?_of_later {later : Moment} (h : now.nanos ≤ later.nanos) :
    c.live? later key = (c.live? now key).filter fun e => !c.ttl.isExpired e.lastHit later := by
  apply Option.ext
  intro e
  simp only [live?_eq_some_iff, Option.filter_eq_some_iff, Bool.not_eq_true', and_assoc]
  constructor
  · rintro ⟨hget, hfresh⟩
    exact ⟨hget, Ttl.isFresh_of_later (Nat.le_refl _) h hfresh, hfresh⟩
  · rintro ⟨hget, -, hfresh⟩
    exact ⟨hget, hfresh⟩

theorem live?_set (now : Moment) (key value k : String) : (c.set now key value).live? now k =
    if k = key then if c.ttl.isExpired now now then none else some ⟨value, now⟩
    else c.live? now k := by
  have httl : (c.set now key value).ttl = c.ttl := rfl
  rw [live?, get?_set, httl]
  by_cases hk : k = key
  · cases hexp : c.ttl.isExpired now now <;> simp [hk, Option.filter_some, hexp]
  · simp [hk, live?]

theorem live?_clear (now : Moment) (k : String) : c.clear.live? now k = none := by
  rw [live?, get?_clear, Option.filter_none]

/-- A sweep that is not ahead of the clock takes nothing from readers. -/
theorem live?_sweep {moment : Moment} (h : moment.nanos ≤ now.nanos) (k : String) :
    (c.sweep moment).live? now k = c.live? now k := by
  have httl : (c.sweep moment).ttl = c.ttl := rfl
  apply Option.ext
  intro e
  simp only [live?_eq_some_iff, get?_sweep, httl, Option.filter_eq_some_iff, Bool.not_eq_true']
  constructor
  · rintro ⟨⟨hget, -⟩, hfresh⟩
    exact ⟨hget, hfresh⟩
  · rintro ⟨hget, hfresh⟩
    exact ⟨⟨hget, Ttl.isFresh_of_later (Nat.le_refl _) h hfresh⟩, hfresh⟩

theorem ttl_lookup (now : Moment) (key : String) : (c.lookup true now key).2.ttl = c.ttl := by
  cases hl : c.live? now key with
  | none => rw [lookup_of_not_live hl]
  | some e => rw [lookup_of_live hl]

theorem live?_lookup (now : Moment) (key k : String) : (c.lookup true now key).2.live? now k =
    if k = key then (c.live? now k).map fun e => ⟨e.value, now⟩ else c.live? now k := by
  rw [live?, ttl_lookup, get?_lookup]
  by_cases hk : k = key
  · rw [if_pos hk, if_pos hk]
    cases hget : c.entries.get? k with
    | none => simp [live?, hget]
    | some e =>
      cases hexp : c.ttl.isExpired e.lastHit now with
      | false =>
        have hself : c.ttl.isExpired now now = false := Ttl.isFresh_self hexp
        simp [live?, hget, CacheEntry.renewed, Option.filter_some, hexp, hself]
      | true => simp [live?, hget, CacheEntry.renewed, Option.filter_some, hexp]
  · rw [if_neg hk, if_neg hk, live?]

end ExpiringCache

end FlowRules
