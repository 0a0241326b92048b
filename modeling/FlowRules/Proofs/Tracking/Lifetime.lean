import FlowRules.Proofs.Tracking.Sweeping
import Mathlib.Order.Monotone.Defs

/-!
# Lifetimes up to the greatest word

Spans and lifetimes are counted in milliseconds, in words of 64 bits. A product or a sum
that does not fit stays at the greatest word (`satMul`, `satAdd`), so nothing wraps, and the
words are the numbers cut there : of a span of full seconds and nanoseconds
(`Span.toNat_millis`), and of a lifetime of seconds (`Ttl.millis_ofSeconds`). An entry is
expired exactly if the one number reaches the other. For a lifetime that fits this is the
case from the nanosecond on that completes its last second.

No event changes the lifetime of a cache (`SharedCache.ttl_after`), so what a cache says of
its expiration is always said of the configured seconds.
-/

namespace FlowRules

/-! ## Words that do not wrap -/

/-- A number is cut at the greatest word. -/
theorem saturate_eq_min (n : Nat) : saturate n = min n (2 ^ 64 - 1) := by
  have hmax : maxWord64 = 2 ^ 64 - 1 := by decide
  rw [saturate, hmax]

section Saturating

variable {w : Nat}

/-- The word, or the greatest one if there was an overflow. -/
def unlessOver (overflow : Bool) (x : BitVec w) : BitVec w :=
  if overflow then BitVec.allOnes w else x

/-- The product of two words, or the greatest word if the product does not fit. -/
def satMul (x y : BitVec w) : BitVec w := unlessOver (BitVec.umulOverflow x y) (x * y)

/-- The sum of two words, or the greatest word if the sum does not fit. -/
def satAdd (x y : BitVec w) : BitVec w := unlessOver (BitVec.uaddOverflow x y) (x + y)

end Saturating

/-- If the overflow is that of a number, and the word what is left of the number, they make
the number cut at the greatest word. -/
theorem toNat_unlessOver {n : Nat} {overflow : Bool} {x : BitVec 64}
    (hoverflow : overflow = decide (2 ^ 64 ≤ n)) (hx : x.toNat = n % 2 ^ 64) :
    (unlessOver overflow x).toNat = saturate n := by
  rw [unlessOver, hoverflow, saturate_eq_min]
  by_cases h : 2 ^ 64 ≤ n
  · rw [decide_eq_true h, if_pos rfl, BitVec.toNat_allOnes]
    omega
  · rw [decide_eq_false h, if_neg Bool.false_ne_true, hx]
    omega

theorem toNat_satMul (x y : BitVec 64) : (satMul x y).toNat = saturate (x.toNat * y.toNat) :=
  toNat_unlessOver rfl (BitVec.toNat_mul x y)

theorem toNat_satAdd (x y : BitVec 64) : (satAdd x y).toNat = saturate (x.toNat + y.toNat) :=
  toNat_unlessOver rfl (BitVec.toNat_add x y)

/-! ## Spans of time -/

/-- A span of time : full seconds, and the nanoseconds that are left over. -/
structure Span where
  seconds : BitVec 64
  nanos : Nat
  nanos_lt : nanos < nanosPerSecond

namespace Span

/-- The span in nanoseconds. -/
def length (d : Span) : Nat := d.seconds.toNat * nanosPerSecond + d.nanos

/-- The full milliseconds of the span, as far as they fit. -/
def millis (d : Span) : BitVec 64 :=
  satAdd (satMul d.seconds (BitVec.ofNat 64 millisPerSecond))
    (BitVec.ofNat 64 (d.nanos / nanosPerMilli))

theorem toNat_millis (d : Span) : d.millis.toNat = saturate (d.length / nanosPerMilli) := by
  have hnanos := d.nanos_lt
  have hrest : d.nanos / nanosPerMilli % 2 ^ 64 = d.nanos / nanosPerMilli := by
    simp only [nanosPerSecond, nanosPerMilli] at hnanos ⊢
    omega
  rw [millis, toNat_satAdd, toNat_satMul, saturate_saturate_add, BitVec.toNat_ofNat,
    BitVec.toNat_ofNat, hrest]
  congr 1
  simp only [length, nanosPerSecond, nanosPerMilli, millisPerSecond]
  omega

end Span

/-! ## Lifetimes -/

namespace Ttl

variable {s : BitVec 64} {last now : Moment}

theorem millis_ofSeconds (s : BitVec 64) :
    (ofSeconds s).millis = min (1000 * s.toNat) (2 ^ 64 - 1) := by
  rw [ofSeconds, saturate_eq_min, millisPerSecond, Nat.mul_comm]

theorem isExpired_ofSeconds_iff : (ofSeconds s).isExpired last now = true ↔
    min (1000 * s.toNat) (2 ^ 64 - 1) ≤
      min ((now.nanos - last.nanos) / 1000000) (2 ^ 64 - 1) := by
  rw [isExpired, decide_eq_true_iff, millis_ofSeconds, Moment.millisSince_eq, saturate_eq_min,
    nanosPerMilli]

/-- Words that do not wrap say the same. -/
theorem isExpired_ofSeconds_eq {d : Span} (hd : d.length = now.nanos - last.nanos) :
    (ofSeconds s).isExpired last now = (satMul s 1000).ule d.millis := by
  have hlifetime : (ofSeconds s).millis = (satMul s 1000).toNat := (toNat_satMul s 1000).symm
  have helapsed : now.millisSince last = d.millis.toNat := by
    rw [Moment.millisSince_eq, Span.toNat_millis, hd]
  rw [isExpired, hlifetime, helapsed]
  rfl

/-- If the lifetime fits, the entry expires with its last nanosecond. -/
theorem isExpired_ofSeconds_iff_of_le (h : s.toNat ≤ (2 ^ 64 - 1) / 1000) :
    (ofSeconds s).isExpired last now = true ↔
      s.toNat * 1000000000 ≤ now.nanos - last.nanos := by
  have hfits : 1000 * s.toNat ≤ 2 ^ 64 - 1 := by omega
  rw [isExpired_iff_reached (millis_ofSeconds_le s), Reached, millis_ofSeconds,
    Nat.min_eq_left hfits, nanosPerMilli]
  omega

theorem isExpired_ofSeconds_zero (last now : Moment) :
    (ofSeconds 0).isExpired last now = true := by
  simp [isExpired_ofSeconds_iff]

theorem monotone_isExpired (ttl : Ttl) (last : Moment) :
    Monotone fun now : Nat => ttl.isExpired last ⟨now⟩ :=
  fun _ _ hle => isExpired_mono (Nat.le_refl _) hle

theorem antitone_isExpired (ttl : Ttl) (now : Moment) :
    Antitone fun last : Nat => ttl.isExpired ⟨last⟩ now :=
  fun _ _ hle => isExpired_mono hle (Nat.le_refl _)

theorem seconds_ofSeconds (s : BitVec 64) :
    (ofSeconds s).seconds = min s.toNat ((2 ^ 64 - 1) / 1000) := by
  rw [seconds, millis_ofSeconds, millisPerSecond]
  omega

end Ttl

/-! ## The lifetime of a cache -/

namespace SharedCache

/-- The cache after the events. -/
def after (s : SharedCache) (events : List CacheEvent) : SharedCache :=
  events.foldl (fun t e => (e.perform t).2) s

/-- No event changes the lifetime. -/
theorem ttl_after (s : SharedCache) (events : List CacheEvent) :
    (s.after events).state.ttl = s.state.ttl := by
  induction events generalizing s with
  | nil => rfl
  | cons e es ih => exact (ih (e.perform s).2).trans (CacheEvent.ttl_perform e s)

theorem expirationSecs_after (config : CacheConfig) (now : Moment) (events : List CacheEvent) :
    ExpiringCache.cache.expirationSecs ((start config now).after events) =
      min config.expirationSecs.toNat ((2 ^ 64 - 1) / 1000) := by
  show ((start config now).after events).state.ttl.seconds = _
  rw [ttl_after]
  exact Ttl.seconds_ofSeconds config.expirationSecs

end SharedCache

namespace Ttl

/-- An entry with a lifetime of some seconds is expired exactly if the elapsed milliseconds
reach those of the lifetime, both cut at the greatest word, and words that do not wrap
compute the same. A lifetime that fits ends as its last second is completed, one of zero at
once, and even before. An expired entry stays so, and an older one is expired as well. After
any events a cache gives the seconds as its expiration, cut where they no longer fit. -/
theorem ofSeconds_exact (s : BitVec 64) :
    (∀ last now : Moment, (ofSeconds s).isExpired last now = true ↔
      min (1000 * s.toNat) (2 ^ 64 - 1) ≤
        min ((now.nanos - last.nanos) / 1000000) (2 ^ 64 - 1)) ∧
    (∀ (last now : Moment) (d : Span), d.length = now.nanos - last.nanos →
      (ofSeconds s).isExpired last now = (satMul s 1000).ule d.millis) ∧
    (s.toNat ≤ (2 ^ 64 - 1) / 1000 → ∀ last now : Moment,
      (ofSeconds s).isExpired last now = true ↔
        s.toNat * 1000000000 ≤ now.nanos - last.nanos) ∧
    (∀ last now : Moment, (ofSeconds 0).isExpired last now = true) ∧
    (∀ last : Moment, Monotone fun now : Nat => (ofSeconds s).isExpired last ⟨now⟩) ∧
    (∀ now : Moment, Antitone fun last : Nat => (ofSeconds s).isExpired ⟨last⟩ now) ∧
    ∀ (name : String) (now : Moment) (events : List CacheEvent),
      ExpiringCache.cache.expirationSecs ((SharedCache.start ⟨name, s⟩ now).after events) =
        min s.toNat ((2 ^ 64 - 1) / 1000) :=
  ⟨fun _ _ => isExpired_ofSeconds_iff, fun _ _ _ => isExpired_ofSeconds_eq,
    fun h _ _ => isExpired_ofSeconds_iff_of_le h, isExpired_ofSeconds_zero,
    monotone_isExpired _, antitone_isExpired _, fun _ => SharedCache.expirationSecs_after _⟩

/-- The greatest number of seconds whose milliseconds fit a word. -/
def greatestSeconds : BitVec 64 := 18446744073709551

/-- Its lifetime ends as the last second is completed, and not a nanosecond before. -/
theorem greatestSeconds_exact :
    greatestSeconds.toNat ≤ (2 ^ 64 - 1) / 1000 ∧
      (ofSeconds greatestSeconds).isExpired ⟨7⟩ ⟨18446744073709551000000006⟩ = false ∧
      (ofSeconds greatestSeconds).isExpired ⟨7⟩ ⟨18446744073709551000000007⟩ = true ∧
      (⟨greatestSeconds, 0, by decide⟩ : Span).length = 18446744073709551000000007 - 7 ∧
      (satMul greatestSeconds 1000).ule (⟨greatestSeconds, 0, by decide⟩ : Span).millis = true := by
  obtain ⟨-, hwords, hfits, -⟩ := ofSeconds_exact greatestSeconds
  have hle : greatestSeconds.toNat ≤ (2 ^ 64 - 1) / 1000 := by decide
  have hend := (hfits hle ⟨7⟩ ⟨18446744073709551000000007⟩).mpr (by decide)
  refine ⟨hle, ?_, hend, by decide, ?_⟩
  · rw [← Bool.not_eq_true, hfits hle]
    decide
  · rw [← hwords ⟨7⟩ ⟨18446744073709551000000007⟩ _ (by decide)]
    exact hend

end Ttl

end FlowRules
