import FlowRules.Text.Numeral
import FlowRules.Word
import Mathlib.Tactic.IntervalCases

/-!
# Numerals read back

Digits written for a number in a base up to sixteen are read back as the number
(`ofDigits?_toDigits`), also after zeros in front (`ofDigits?_hexDigits`). So two
numbers with the same numeral are equal, and a character that is no digit stands in no
numeral, which is what lets numerals be joined with separators.
-/

namespace FlowRules

theorem digitValue?_digitChar {base d : Nat} (hd : d < base) (hbase : base ≤ 16) :
    digitValue? base (Nat.digitChar d) = some d := by
  have h16 : d < 16 := by omega
  unfold digitValue?
  interval_cases d <;> exact Option.filter_eq_some_iff.mpr ⟨rfl, by simpa using hd⟩

/-- Reading the digits of a number after others shifts these and adds the number. -/
theorem foldlM_addDigit?_toDigits {base : Nat} (hone : 1 < base) (hbase : base ≤ 16) (n acc : Nat) :
    (Nat.toDigits base n).foldlM (addDigit? base) acc =
      some (acc * base ^ (Nat.toDigits base n).length + n) := by
  induction n using Nat.strongRecOn with
  | ind n ih =>
    rcases Nat.lt_or_ge n base with hlt | hge
    · rw [Nat.toDigits_of_lt_base hlt]
      simp [addDigit?, digitValue?_digitChar hlt hbase]
    · have hdiv : n / base < n := Nat.div_lt_self (by omega) hone
      have hmod : n % base < base := Nat.mod_lt n (by omega)
      rw [Nat.toDigits_of_base_le hone hge, List.foldlM_append, ih _ hdiv]
      have hn := Nat.div_add_mod n base
      simp only [Option.bind_eq_bind, Option.bind_some, List.foldlM_cons, List.foldlM_nil,
        addDigit?, digitValue?_digitChar hmod hbase, Option.map_some, Option.pure_def,
        List.length_append, List.length_cons, List.length_nil, Option.some.injEq]
      rw [Nat.pow_succ, Nat.add_mul, Nat.mul_assoc, Nat.mul_comm (n / base) base]
      omega

/-- The digits of a number are read as the number. -/
theorem ofDigits?_toDigits {base : Nat} (hone : 1 < base) (hbase : base ≤ 16) (n : Nat) :
    ofDigits? base (Nat.toDigits base n) = some n := by
  have hread := foldlM_addDigit?_toDigits hone hbase n 0
  cases hds : Nat.toDigits base n with
  | nil => exact absurd hds Nat.toDigits_ne_nil
  | cons d ds =>
    rw [hds] at hread
    simpa [ofDigits?] using hread

/-- Zeros in front count nothing. -/
theorem foldlM_addDigit?_zeros {base : Nat} (hpos : 0 < base) (hbase : base ≤ 16) (k : Nat)
    (ds : List Char) :
    (List.replicate k '0' ++ ds).foldlM (addDigit? base) 0 = ds.foldlM (addDigit? base) 0 := by
  have hval : digitValue? base '0' = some 0 := digitValue?_digitChar hpos hbase
  have hzero : addDigit? base 0 '0' = some 0 := by simp [addDigit?, hval]
  induction k with
  | zero => rfl
  | succ k ih => simpa [List.replicate_succ, hzero] using ih

theorem hexDigits_ne_nil (width n : Nat) : hexDigits width n ≠ [] := by
  simp [hexDigits]

/-- Hexadecimal digits are read back, whatever the width. -/
theorem ofDigits?_hexDigits (width n : Nat) : ofDigits? 16 (hexDigits width n) = some n := by
  have hread := foldlM_addDigit?_toDigits (by decide : 1 < 16) (by decide) n 0
  rw [← foldlM_addDigit?_zeros (by decide) (by decide) (width - (Nat.toDigits 16 n).length)]
    at hread
  have hne := hexDigits_ne_nil width n
  unfold hexDigits at hne ⊢
  cases hds : List.replicate (width - (Nat.toDigits 16 n).length) '0' ++ Nat.toDigits 16 n with
  | nil => exact absurd hds hne
  | cons d ds =>
    rw [hds] at hread
    simpa [ofDigits?] using hread

/-- As many digits as the width, if they are enough for the number. -/
theorem length_hexDigits {width n : Nat} (hpos : 0 < width) (h : n < 16 ^ width) :
    (hexDigits width n).length = width := by
  have := (Nat.length_toDigits_le_iff (by decide : 1 < 16) hpos).mpr h
  simp [hexDigits]
  omega

/-! ## Characters of numerals -/

/-- A test that every character of ASCII passes, one by one. -/
theorem of_ascii {p : Char → Bool} (hp : ∀ n < 128, p (Char.ofNat n) = true) {c : Char}
    (hc : c.toNat < 128) : p c = true := by
  have h := hp c.toNat hc
  rwa [Char.ofNat_toNat] at h

theorem isDigitOf_of_foldlM {base : Nat} {cs : List Char} {acc n : Nat}
    (h : cs.foldlM (addDigit? base) acc = some n) : ∀ c ∈ cs, isDigitOf base c = true := by
  induction cs generalizing acc with
  | nil => simp
  | cons d ds ih =>
    simp only [List.foldlM_cons, Option.bind_eq_bind, Option.bind_eq_some_iff] at h
    obtain ⟨acc', hd, hds⟩ := h
    obtain ⟨v, hv, -⟩ := Option.map_eq_some_iff.mp hd
    intro c hc
    rcases List.mem_cons.mp hc with rfl | hc
    · simp [isDigitOf, hv]
    · exact ih hds c hc

/-- What is read as a number has digits only. -/
theorem isDigitOf_of_ofDigits? {base : Nat} {cs : List Char} {n : Nat}
    (h : ofDigits? base cs = some n) : ∀ c ∈ cs, isDigitOf base c = true := by
  cases cs with
  | nil => simp [ofDigits?] at h
  | cons c cs => exact isDigitOf_of_foldlM h

theorem isDigitOf_toDigits (n : Nat) : ∀ c ∈ Nat.toDigits 10 n, isDigitOf 10 c = true :=
  isDigitOf_of_ofDigits? (ofDigits?_toDigits (by decide) (by decide) n)

/-- Digits are characters of ASCII. -/
theorem toNat_lt_of_isDigitOf {base : Nat} {c : Char} (h : isDigitOf base c = true) :
    c.toNat < 128 := by
  have hle : ∀ d : Char, d.toNat < 128 → c ≤ d → c.toNat < 128 := fun d hd hc =>
    Nat.lt_of_le_of_lt (UInt32.le_iff_toNat_le.mp hc) hd
  simp only [isDigitOf, digitValue?] at h
  split at h
  · exact hle '9' (by decide) (And.right ‹_›)
  split at h
  · exact hle 'z' (by decide) (And.right ‹_›)
  split at h
  · exact hle 'Z' (by decide) (And.right ‹_›)
  · exact absurd h (by simp)

/-- The digits of base ten are those of ASCII. -/
theorem between_of_isDigitOf_10 {c : Char} (h : isDigitOf 10 c = true) : '0' ≤ c ∧ c ≤ '9' := by
  have hle : ∀ d : Char, d ≤ c → d.toNat ≤ c.toNat := fun d hd => UInt32.le_iff_toNat_le.mp hd
  simp only [isDigitOf, digitValue?] at h
  split at h
  · assumption
  split at h
  · have hletter : 97 ≤ c.toNat := hle 'a' (And.left ‹_›)
    simp only [Option.isSome_filter, Option.any_some, decide_eq_true_iff] at h
    omega
  split at h
  · have hletter : 65 ≤ c.toNat := hle 'A' (And.left ‹_›)
    simp only [Option.isSome_filter, Option.any_some, decide_eq_true_iff] at h
    omega
  · exact absurd h (by simp)

/-- A numeral without zeros in front starts with a zero only if it is that of zero. -/
theorem eq_zero_of_head_toDigits {n : Nat} (h : (Nat.toDigits 10 n).head? = some '0') : n = 0 := by
  induction n using Nat.strongRecOn with
  | ind n ih =>
    rcases Nat.lt_or_ge n 10 with hlt | hge
    · rw [Nat.toDigits_of_lt_base hlt] at h
      interval_cases n <;> first | rfl | exact absurd h (by decide)
    · have hhead : (Nat.toDigits 10 (n / 10)).head? = some '0' := by
        rw [Nat.toDigits_of_base_le (by decide) hge] at h
        cases hds : Nat.toDigits 10 (n / 10) with
        | nil => exact absurd hds Nat.toDigits_ne_nil
        | cons d ds => rwa [hds] at h
      have hzero := ih _ (Nat.div_lt_self (by omega) (by decide)) hhead
      omega

/-- A character that is no digit is not in a decimal numeral. -/
theorem notMem_decimal {c : Char} (hc : isDigitOf 10 c = false) (n : Nat) :
    c ∉ (decimal n).toList := by
  intro hmem
  rw [decimal, String.toList_ofList] at hmem
  have hdigit := isDigitOf_of_ofDigits? (ofDigits?_toDigits (by decide) (by decide) n) c hmem
  simp [hc] at hdigit

theorem notMem_hexDigits {c : Char} (hc : isDigitOf 16 c = false) (width n : Nat) :
    c ∉ hexDigits width n := by
  intro hmem
  have hdigit := isDigitOf_of_ofDigits? (ofDigits?_hexDigits width n) c hmem
  simp [hc] at hdigit

/-! ## Equal numerals -/

theorem decimal_inj {m n : Nat} (h : (decimal m).toList = (decimal n).toList) : m = n := by
  have hread := congrArg (ofDigits? 10) h
  simp only [decimal, String.toList_ofList] at hread
  rw [ofDigits?_toDigits (by decide) (by decide), ofDigits?_toDigits (by decide) (by decide)]
    at hread
  exact Option.some.inj hread

theorem wordText_inj {w : Nat} {x y : BitVec w} (h : (wordText x).toList = (wordText y).toList) :
    x = y :=
  BitVec.eq_of_toNat_eq (decimal_inj h)

end FlowRules
