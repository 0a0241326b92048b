import FlowRules.Proofs.Text.Numeral
import FlowRules.Proofs.Text.Pieces
import Mathlib.Data.List.Forall2
import Mathlib.Data.Nat.Digits.Defs

/-!
# Numerals as they may be written

A number can be written in more than one way : with a `+` in front or without, with zeros in
front, and with letters in either case. `IsNumeral` says which texts write a number, and the
readers of numbers take these texts and no others (`unsigned?_eq_some_iff`). So it is for
octets (`octet?_eq_some_iff`).

Where a separator is neither a sign nor a digit, numerals can be joined with it. Splitting the
text gives them back, and there is no other way to take it apart (`isOctetText_iff_pieces`).
-/

namespace FlowRules

/-! ## Digits -/

/-- Is the character the digit of the value, a letter in either case? -/
def IsDigit (base : Nat) (c : Char) (v : Nat) : Prop :=
  v < base ∧ (c = v.digitChar ∨ c = v.digitChar.toUpper)

/-- In a greater base there are the same digits and more. -/
theorem digitValue?_mono {base base' v : Nat} {c : Char} (hle : base ≤ base')
    (h : digitValue? base c = some v) : digitValue? base' c = some v := by
  obtain ⟨hvalue, hlt⟩ := Option.filter_eq_some_iff.mp h
  refine Option.filter_eq_some_iff.mpr ⟨hvalue, ?_⟩
  simp only [decide_eq_true_eq] at hlt ⊢
  omega

theorem digitValue?_toUpper {base v : Nat} (hv : v < base) (hbase : base ≤ 16) :
    digitValue? base v.digitChar.toUpper = some v := by
  have h16 : v < 16 := by omega
  unfold digitValue?
  interval_cases v <;> exact Option.filter_eq_some_iff.mpr ⟨rfl, by simpa using hv⟩

theorem digitValue?_eq_some_iff {base v : Nat} {c : Char} (hbase : base ≤ 16) :
    digitValue? base c = some v ↔ IsDigit base c v := by
  constructor
  · intro h
    obtain ⟨-, hlt⟩ := Option.filter_eq_some_iff.mp h
    have hdigit : isDigitOf base c = true := by simp [isDigitOf, h]
    have hascii : c.toNat < 128 := toNat_lt_of_isDigitOf hdigit
    have htable := of_ascii
      (p := fun c => (digitValue? 16 c).all fun v => c = v.digitChar || c = v.digitChar.toUpper)
      (by decide +kernel) hascii
    have hv : v < base := by simpa using hlt
    exact ⟨hv, by simpa [digitValue?_mono hbase h] using htable⟩
  · rintro ⟨hv, rfl | rfl⟩
    · exact digitValue?_digitChar hv hbase
    · exact digitValue?_toUpper hv hbase

/-! ## Numerals -/

/-- Does the text write the number in the base? In front there may be one `+`, and then there
are digits, at least one of them. -/
def IsNumeral (base : Nat) (cs : List Char) (n : Nat) : Prop :=
  ∃ sign digits values, cs = sign ++ digits ∧ (sign = [] ∨ sign = ['+']) ∧ digits ≠ [] ∧
    List.Forall₂ (IsDigit base) digits values ∧ n = Nat.ofDigits base values.reverse

theorem foldlM_addDigit?_eq_some_iff {base n acc : Nat} {cs : List Char} (hbase : base ≤ 16) :
    cs.foldlM (addDigit? base) acc = some n ↔
      ∃ values, List.Forall₂ (IsDigit base) cs values ∧
        n = values.foldl (fun n v => n * base + v) acc := by
  induction cs generalizing acc with
  | nil => simp [List.forall₂_nil_left_iff, eq_comm]
  | cons c cs ih =>
    simp only [List.foldlM_cons, Option.bind_eq_bind, Option.bind_eq_some_iff, addDigit?,
      Option.map_eq_some_iff, digitValue?_eq_some_iff hbase]
    constructor
    · rintro ⟨acc', ⟨v, hv, rfl⟩, hcs⟩
      obtain ⟨values, hvalues, hn⟩ := ih.mp hcs
      exact ⟨v :: values, .cons hv hvalues, hn⟩
    · rintro ⟨_, _ | ⟨hv, hvalues⟩, hn⟩
      exact ⟨_, ⟨_, hv, rfl⟩, ih.mpr ⟨_, hvalues, hn⟩⟩

theorem foldl_eq_ofDigits (base : Nat) (values : List Nat) :
    values.foldl (fun n v => n * base + v) 0 = Nat.ofDigits base values.reverse := by
  rw [Nat.ofDigits_eq_foldr, List.foldr_reverse]
  congr 1
  funext n v
  rw [Nat.mul_comm n, Nat.add_comm]
  rfl

theorem ofDigits?_eq_some_iff {base n : Nat} {cs : List Char} (hbase : base ≤ 16) :
    ofDigits? base cs = some n ↔ cs ≠ [] ∧
      ∃ values, List.Forall₂ (IsDigit base) cs values ∧ n = Nat.ofDigits base values.reverse := by
  cases cs with
  | nil => simp [ofDigits?]
  | cons c cs =>
    rw [ofDigits?, foldlM_addDigit?_eq_some_iff hbase]
    simp only [foldl_eq_ofDigits, ne_eq, reduceCtorEq, not_false_eq_true, true_and]

/-- The sign is no digit. -/
theorem not_isDigit_plus {base v : Nat} (hbase : base ≤ 16) : ¬ IsDigit base '+' v := by
  intro h
  have hvalue := digitValue?_mono hbase ((digitValue?_eq_some_iff hbase).mpr h)
  exact absurd hvalue (by simp [show digitValue? 16 '+' = none by decide])

theorem unsigned?_of_ne {base max : Nat} {cs : List Char} (h : ∀ ds, cs ≠ '+' :: ds) :
    unsigned? base max cs = (ofDigits? base cs).filter (· ≤ max) := by
  unfold unsigned?
  split
  · exact absurd rfl (h _)
  · rfl

theorem isNumeral_of_ofDigits? {base n : Nat} {cs : List Char} (hbase : base ≤ 16)
    (h : ofDigits? base cs = some n) : IsNumeral base cs n := by
  obtain ⟨hne, values, hvalues, hn⟩ := (ofDigits?_eq_some_iff hbase).mp h
  exact ⟨[], cs, values, rfl, Or.inl rfl, hne, hvalues, hn⟩

theorem unsigned?_eq_some_iff {base max n : Nat} {cs : List Char} (hbase : base ≤ 16) :
    unsigned? base max cs = some n ↔ IsNumeral base cs n ∧ n ≤ max := by
  constructor
  · intro h
    unfold unsigned? at h
    obtain ⟨hread, hle⟩ := Option.filter_eq_some_iff.mp h
    refine ⟨?_, of_decide_eq_true hle⟩
    split at hread
    · obtain ⟨hne, values, hvalues, hn⟩ := (ofDigits?_eq_some_iff hbase).mp hread
      exact ⟨['+'], _, values, rfl, Or.inr rfl, hne, hvalues, hn⟩
    · exact isNumeral_of_ofDigits? hbase hread
  · rintro ⟨⟨_, digits, values, rfl, hsign, hne, hvalues, hn⟩, hle⟩
    have hread := (ofDigits?_eq_some_iff hbase).mpr ⟨hne, values, hvalues, hn⟩
    have hfilter : (ofDigits? base digits).filter (· ≤ max) = some n :=
      Option.filter_eq_some_iff.mpr ⟨hread, decide_eq_true hle⟩
    rcases hsign with rfl | rfl
    · -- The digits do not start with the sign.
      refine (unsigned?_of_ne fun ds hds => ?_).trans hfilter
      rw [List.nil_append] at hds
      obtain ⟨v, values', hv, -, -⟩ := List.forall₂_cons_left_iff.mp (hds ▸ hvalues)
      exact not_isDigit_plus hbase hv
    · exact hfilter

theorem isNumeral_decimal (n : Nat) : IsNumeral 10 (decimal n).toList n := by
  rw [decimal, String.toList_ofList]
  exact isNumeral_of_ofDigits? (by decide) (ofDigits?_toDigits (by decide) (by decide) n)

/-- A character that is neither the sign nor a digit is not in a numeral. -/
theorem IsNumeral.notMem {base n : Nat} {cs : List Char} {c : Char} (h : IsNumeral base cs n)
    (hbase : base ≤ 16) (hsign : c ≠ '+') (hdigit : isDigitOf base c = false) : c ∉ cs := by
  obtain ⟨sign, digits, values, rfl, hfront, hne, hvalues, hn⟩ := h
  have hread := (ofDigits?_eq_some_iff hbase).mpr ⟨hne, values, hvalues, hn⟩
  intro hmem
  rcases List.mem_append.mp hmem with hmem | hmem
  · rcases hfront with rfl | rfl
    · cases hmem
    · exact hsign (List.mem_singleton.mp hmem)
  · exact Bool.false_ne_true (hdigit.symm.trans (isDigitOf_of_ofDigits? hread c hmem))

/-! ## Octets -/

theorem octet?_eq_some_iff {base : Nat} {cs : List Char} {o : Octet} (hbase : base ≤ 16) :
    (unsigned? base 255 cs).map (BitVec.ofNat 8) = some o ↔ IsNumeral base cs o.toNat := by
  simp only [Option.map_eq_some_iff, unsigned?_eq_some_iff hbase]
  constructor
  · rintro ⟨n, ⟨hn, hle⟩, rfl⟩
    rwa [BitVec.toNat_ofNat, Nat.mod_eq_of_lt (by omega)]
  · intro h
    have hlt := o.isLt
    exact ⟨o.toNat, ⟨h, by omega⟩, by rw [BitVec.ofNat_toNat, BitVec.setWidth_eq]⟩

/-- Does the text write a number that an octet can hold? -/
def IsOctetNumeral (base : Nat) (cs : List Char) : Prop := ∃ n ≤ 255, IsNumeral base cs n

theorem isOctetNumeral_iff {base : Nat} {cs : List Char} :
    IsOctetNumeral base cs ↔ ∃ o : Octet, IsNumeral base cs o.toNat := by
  constructor
  · rintro ⟨n, hle, hn⟩
    refine ⟨BitVec.ofNat 8 n, ?_⟩
    rwa [BitVec.toNat_ofNat, Nat.mod_eq_of_lt (by omega)]
  · rintro ⟨o, ho⟩
    exact ⟨o.toNat, Nat.le_of_lt_succ o.isLt, ho⟩

theorem octet?_eq_none_iff {base : Nat} {cs : List Char} (hbase : base ≤ 16) :
    (unsigned? base 255 cs).map (BitVec.ofNat 8) = none ↔ ¬ IsOctetNumeral base cs := by
  simp only [isOctetNumeral_iff, ← octet?_eq_some_iff hbase, Option.eq_none_iff_forall_ne_some,
    not_exists, ne_eq]

/-! ## Numerals between separators -/

/-- Are these the pieces of the text between the separators? -/
structure ArePieces (sep : Char) (cs : List Char) (ps : List (List Char)) : Prop where
  ne_nil : ps ≠ []
  notMem : ∀ p ∈ ps, sep ∉ p
  eq_join : cs = joinPieces sep ps

theorem arePieces_iff {sep : Char} {cs : List Char} {ps : List (List Char)} :
    ArePieces sep cs ps ↔ pieces sep cs = ps := by
  constructor
  · rintro ⟨hne, hsep, rfl⟩
    exact pieces_joinPieces hne hsep
  · rintro rfl
    exact ⟨pieces_ne_nil sep cs, fun _ => notMem_of_mem_pieces, (join_pieces sep cs).symm⟩

/-- Does the text write the octets in the base, with the separator between them? -/
def IsOctetText (base : Nat) (sep : Char) (cs : List Char) (os : List Octet) : Prop :=
  ∃ ps, cs = joinPieces sep ps ∧
    List.Forall₂ (fun p o => IsNumeral base p (BitVec.toNat o)) ps os

theorem isOctetText_iff_pieces {base : Nat} {sep : Char} {cs : List Char} {os : List Octet}
    (hbase : base ≤ 16) (hsign : sep ≠ '+') (hdigit : isDigitOf base sep = false)
    (hos : os ≠ []) : IsOctetText base sep cs os ↔
      List.Forall₂ (fun p o => IsNumeral base p (BitVec.toNat o)) (pieces sep cs) os := by
  constructor
  · rintro ⟨ps, rfl, hps⟩
    have hne : ps ≠ [] := by
      rintro rfl
      exact hos (List.forall₂_nil_left_iff.mp hps)
    obtain ⟨hnotMem, -⟩ := (List.forall₂_and_left ps os).mp
      (hps.imp fun p o h => ⟨h.notMem hbase hsign hdigit, h⟩)
    rwa [pieces_joinPieces hne hnotMem]
  · intro h
    exact ⟨pieces sep cs, (join_pieces sep cs).symm, h⟩

/-- Numerals of octets are those of a row of octets. -/
theorem exists_octets {base : Nat} {ps : List (List Char)} (h : ∀ p ∈ ps, IsOctetNumeral base p) :
    ∃ os : List Octet, List.Forall₂ (fun p o => IsNumeral base p (BitVec.toNat o)) ps os := by
  induction ps with
  | nil => exact ⟨[], .nil⟩
  | cons p ps ih =>
    obtain ⟨o, ho⟩ := isOctetNumeral_iff.mp (h p (List.mem_cons_self ..))
    obtain ⟨os, hos⟩ := ih fun q hq => h q (List.mem_cons_of_mem _ hq)
    exact ⟨o :: os, .cons ho hos⟩

/-! ## Reading piece by piece -/

/-- Either all items pass, or there is a first one that does not. -/
theorem all_or_first {α : Type} (p : α → Prop) (as : List α) :
    (∀ a ∈ as, p a) ∨ ∃ good bad rest, as = good ++ bad :: rest ∧ (∀ a ∈ good, p a) ∧ ¬ p bad := by
  induction as with
  | nil => exact Or.inl fun a ha => absurd ha List.not_mem_nil
  | cons a as ih =>
    by_cases ha : p a
    · rcases ih with hall | ⟨good, bad, rest, rfl, hgood, hbad⟩
      · exact Or.inl (List.forall_mem_cons.mpr ⟨ha, hall⟩)
      · exact Or.inr ⟨a :: good, bad, rest, rfl, List.forall_mem_cons.mpr ⟨ha, hgood⟩, hbad⟩
    · exact Or.inr ⟨[], a, as, rfl, fun b hb => absurd hb List.not_mem_nil, ha⟩

section MapM

variable {α β ε : Type}

theorem mapM_eq_some_iff {f : α → Option β} {as : List α} {bs : List β} :
    as.mapM f = some bs ↔ List.Forall₂ (fun a b => f a = some b) as bs := by
  induction as generalizing bs with
  | nil => simp [eq_comm]
  | cons a as ih =>
    simp only [List.mapM_cons, Option.bind_eq_bind, Option.bind_eq_some_iff, Option.pure_def,
      Option.some.injEq, ih, List.forall₂_cons_left_iff]
    constructor
    · rintro ⟨b, hb, bs, hbs, rfl⟩
      exact ⟨b, bs, hb, hbs, rfl⟩
    · rintro ⟨b, bs, hb, hbs, rfl⟩
      exact ⟨b, hb, bs, hbs, rfl⟩

theorem mapM_eq_ok {f : α → Except ε β} {as : List α} {bs : List β}
    (h : List.Forall₂ (fun a b => f a = .ok b) as bs) : as.mapM f = .ok bs := by
  induction h with
  | nil => rfl
  | cons hb _ ih => rw [List.mapM_cons, hb, ih]; rfl

/-- The first piece that cannot be read decides. -/
theorem mapM_eq_error {f : α → Except ε β} {good rest : List α} {bad : α} {e : ε}
    (hgood : ∀ a ∈ good, ∃ b, f a = .ok b) (hbad : f bad = .error e) :
    (good ++ bad :: rest).mapM f = .error e := by
  induction good with
  | nil => rw [List.nil_append, List.mapM_cons, hbad]; rfl
  | cons a good ih =>
    obtain ⟨b, hb⟩ := hgood a (List.mem_cons_self ..)
    rw [List.cons_append, List.mapM_cons, hb, ih fun c hc => hgood c (List.mem_cons_of_mem _ hc)]
    rfl

end MapM

end FlowRules
