import FlowRules.Proofs.Json.Spelling
import FlowRules.Proofs.Text.Numeral
import FlowRules.Proofs.Text.Pieces

/-!
# The tokens of a text

Each token of a text is cut off the front of the bytes, however it is written, and the bytes
after it are lexed by themselves. Where a string ends is told by its quote, because a quote
inside it is escaped and no byte of a character beyond ASCII looks like one. Where a number
ends is told by the byte after it (`EndsNumber`). Blanks are skipped (`lex_blanks`).
-/

namespace FlowRules.Json

/-! ## Bytes of characters -/

theorem encode_cons (c : Char) (cs : List Char) :
    Utf8.encode (c :: cs) = Utf8.encode [c] ++ Utf8.encode cs :=
  Utf8.encode_append [c] cs

theorem encode_ascii {c : Char} (h : c.toNat < 128) : Utf8.encode [c] = [byte c] := by
  have hle : c.val.toNat ≤ 127 := Nat.le_of_lt_succ h
  simp only [Utf8.encode, List.flatMap_cons, List.flatMap_nil, List.append_nil,
    String.utf8EncodeChar, if_pos hle]
  rfl

theorem encode_cons_ascii {c : Char} (h : c.toNat < 128) (cs : List Char) :
    Utf8.encode (c :: cs) = byte c :: Utf8.encode cs := by
  rw [encode_cons, encode_ascii h, List.singleton_append]

theorem encode_map_ascii {cs : List Char} (h : ∀ c ∈ cs, c.toNat < 128) :
    Utf8.encode cs = cs.map byte := by
  induction cs with
  | nil => rfl
  | cons c cs ih =>
    rw [encode_cons_ascii (h c (List.mem_cons_self ..)),
      ih fun d hd => h d (List.mem_cons_of_mem _ hd), List.map_cons]

theorem toNat_byte {c : Char} (h : c.toNat < 128) : (byte c).toNat = c.toNat := by
  have hmod : (byte c).toNat = c.toNat % 256 := UInt8.toNat_ofNat' ..
  omega

theorem byte_inj {c d : Char} (hc : c.toNat < 128) (hd : d.toNat < 128) (h : byte c = byte d) :
    c = d := by
  have hnat := congrArg UInt8.toNat h
  rw [toNat_byte hc, toNat_byte hd] at hnat
  exact Char.toNat_inj.mp hnat

/-- The bytes of a character beyond ASCII are beyond ASCII, too. -/
theorem le_of_mem_encode {c : Char} (h : 128 ≤ c.toNat) {b : UInt8} (hb : b ∈ Utf8.encode [c]) :
    128 ≤ b.toNat := by
  have hascii : ¬c.val.toNat ≤ 127 := Nat.not_le_of_lt h
  simp only [Utf8.encode, List.flatMap_cons, List.flatMap_nil, List.append_nil,
    String.utf8EncodeChar, if_neg hascii] at hb
  split at hb
  · simp only [List.mem_cons, List.not_mem_nil, or_false] at hb
    rcases hb with rfl | rfl <;> rw [UInt8.toNat_ofNat'] <;> omega
  split at hb
  · simp only [List.mem_cons, List.not_mem_nil, or_false] at hb
    rcases hb with rfl | rfl | rfl <;> rw [UInt8.toNat_ofNat'] <;> omega
  · simp only [List.mem_cons, List.not_mem_nil, or_false] at hb
    rcases hb with rfl | rfl | rfl | rfl <;> rw [UInt8.toNat_ofNat'] <;> omega

/-! ## Strings -/

variable {bs : List UInt8}

theorem scanString_quote (bs : List UInt8) : scanString (byte '"' :: bs) = some ([], bs) := by
  rw [scanString.eq_def]
  rfl

theorem scanString_plain {b : UInt8} (hquote : b ≠ byte '"') (hslash : b ≠ byte '\\')
    (hcontrol : ¬b < 0x20) (bs : List UInt8) :
    scanString (b :: bs) = (scanString bs).map fun (ps, rest) => (.byte b :: ps, rest) := by
  rw [scanString.eq_def]
  simp only [if_neg hquote, if_neg hslash, if_neg hcontrol]
  cases scanString bs <;> rfl

theorem scanString_escape {e b : UInt8} (hunit : e ≠ byte 'u') (he : escapedByte? e = some b)
    (bs : List UInt8) :
    scanString (byte '\\' :: e :: bs) =
      (scanString bs).map fun (ps, rest) => (.byte b :: ps, rest) := by
  have hquote : byte '\\' ≠ byte '"' := by decide
  rw [scanString.eq_def]
  simp only [if_neg hquote, if_pos, if_neg hunit, he]
  cases scanString bs <;> rfl

theorem scanString_unit {d₁ d₂ d₃ d₄ : UInt8} {u : Nat} (hu : unit? [d₁, d₂, d₃, d₄] = some u)
    (bs : List UInt8) :
    scanString (byte '\\' :: byte 'u' :: d₁ :: d₂ :: d₃ :: d₄ :: bs) =
      (scanString bs).map fun (ps, rest) => (.unit u :: ps, rest) := by
  have hquote : byte '\\' ≠ byte '"' := by decide
  rw [scanString.eq_def]
  simp only [if_neg hquote, if_pos, hu]
  cases scanString bs <;> rfl

/-- Bytes that are nothing special in a string are read one by one. -/
theorem scanString_plain_append {ps : List UInt8}
    (h : ∀ b ∈ ps, b ≠ byte '"' ∧ b ≠ byte '\\' ∧ ¬b < 0x20) (bs : List UInt8) :
    scanString (ps ++ bs) =
      (scanString bs).map fun (found, rest) => (ps.map .byte ++ found, rest) := by
  induction ps with
  | nil => cases hs : scanString bs <;> simp [hs]
  | cons b ps ih =>
    obtain ⟨hquote, hslash, hcontrol⟩ := h b (List.mem_cons_self ..)
    rw [List.cons_append, scanString_plain hquote hslash hcontrol,
      ih fun d hd => h d (List.mem_cons_of_mem _ hd)]
    cases scanString bs <;> rfl

/-- The bytes of a character that stands for itself are nothing special in a string. -/
theorem plain_of_mem_encode {c : Char} (h : 0x20 ≤ c.toNat ∧ c ≠ '"' ∧ c ≠ '\\') {b : UInt8}
    (hb : b ∈ Utf8.encode [c]) : b ≠ byte '"' ∧ b ≠ byte '\\' ∧ ¬b < 0x20 := by
  obtain ⟨hcontrol, hquote, hslash⟩ := h
  have hnat : b.toNat ≠ 0x22 ∧ b.toNat ≠ 0x5C ∧ ¬b.toNat < 0x20 := by
    by_cases hascii : c.toNat < 128
    · rw [encode_ascii hascii, List.mem_singleton] at hb
      rw [hb, toNat_byte hascii]
      exact ⟨fun h => hquote (Char.toNat_inj.mp h), fun h => hslash (Char.toNat_inj.mp h),
        Nat.not_lt.mpr hcontrol⟩
    · have hle := le_of_mem_encode (Nat.le_of_not_lt hascii) hb
      omega
  refine ⟨fun h => hnat.1 ?_, fun h => hnat.2.1 ?_, fun h => hnat.2.2 ?_⟩
  · rw [h]; rfl
  · rw [h]; rfl
  · exact UInt8.lt_iff_toNat_lt.mp h

theorem HexDigit.toNat_char_lt (d : HexDigit) : d.char.toNat < 128 := by
  have hall : ∀ value capital, (mk value capital).char.toNat < 128 := by decide
  exact hall d.value d.capital

theorem HexDigit.digitValue?_char (d : HexDigit) : digitValue? 16 d.char = some d.value.val := by
  have hall : ∀ value capital, digitValue? 16 (mk value capital).char = some value.val := by
    decide
  exact hall d.value d.capital

theorem unit?_chars (d₁ d₂ d₃ d₄ : HexDigit) :
    unit? [byte d₁.char, byte d₂.char, byte d₃.char, byte d₄.char] =
      some (((d₁.value * 16 + d₂.value) * 16 + d₃.value) * 16 + d₄.value : Nat) := by
  have hback : ∀ d : HexDigit, Char.ofNat (byte d.char).toNat = d.char := fun d => by
    rw [toNat_byte d.toNat_char_lt, Char.ofNat_toNat]
  simp [unit?, hback, ofDigits?, addDigit?, HexDigit.digitValue?_char]

/-- A part of a string is read in front of what follows. -/
theorem StringPart.scanString_text (p : StringPart) (bs : List UInt8) :
    scanString (Utf8.encode p.text ++ bs) =
      (scanString bs).map fun (ps, rest) => (p.pieces ++ ps, rest) := by
  cases p with
  | plain c h => exact scanString_plain_append (fun b hb => plain_of_mem_encode h hb) bs
  | escaped e =>
    obtain ⟨hascii, hunit, hbyte⟩ : e.letter.toNat < 128 ∧ byte e.letter ≠ byte 'u' ∧
        escapedByte? (byte e.letter) = some (byte e.meaning) := by
      cases e <;> decide
    rw [text, encode_cons_ascii (by decide), encode_ascii hascii]
    exact scanString_escape hunit hbyte bs
  | unit d₁ d₂ d₃ d₄ =>
    rw [text, encode_map_ascii (by simp [HexDigit.toNat_char_lt])]
    exact scanString_unit (unit?_chars d₁ d₂ d₃ d₄) bs

/-- The parts of a string are read up to the quote behind them. -/
theorem scanString_parts (parts : List StringPart) (bs : List UInt8) :
    scanString (Utf8.encode (parts.flatMap StringPart.text) ++ byte '"' :: bs) =
      some (parts.flatMap StringPart.pieces, bs) := by
  induction parts with
  | nil => exact scanString_quote bs
  | cons p parts ih =>
    rw [List.flatMap_cons, Utf8.encode_append, List.append_assoc, p.scanString_text, ih]
    rfl

/-! ## Numbers -/

/-- Does a number end in front of these bytes? -/
def EndsNumber (bs : List UInt8) : Prop :=
  ∀ b ∈ bs.head?, isDigit b = false ∧ b ≠ byte '.' ∧ b ≠ byte 'e' ∧ b ≠ byte 'E'

theorem isDigit_byte {c : Char} (h : isDigitOf 10 c = true) : isDigit (byte c) = true := by
  have hascii := toNat_lt_of_isDigitOf h
  obtain ⟨hlow, hhigh⟩ := between_of_isDigitOf_10 h
  rw [isDigit, Bool.and_eq_true, decide_eq_true_iff, decide_eq_true_iff, UInt8.le_iff_toNat_le,
    UInt8.le_iff_toNat_le, toNat_byte hascii]
  exact ⟨UInt32.le_iff_toNat_le.mp hlow, UInt32.le_iff_toNat_le.mp hhigh⟩

/-- A digit is a sign of its own. -/
theorem sign_of_isDigit {b : UInt8} (h : isDigit b = true) :
    isBlank b = false ∧ mark? b = none ∧ b ≠ byte '"' ∧ b ≠ byte '-' := by
  rw [isDigit, Bool.and_eq_true, decide_eq_true_iff, decide_eq_true_iff, UInt8.le_iff_toNat_le,
    UInt8.le_iff_toNat_le] at h
  obtain ⟨hlow, hhigh⟩ : 48 ≤ b.toNat ∧ b.toNat ≤ 57 := h
  obtain ⟨n, hn⟩ : ∃ n, n = b.toNat := ⟨_, rfl⟩
  obtain rfl : b = UInt8.ofNat n := by rw [hn, UInt8.ofNat_toNat]
  rw [← hn] at hlow hhigh
  interval_cases n <;> decide

/-- The digits of a number as bytes. -/
def digitBytes (n : Nat) : List UInt8 := (Nat.toDigits 10 n).map byte

theorem encode_toDigits (n : Nat) : Utf8.encode (Nat.toDigits 10 n) = digitBytes n :=
  encode_map_ascii fun c hc => toNat_lt_of_isDigitOf (isDigitOf_toDigits n c hc)

theorem isDigit_of_mem_digitBytes {n : Nat} {b : UInt8} (hb : b ∈ digitBytes n) :
    isDigit b = true := by
  obtain ⟨c, hc, rfl⟩ := List.mem_map.mp hb
  exact isDigit_byte (isDigitOf_toDigits n c hc)

theorem digitsValue_digitBytes (n : Nat) : digitsValue (digitBytes n) = n := by
  have hchar : ∀ d < 10, (byte (Nat.digitChar d) - byte '0').toNat = d := by decide
  induction n using Nat.strongRecOn with
  | ind n ih =>
    unfold digitsValue digitBytes at ih ⊢
    rcases Nat.lt_or_ge n 10 with hlt | hge
    · rw [Nat.toDigits_of_lt_base hlt]
      simp [hchar n hlt]
    · rw [Nat.toDigits_of_base_le (by decide) hge, List.map_append, List.foldl_append,
        ih _ (Nat.div_lt_self (by omega) (by decide))]
      have hmod := hchar (n % 10) (Nat.mod_lt n (by decide))
      simp only [List.map_cons, List.map_nil, List.foldl_cons, List.foldl_nil, hmod]
      exact Nat.div_add_mod' n 10

theorem scanDigits_append {ds bs : List UInt8} (hne : ds ≠ [])
    (hdigits : ∀ b ∈ ds, isDigit b = true) (hend : ∀ b ∈ bs.head?, isDigit b = false) :
    scanDigits (ds ++ bs) = some (ds, bs) := by
  have hempty : ds.isEmpty = false := by simpa using hne
  simp only [scanDigits, takeWhile_append_end hdigits hend, dropWhile_append_end hdigits hend,
    hempty]
  rfl

/-- Only the number zero starts with a zero. -/
theorem length_digitBytes_of_zero {n : Nat} (h : (digitBytes n).head? = some (byte '0')) :
    (digitBytes n).length = 1 := by
  have hdigits := isDigitOf_toDigits n
  cases hds : Nat.toDigits 10 n with
  | nil => exact absurd hds Nat.toDigits_ne_nil
  | cons d ds =>
    rw [hds] at hdigits
    have hd : d = '0' := by
      rw [digitBytes, hds] at h
      exact byte_inj (toNat_lt_of_isDigitOf (hdigits d (List.mem_cons_self ..))) (by decide)
        (Option.some.inj h)
    have hzero : n = 0 := eq_zero_of_head_toDigits (by rw [hds, hd]; rfl)
    subst hzero
    rfl

theorem toNat_digitChar_lt (d : Fin 10) : d.val.digitChar.toNat < 128 := by
  revert d
  decide

/-- A digit is taken for neither a sign nor the end of the digits. -/
theorem isDigit_digitChar (d : Fin 10) :
    isDigit (byte d.val.digitChar) = true ∧
      ¬(byte d.val.digitChar = byte '+' ∨ byte d.val.digitChar = byte '-') := by
  revert d
  decide

namespace Digits

theorem toNat_lt_of_mem_text {ds : Digits} {c : Char} (hc : c ∈ ds.text) : c.toNat < 128 := by
  obtain ⟨d, -, rfl⟩ := List.mem_map.mp hc
  exact toNat_digitChar_lt d

theorem scanDigits_text (ds : Digits) {bs : List UInt8}
    (hend : ∀ b ∈ bs.head?, isDigit b = false) :
    scanDigits (ds.text.map byte ++ bs) = some (ds.text.map byte, bs) := by
  refine scanDigits_append (by simp [text]) (fun b hb => ?_) hend
  obtain ⟨c, hc, rfl⟩ := List.mem_map.mp hb
  obtain ⟨d, -, rfl⟩ := List.mem_map.mp hc
  exact (isDigit_digitChar d).1

theorem head_text (ds : Digits) :
    ∃ rest, ds.text.map byte = byte ds.first.val.digitChar :: rest :=
  ⟨_, rfl⟩

end Digits

theorem Exponent.toNat_lt_of_mem_text (e : Exponent) {c : Char} (hc : c ∈ e.text) :
    c.toNat < 128 := by
  obtain ⟨capital, minus, ds⟩ := e
  rcases List.mem_append.mp hc with hc | hc
  · rcases List.mem_cons.mp hc with rfl | hc
    · have hletter : ∀ capital : Bool, (if capital then 'E' else 'e').toNat < 128 := by decide
      exact hletter capital
    · obtain ⟨minus, -, rfl⟩ := Option.map_eq_some_iff.mp (Option.mem_toList.mp hc)
      have hsign : ∀ minus : Bool, (if minus then '-' else '+').toNat < 128 := by decide
      exact hsign minus
  · exact Digits.toNat_lt_of_mem_text hc

namespace NumberSpelling

variable (n : NumberSpelling) {bs : List UInt8}

theorem scanExponent_text (hbs : EndsNumber bs) :
    scanExponent (n.exponentText.map byte ++ bs) = some (n.exponentText.map byte, bs) := by
  unfold exponentText
  cases n.exponent with
  | none =>
    cases bs with
    | nil => rfl
    | cons b bs => simp [scanExponent, (hbs b rfl).2.2]
  | some e =>
    obtain ⟨capital, minus, ds⟩ := e
    have hscan := ds.scanDigits_text fun b hb => (hbs b hb).1
    have hletter : byte (if capital then 'E' else 'e') = byte 'e' ∨
        byte (if capital then 'E' else 'e') = byte 'E' := by
      cases capital <;> decide
    cases minus with
    | none =>
      obtain ⟨rest, hds⟩ := ds.head_text
      have hsign := (isDigit_digitChar ds.first).2
      simp only [Exponent.text, Option.map_none, Option.toList_none, List.cons_append,
        List.nil_append, List.map_cons, hds] at hscan ⊢
      simp only [scanExponent, if_pos hletter, if_neg hsign, hscan, Option.map_some]
    | some minus =>
      have hsign : byte (if minus then '-' else '+') = byte '+' ∨
          byte (if minus then '-' else '+') = byte '-' := by
        cases minus <;> decide
      simp only [Exponent.text, Option.map_some, Option.toList_some, List.cons_append,
        List.nil_append, List.map_cons, scanExponent, if_pos hletter, if_pos hsign, hscan]

/-- The digits in front of an exponent end there. -/
theorem ends_exponentText (hbs : EndsNumber bs) :
    ∀ b ∈ (n.exponentText.map byte ++ bs).head?, isDigit b = false ∧ b ≠ byte '.' := by
  unfold exponentText
  cases n.exponent with
  | none => exact fun b hb => ⟨(hbs b hb).1, (hbs b hb).2.1⟩
  | some e =>
    intro b hb
    obtain rfl := Option.some.inj hb
    cases e.capital <;> decide

theorem scanFraction_text (hbs : ∀ b ∈ bs.head?, isDigit b = false ∧ b ≠ byte '.') :
    scanFraction (n.fractionText.map byte ++ bs) = some (n.fractionText.map byte, bs) := by
  unfold fractionText
  cases n.fraction with
  | none =>
    cases bs with
    | nil => rfl
    | cons b bs => simp [scanFraction, (hbs b rfl).2]
  | some ds =>
    have hscan := ds.scanDigits_text fun b hb => (hbs b hb).1
    simp only [List.map_cons, List.cons_append, scanFraction, if_pos, hscan, Option.map_some]

/-- The digits in front of a fraction end there. -/
theorem ends_fractionText (hbs : ∀ b ∈ bs.head?, isDigit b = false) :
    ∀ b ∈ (n.fractionText.map byte ++ bs).head?, isDigit b = false := by
  unfold fractionText
  cases n.fraction with
  | none => exact hbs
  | some ds =>
    intro b hb
    obtain rfl := Option.some.inj hb
    decide

/-- A number is read up to where it ends. -/
theorem scanUnsigned_text (hbs : EndsNumber bs) :
    scanUnsigned n.negative
        (digitBytes n.whole ++ ((n.fractionText ++ n.exponentText).map byte ++ bs)) =
      some (n.content, bs) := by
  have hexponent := n.ends_exponentText hbs
  have hfraction := n.ends_fractionText fun b hb => (hexponent b hb).1
  have hdigits := scanDigits_append (by simp [digitBytes])
    (fun b hb => isDigit_of_mem_digitBytes (n := n.whole) hb) hfraction
  have hzero : ¬((digitBytes n.whole).head? = some (byte '0') ∧ (digitBytes n.whole).length ≠ 1) :=
    fun h => h.2 (length_digitBytes_of_zero h.1)
  rw [List.map_append, List.append_assoc]
  simp only [scanUnsigned, hdigits, Option.bind_eq_bind, Option.bind_some, if_neg hzero,
    n.scanFraction_text hexponent, n.scanExponent_text hbs, digitsValue_digitBytes, content,
    List.map_append]
  rfl

theorem toNat_lt_of_mem_tail {c : Char} (hc : c ∈ n.fractionText ++ n.exponentText) :
    c.toNat < 128 := by
  unfold fractionText exponentText at hc
  rcases List.mem_append.mp hc with hc | hc
  · cases hds : n.fraction with
    | none => simp [hds] at hc
    | some ds =>
      rw [hds] at hc
      rcases List.mem_cons.mp hc with rfl | hc
      · decide
      · exact Digits.toNat_lt_of_mem_text hc
  · cases he : n.exponent with
    | none => simp [he] at hc
    | some e =>
      rw [he] at hc
      exact e.toNat_lt_of_mem_text hc

theorem encode_unsigned :
    Utf8.encode (Nat.toDigits 10 n.whole ++ (n.fractionText ++ n.exponentText)) =
      digitBytes n.whole ++ (n.fractionText ++ n.exponentText).map byte := by
  rw [Utf8.encode_append, encode_toDigits, encode_map_ascii fun c hc => n.toNat_lt_of_mem_tail hc]

end NumberSpelling

/-! ## Tokens -/

theorem lex_of_scanToken {b : UInt8} {bs rest : List UInt8} {t : Token}
    (hblank : isBlank b = false) (h : scanToken b bs = some (t, rest)) :
    lex (b :: bs) = t :: lex rest := by
  rw [lex, if_neg (by simp [hblank])]
  split
  · rename_i heq
    rw [h] at heq
    obtain ⟨rfl, rfl⟩ := Prod.mk.inj (Option.some.inj heq)
    rfl
  · rename_i heq
    rw [h] at heq
    exact absurd heq (by simp)

theorem lex_mark {b : UInt8} {t : Token} (hblank : isBlank b = false) (h : mark? b = some t)
    (bs : List UInt8) : lex (b :: bs) = t :: lex bs := by
  refine lex_of_scanToken hblank ?_
  simp only [scanToken, h]

/-- A mark in front of other characters. -/
theorem lex_cons_mark {c : Char} {t : Token} (h : c.toNat < 128 ∧ isBlank (byte c) = false)
    (hmark : mark? (byte c) = some t) (cs : List Char) (bs : List UInt8) :
    lex (Utf8.encode (c :: cs) ++ bs) = t :: lex (Utf8.encode cs ++ bs) := by
  rw [encode_cons_ascii h.1, List.cons_append, lex_mark h.2 hmark]

theorem Blank.isBlank_char (b : Blank) : b.char.toNat < 128 ∧ isBlank (byte b.char) = true := by
  cases b <;> decide

/-- Blanks are skipped. -/
theorem lex_blanks (blanks : List Blank) (bs : List UInt8) :
    lex (Utf8.encode (blanks.map Blank.char) ++ bs) = lex bs := by
  induction blanks with
  | nil => rfl
  | cons b blanks ih =>
    obtain ⟨hascii, hblank⟩ := b.isBlank_char
    rw [List.map_cons, encode_cons_ascii hascii, List.cons_append, lex, if_pos hblank, ih]

theorem lex_stringText (parts : List StringPart) (bs : List UInt8) :
    lex (Utf8.encode (stringText parts) ++ bs) = .string (stringContent parts) :: lex bs := by
  rw [stringText, encode_cons_ascii (by decide), Utf8.encode_append, encode_ascii (by decide),
    List.cons_append, List.append_assoc, List.singleton_append]
  refine lex_of_scanToken (by decide) ?_
  have hmark : mark? (byte '"') = none := by decide
  simp only [scanToken, hmark, if_pos, scanString_parts, Option.map_some, stringContent]

/-- The name of a member with the colon behind it. -/
theorem lex_name (name : NameSpelling) (cs : List Char) (bs : List UInt8) :
    lex (Utf8.encode (name.text ++ ':' :: cs) ++ bs) =
      .string (stringContent name.parts) :: .colon :: lex (Utf8.encode cs ++ bs) := by
  simp only [NameSpelling.text, Utf8.encode_append, List.append_assoc]
  rw [lex_blanks, lex_stringText, lex_blanks, lex_cons_mark (by decide) rfl]

theorem lex_number (n : NumberSpelling) {bs : List UInt8} (hbs : EndsNumber bs) :
    lex (Utf8.encode n.text ++ bs) = .number n.content :: lex bs := by
  have hscan := n.scanUnsigned_text hbs
  rw [NumberSpelling.text, Utf8.encode_append, n.encode_unsigned, List.append_assoc,
    List.append_assoc]
  cases hnegative : n.negative with
  | true =>
    rw [hnegative] at hscan
    rw [if_pos rfl, encode_ascii (by decide), List.singleton_append]
    refine lex_of_scanToken (by decide) ?_
    have hmark : mark? (byte '-') = none := by decide
    have hquote : byte '-' ≠ byte '"' := by decide
    simp only [scanToken, hmark, if_neg hquote, if_pos, hscan, Option.map_some]
  | false =>
    rw [hnegative] at hscan
    rw [if_neg (by decide), Utf8.encode, List.flatMap_nil, List.nil_append]
    cases hds : digitBytes n.whole with
    | nil => exact absurd hds (by simp [digitBytes])
    | cons b ds =>
      have hdigit : isDigit b = true := isDigit_of_mem_digitBytes (by rw [hds]; simp)
      obtain ⟨hblank, hmark, hquote, hminus⟩ := sign_of_isDigit hdigit
      rw [hds, List.cons_append] at hscan
      rw [List.cons_append]
      refine lex_of_scanToken hblank ?_
      simp only [scanToken, hmark, if_neg hquote, if_neg hminus, if_pos hdigit, hscan,
        Option.map_some]

/-- The word of a literal as bytes. -/
theorem encode_word {word : String} (h : word.toList.all (fun c => c.toNat < 128) = true) :
    Utf8.encode word.toList = word.toList.map byte :=
  encode_map_ascii fun c hc => of_decide_eq_true (List.all_eq_true.mp h c hc)

theorem lex_null (bs : List UInt8) : lex (Utf8.encode "null".toList ++ bs) = .null :: lex bs := by
  rw [encode_word (by decide)]
  exact lex_of_scanToken (by decide) rfl

theorem lex_bool (b : Bool) (bs : List UInt8) :
    lex (Utf8.encode (Spelling.text (.bool b)) ++ bs) = .bool b :: lex bs := by
  cases b with
  | true =>
    rw [Spelling.text, encode_word (by decide)]
    exact lex_of_scanToken (by decide) rfl
  | false =>
    rw [Spelling.text, encode_word (by decide)]
    exact lex_of_scanToken (by decide) rfl

end FlowRules.Json
