import FlowRules.Json.Basic
import FlowRules.Text.Pieces
import FlowRules.Text.Utf8

/-!
# The tokens of a JSON text

A JSON text is a sequence of tokens with blanks between them. `lex` cuts the bytes of
a text into its tokens and puts `Token.fault` where they are no token; nothing after
that place is read.

The bytes of a string are kept until its end is found. Only then are they taken
together to a text (`StringPiece.text?`), which fails for bytes that are not UTF-8
and for a surrogate without its partner.
-/

namespace FlowRules.Json

/-- The byte of an ASCII character. -/
def byte (c : Char) : UInt8 := c.toNat.toUInt8

/-- A token of a JSON text. -/
inductive Token where
  | openArray
  | closeArray
  | openObject
  | closeObject
  | comma
  | colon
  | null
  | bool (b : Bool)
  | number (n : JsonNumber)
  | string (content : Option String)
  /-- The bytes from here on are no token. -/
  | fault

/-! ## Strings -/

/-- A part of a string : a byte, or a unit of 16 bits that an escape writes. -/
inductive StringPiece where
  | byte (b : UInt8)
  | unit (u : Nat)

/-- The byte that a letter after a backslash stands for. -/
def escapedByte? (b : UInt8) : Option UInt8 :=
  if b = byte '"' ∨ b = byte '\\' ∨ b = byte '/' then some b
  else if b = byte 'b' then some 0x08
  else if b = byte 'f' then some 0x0C
  else if b = byte 'n' then some 0x0A
  else if b = byte 'r' then some 0x0D
  else if b = byte 't' then some 0x09
  else none

/-- The value of four hexadecimal digits. -/
def unit? (ds : List UInt8) : Option Nat := ofDigits? 16 (ds.map fun b => Char.ofNat b.toNat)

/-- The parts of a string up to the closing quote, and the bytes after it. -/
def scanString : List UInt8 → Option (List StringPiece × List UInt8)
  | [] => none
  | b :: rest =>
    if b = byte '"' then some ([], rest)
    else if b = byte '\\' then
      match rest with
      | [] => none
      | e :: rest =>
        if e = byte 'u' then
          match rest with
          | d₁ :: d₂ :: d₃ :: d₄ :: rest => do
            let u ← unit? [d₁, d₂, d₃, d₄]
            let (ps, rest) ← scanString rest
            return (.unit u :: ps, rest)
          | _ => none
        else do
          let b ← escapedByte? e
          let (ps, rest) ← scanString rest
          return (.byte b :: ps, rest)
    else if b < 0x20 then none
    else do
      let (ps, rest) ← scanString rest
      return (.byte b :: ps, rest)

namespace StringPiece

/-- Is the unit the first half of a surrogate pair? -/
def isHigh (u : Nat) : Bool := 0xD800 ≤ u && u < 0xDC00

/-- Is the unit the second half of a surrogate pair? -/
def isLow (u : Nat) : Bool := 0xDC00 ≤ u && u < 0xE000

/-- The character of a surrogate pair. -/
def paired (high low : Nat) : Char :=
  Char.ofNat (0x10000 + (high - 0xD800) * 0x400 + (low - 0xDC00))

/-- The bytes of the parts, if every surrogate has its partner. -/
def bytes? : List StringPiece → Option (List UInt8)
  | [] => some []
  | .byte b :: ps => (bytes? ps).map (b :: ·)
  | .unit u :: ps =>
    if isHigh u then
      match ps with
      | .unit v :: ps =>
        if isLow v then (bytes? ps).map (Utf8.encode [paired u v] ++ ·) else none
      | _ => none
    else if isLow u then none
    else (bytes? ps).map (Utf8.encode [Char.ofNat u] ++ ·)

/-- The text of the parts. -/
def text? (ps : List StringPiece) : Option String := (bytes? ps).bind Utf8.toString?

end StringPiece

/-! ## Numbers -/

/-- Is the byte a decimal digit? -/
def isDigit (b : UInt8) : Bool := byte '0' ≤ b && b ≤ byte '9'

/-- The value of decimal digits. -/
def digitsValue (ds : List UInt8) : Nat := ds.foldl (fun n b => n * 10 + (b - byte '0').toNat) 0

/-- One or more digits, and the bytes after them. -/
def scanDigits (bs : List UInt8) : Option (List UInt8 × List UInt8) :=
  let ds := bs.takeWhile isDigit
  if ds.isEmpty then none else some (ds, bs.dropWhile isDigit)

/-- A fraction, if there is one, and the bytes after it. -/
def scanFraction : List UInt8 → Option (List UInt8 × List UInt8)
  | b :: rest =>
    if b = byte '.' then (scanDigits rest).map fun (ds, rest) => (b :: ds, rest)
    else some ([], b :: rest)
  | [] => some ([], [])

/-- An exponent, if there is one, and the bytes after it. -/
def scanExponent : List UInt8 → Option (List UInt8 × List UInt8)
  | e :: rest =>
    if e = byte 'e' ∨ e = byte 'E' then
      match rest with
      | s :: rest' =>
        if s = byte '+' ∨ s = byte '-' then
          (scanDigits rest').map fun (ds, rest) => (e :: s :: ds, rest)
        else (scanDigits rest).map fun (ds, rest) => (e :: ds, rest)
      | [] => none
    else some ([], e :: rest)
  | [] => some ([], [])

/-- A number without its sign, and the bytes after it. -/
def scanUnsigned (negative : Bool) (bs : List UInt8) : Option (JsonNumber × List UInt8) := do
  let (whole, rest) ← scanDigits bs
  if whole.head? = some (byte '0') ∧ whole.length ≠ 1 then none
  else
    let (fraction, rest) ← scanFraction rest
    let (exponent, rest) ← scanExponent rest
    return (⟨negative, digitsValue whole, fraction ++ exponent⟩, rest)

/-! ## Tokens -/

/-- The bytes after a word. -/
def afterWord? : List Char → List UInt8 → Option (List UInt8)
  | [], bs => some bs
  | c :: cs, b :: bs => if b = byte c then afterWord? cs bs else none
  | _ :: _, [] => none

/-- The mark of one byte. -/
def mark? (b : UInt8) : Option Token :=
  if b = byte '[' then some .openArray
  else if b = byte ']' then some .closeArray
  else if b = byte '\x7b' then some .openObject
  else if b = byte '\x7d' then some .closeObject
  else if b = byte ',' then some .comma
  else if b = byte ':' then some .colon
  else none

/-- The token that starts with a byte, and the bytes after it. -/
def scanToken (b : UInt8) (rest : List UInt8) : Option (Token × List UInt8) :=
  match mark? b with
  | some t => some (t, rest)
  | none =>
    if b = byte '"' then (scanString rest).map fun (ps, rest) =>
      (.string (StringPiece.text? ps), rest)
    else if b = byte '-' then (scanUnsigned true rest).map fun (n, rest) => (.number n, rest)
    else if isDigit b then (scanUnsigned false (b :: rest)).map fun (n, rest) => (.number n, rest)
    else if b = byte 'n' then (afterWord? "ull".toList rest).map fun rest => (.null, rest)
    else if b = byte 't' then (afterWord? "rue".toList rest).map fun rest => (.bool true, rest)
    else if b = byte 'f' then (afterWord? "alse".toList rest).map fun rest => (.bool false, rest)
    else none

/-- Is the byte a blank? -/
def isBlank (b : UInt8) : Bool := b = 0x20 || b = 0x09 || b = 0x0A || b = 0x0D

/-! ### A token takes bytes from the text -/

theorem length_scanString {bs : List UInt8} {ps : List StringPiece} {rest : List UInt8}
    (h : scanString bs = some (ps, rest)) : rest.length ≤ bs.length := by
  fun_induction scanString bs generalizing ps rest with
  | case1 => simp at h
  | case2 => simp at h; obtain ⟨-, rfl⟩ := h; simp
  | case3 => simp at h
  | case4 _ _ _ _ _ _ ih =>
    simp only [Option.bind_eq_bind, Option.bind_eq_some_iff, Option.pure_def, Option.some.injEq,
      Prod.mk.injEq, Prod.exists] at h
    obtain ⟨_, _, ps', r', hs, -, rfl⟩ := h
    have := ih hs
    simp only [List.length_cons]; omega
  | case5 => simp at h
  | case6 _ _ _ _ ih =>
    simp only [Option.bind_eq_bind, Option.bind_eq_some_iff, Option.pure_def, Option.some.injEq,
      Prod.mk.injEq, Prod.exists] at h
    obtain ⟨_, _, ps', r', hs, -, rfl⟩ := h
    have := ih hs
    simp only [List.length_cons]; omega
  | case7 => simp at h
  | case8 _ r _ _ _ ih =>
    simp only [Option.bind_eq_bind, Option.bind_eq_some_iff, Option.pure_def, Option.some.injEq,
      Prod.mk.injEq, Prod.exists] at h
    obtain ⟨ps', r', hs, -, rfl⟩ := h
    have := ih hs
    simp only [List.length_cons]; omega

theorem length_scanDigits {bs ds rest : List UInt8} (h : scanDigits bs = some (ds, rest)) :
    rest.length < bs.length := by
  simp only [scanDigits] at h
  split at h
  · simp at h
  · rename_i hne
    simp only [Option.some.injEq, Prod.mk.injEq] at h
    obtain ⟨rfl, rfl⟩ := h
    exact length_dropWhile_lt (by simpa using hne)

theorem length_scanFraction {bs ds rest : List UInt8} (h : scanFraction bs = some (ds, rest)) :
    rest.length ≤ bs.length := by
  cases bs with
  | nil => simp [scanFraction] at h; simp [← h.2]
  | cons b bs =>
    simp only [scanFraction] at h
    split at h
    · simp only [Option.map_eq_some_iff, Prod.mk.injEq, Prod.exists] at h
      obtain ⟨_, _, hs, -, rfl⟩ := h
      have := length_scanDigits hs
      simp only [List.length_cons]; omega
    · simp at h; simp [← h.2]

theorem length_scanExponent {bs ds rest : List UInt8} (h : scanExponent bs = some (ds, rest)) :
    rest.length ≤ bs.length := by
  cases bs with
  | nil => simp [scanExponent] at h; simp [← h.2]
  | cons b bs =>
    simp only [scanExponent] at h
    split at h
    · cases bs with
      | nil => simp at h
      | cons s bs =>
        simp only at h
        split at h <;>
        · simp only [Option.map_eq_some_iff, Prod.mk.injEq, Prod.exists] at h
          obtain ⟨_, _, hs, -, rfl⟩ := h
          have := length_scanDigits hs
          simp only [List.length_cons] at this ⊢; omega
    · simp at h; simp [← h.2]

theorem length_scanUnsigned {negative : Bool} {bs : List UInt8} {n : JsonNumber}
    {rest : List UInt8} (h : scanUnsigned negative bs = some (n, rest)) :
    rest.length < bs.length := by
  simp only [scanUnsigned, Option.bind_eq_bind, Option.bind_eq_some_iff, Prod.exists] at h
  obtain ⟨ds, r, hd, h⟩ := h
  split at h
  · simp at h
  · simp only [Option.bind_eq_some_iff, Option.pure_def, Option.some.injEq, Prod.mk.injEq,
      Prod.exists] at h
    obtain ⟨_, r₁, hf, _, r₂, he, -, rfl⟩ := h
    have := length_scanDigits hd
    have := length_scanFraction hf
    have := length_scanExponent he
    omega

theorem length_afterWord {cs : List Char} {bs rest : List UInt8}
    (h : afterWord? cs bs = some rest) : rest.length ≤ bs.length := by
  induction cs generalizing bs with
  | nil => simp [afterWord?] at h; simp [h]
  | cons c cs ih =>
    cases bs with
    | nil => simp [afterWord?] at h
    | cons b bs =>
      simp only [afterWord?] at h
      split at h
      · have := ih h; simp only [List.length_cons]; omega
      · simp at h

theorem length_word {cs : List Char} {t word : Token} {bs rest : List UInt8}
    (h : ((afterWord? cs bs).map fun rest => (word, rest)) = some (t, rest)) :
    rest.length ≤ bs.length := by
  obtain ⟨_, hs, hrest⟩ := Option.map_eq_some_iff.mp h
  cases hrest
  exact length_afterWord hs

theorem length_scanToken {b : UInt8} {bs : List UInt8} {t : Token} {rest : List UInt8}
    (h : scanToken b bs = some (t, rest)) : rest.length ≤ bs.length := by
  simp only [scanToken] at h
  split at h
  · simp at h; simp [h.2]
  · split at h
    · simp only [Option.map_eq_some_iff, Prod.mk.injEq, Prod.exists] at h
      obtain ⟨_, _, hs, -, rfl⟩ := h
      exact length_scanString hs
    split at h
    · simp only [Option.map_eq_some_iff, Prod.mk.injEq, Prod.exists] at h
      obtain ⟨_, _, hs, -, rfl⟩ := h
      have := length_scanUnsigned hs; omega
    split at h
    · simp only [Option.map_eq_some_iff, Prod.mk.injEq, Prod.exists] at h
      obtain ⟨_, _, hs, -, rfl⟩ := h
      have := length_scanUnsigned hs
      simp only [List.length_cons] at this; omega
    split at h
    · exact length_word h
    split at h
    · exact length_word h
    split at h
    · exact length_word h
    · simp at h

/-- The tokens of a text, up to the place where it has none. -/
def lex : List UInt8 → List Token
  | [] => []
  | b :: rest =>
    if isBlank b then lex rest
    else match h : scanToken b rest with
      | some (t, rest') =>
        have := length_scanToken h
        t :: lex rest'
      | none => [.fault]
termination_by bs => bs.length

end FlowRules.Json
