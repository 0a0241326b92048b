import FlowRules.Ron.Basic
import FlowRules.Text.Pieces
import FlowRules.Text.Utf8
import FlowRules.Text.WordChar

/-!
# The tokens of a RON text

A RON text is a sequence of tokens with blanks and comments between them. `lex` cuts
the characters of a text into marks, words and literals and puts `Token.fault` where
they are none of these; nothing after that place is read. `join` then takes a word
together with a parenthesis or a colon behind it, which alone tell what the word is.
The word `Some` is special, and so are two parentheses with nothing between them.
-/

namespace FlowRules.Ron

/-- A token of a RON text. The last three are a word, if any, and the mark behind it. -/
inductive Token where
  | mark (c : Char)
  /-- Two parentheses with nothing between them. -/
  | unit
  | word (name : String) (raw : Bool)
  | leaf (v : Ron)
  /-- The characters from here on are no token. -/
  | fault
  | paren (label : Label)
  /-- The word `Some` without a mark behind it. -/
  | some
  | key (name : String) (raw : Bool)

/-! ## Blanks and comments -/

/-- Is the character a blank? -/
def isBlank (c : Char) : Bool :=
  c = ' ' || ('\t' ≤ c && c ≤ '\r') ||
    c = '\u0085' || c = '\u200e' || c = '\u200f' || c = '\u2028' || c = '\u2029'

/-- What a place between two tokens is in. -/
inductive Gap where
  | blanks
  | lineComment
  /-- A comment that is open inside `outer` other ones. -/
  | blockComment (outer : Nat)

/-- The text after blanks and comments, if all comments in blocks are closed. -/
def skipGap : Gap → List Char → Option (List Char)
  | .blanks, '/' :: '/' :: cs => skipGap .lineComment cs
  | .blanks, '/' :: '*' :: cs => skipGap (.blockComment 0) cs
  | .blanks, '/' :: _ => none
  | .blanks, c :: cs => if isBlank c then skipGap .blanks cs else some (c :: cs)
  | .lineComment, c :: cs => if c = '\n' then skipGap .blanks cs else skipGap .lineComment cs
  | .blockComment outer, '/' :: '*' :: cs => skipGap (.blockComment (outer + 1)) cs
  | .blockComment 0, '*' :: '/' :: cs => skipGap .blanks cs
  | .blockComment (outer + 1), '*' :: '/' :: cs => skipGap (.blockComment outer) cs
  | .blockComment outer, _ :: cs => skipGap (.blockComment outer) cs
  | .blockComment _, [] => none
  | _, [] => some []

/-! ## Texts -/

/-- The literals in quotes that may hold escapes. -/
inductive Literal where
  | text
  | bytes
  | char
  | byte
  deriving DecidableEq

/-- The character of UTF-8 bytes that escapes write one by one, at most `more` after the
first ones, and the text after it. -/
def escapedBytes : Nat → List UInt8 → List Char → Option (Char × List Char)
  | more, bytes, cs =>
    match Utf8.decode? bytes with
    | some [c] => some (c, cs)
    | _ =>
      match more, cs with
      | more + 1, '\\' :: 'x' :: d₁ :: d₂ :: cs =>
        match ofDigits? 16 [d₁, d₂] with
        | some n => escapedBytes more (bytes ++ [UInt8.ofNat n]) cs
        | none => none
      | _, _ => none

/-- The character of the code point. -/
def charOf? (n : Nat) : Option Char := if n.isValidChar then some (Char.ofNat n) else none

/-- The character of a hexadecimal escape that starts with a byte, and the text after it.
In a text further escapes may write the other bytes of the character, and in bytes each
escape is one of them. -/
def ofEscapedByte (kind : Literal) (b : UInt8) (cs : List Char) : Option (Char × List Char) :=
  match kind with
  | .text => escapedBytes 3 [b] cs
  | .char => escapedBytes 0 [b] cs
  | .bytes | .byte => some (Char.ofNat b.toNat, cs)

/-- The character that follows a backslash, and the text after it. A single byte has no
code point. -/
def scanEscape (kind : Literal) : List Char → Option (Char × List Char)
  | 'n' :: cs => some ('\n', cs)
  | 'r' :: cs => some ('\r', cs)
  | 't' :: cs => some ('\t', cs)
  | '0' :: cs => some ('\x00', cs)
  | 'x' :: d₁ :: d₂ :: cs =>
    match ofDigits? 16 [d₁, d₂] with
    | some n => ofEscapedByte kind (UInt8.ofNat n) cs
    | none => none
  | 'u' :: '\x7b' :: cs =>
    let ds := cs.takeWhile (· ≠ '\x7d')
    match cs.dropWhile (· ≠ '\x7d') with
    | _ :: rest =>
      if ds.length ≤ 6 ∧ kind ≠ .byte then
        ((ofDigits? 16 ds).bind charOf?).map fun c => (c, rest)
      else none
    | [] => none
  | c :: cs => if c = '\\' ∨ c = '"' ∨ c = '\'' then some (c, cs) else none
  | [] => none

@[grind →]
theorem length_escapedBytes {more : Nat} {bytes : List UInt8} {cs rest : List Char} {c : Char}
    (h : escapedBytes more bytes cs = some (c, rest)) : rest.length ≤ cs.length := by
  fun_induction escapedBytes more bytes cs with grind

@[grind →]
theorem length_ofEscapedByte {kind : Literal} {b : UInt8} {cs rest : List Char} {c : Char}
    (h : ofEscapedByte kind b cs = some (c, rest)) : rest.length ≤ cs.length := by
  unfold ofEscapedByte at h
  grind

@[grind →]
theorem length_scanEscape {kind : Literal} {cs rest : List Char} {c : Char}
    (h : scanEscape kind cs = some (c, rest)) : rest.length ≤ cs.length := by
  unfold scanEscape at h
  split at h <;> grind [length_dropWhile, Option.map_eq_some_iff]

/-- The text up to a closing quote, and the text after it. -/
def scanText (kind : Literal) (cs : List Char) : Option (List Char × List Char) :=
  match cs with
  | [] => none
  | '"' :: cs => some ([], cs)
  | '\\' :: cs =>
    match h : scanEscape kind cs with
    | some (c, rest) =>
      have := length_scanEscape h
      (scanText kind rest).map fun (s, rest) => (c :: s, rest)
    | none => none
  | c :: cs => (scanText kind cs).map fun (s, rest) => (c :: s, rest)
termination_by cs.length

/-- The text up to a quote with so many hashes behind it, and the text after these. -/
def scanRaw (hashes : Nat) : List Char → Option (List Char × List Char)
  | [] => none
  | c :: cs =>
    if c = '"' ∧ cs.take hashes = List.replicate hashes '#' then some ([], cs.drop hashes)
    else (scanRaw hashes cs).map fun (s, rest) => (c :: s, rest)

/-- A text behind the letter for texts without escapes. -/
def scanRawText (cs : List Char) : Option (List Char × List Char) :=
  let hashes := (cs.takeWhile (· = '#')).length
  match cs.dropWhile (· = '#') with
  | '"' :: cs => scanRaw hashes cs
  | _ => none

/-- A character, escaped or not, and the text after it. One that stands for a byte without
an escape is of ASCII. -/
def scanContent (kind : Literal) : List Char → Option (Char × List Char)
  | '\\' :: cs => scanEscape kind cs
  | c :: cs => if kind = .byte ∧ 128 ≤ c.toNat then none else some (c, cs)
  | [] => none

/-- A character up to its closing quote, and the text after it. -/
def scanChar (kind : Literal) (cs : List Char) : Option (Char × List Char) :=
  match scanContent kind cs with
  | some (c, '\'' :: rest) => some (c, rest)
  | _ => none

/-! ## Numbers -/

/-- May the character stand in a whole number of some base? -/
def isIntChar (c : Char) : Bool := (digitValue? 16 c).isSome || c = '_'

/-- May the character stand in a number with a fraction? -/
def isFloatChar (c : Char) : Bool :=
  isAsciiDigit c || c = 'e' || c = 'E' || c = '.' || c = '+' || c = '-' || c = '_'

/-- The number of digits that may have underscores between and behind them. -/
def looseDigits? (base : Nat) (cs : List Char) : Option Nat :=
  if cs.head? = some '_' then none else ofDigits? base (cs.filter (· ≠ '_'))

/-- The word at the front of a text, and the text after it. -/
def scanWord (cs : List Char) : List Char × List Char :=
  (cs.takeWhile isWordPart, cs.dropWhile isWordPart)

/-- The number of bits that a type of whole numbers has, and whether it has a sign. -/
def intType? : String → Option (Nat × Bool)
  | "u8" => some (8, false)
  | "u16" => some (16, false)
  | "u32" => some (32, false)
  | "u64" => some (64, false)
  | "i8" => some (8, true)
  | "i16" => some (16, true)
  | "i32" => some (32, true)
  | "i64" => some (64, true)
  | _ => none

/-- Does the number fit into so many bits, of which one may be for the sign? -/
def fits (negative : Bool) (size bits : Nat) (signed : Bool) : Bool :=
  if negative then size ≤ if signed then (BitVec.intMin bits).toNat else 0
  else size ≤ (if signed then BitVec.intMax bits else BitVec.allOnes bits).toNat

/-- The sign in front of a number, and the text after it. -/
def scanSign : List Char → Bool × List Char
  | '-' :: cs => (true, cs)
  | '+' :: cs => (false, cs)
  | cs => (false, cs)

/-- The number that decimal digits write, or binary ones behind `0b`, and whether they are
decimal. -/
def plainSize? : List Char → Option (Nat × Bool)
  | '0' :: 'b' :: digits => (looseDigits? 2 digits).map fun n => (n, false)
  | digits => (looseDigits? 10 digits).map fun n => (n, true)

/-- A decimal or binary number without its sign. Its type may follow. -/
def scanPlain (negative : Bool) (cs : List Char) : Option (RonInt × List Char) :=
  match plainSize? (cs.takeWhile isIntChar) with
  | none => none
  | some (size, decimal) =>
    let (type, rest) := scanWord (cs.dropWhile isIntChar)
    match intType? (String.ofList type) with
    | none => some ({ negative, size, decimal }, cs.dropWhile isIntChar)
    | some (bits, signed) =>
      if fits negative size bits signed then
        some ({ negative, size, decimal, type := String.ofList type }, rest)
      else none

/-- A number of a base without its sign. -/
def scanBased (base : Nat) (negative : Bool) (cs : List Char) : Option (RonInt × List Char) :=
  (looseDigits? base (cs.takeWhile isIntChar)).map fun size =>
    ({ negative, size, decimal := false }, cs.dropWhile isIntChar)

/-- A whole number without its sign. -/
def scanSize (negative : Bool) : List Char → Option (RonInt × List Char)
  | '0' :: 'x' :: cs => scanBased 16 negative cs
  | '0' :: 'o' :: cs => scanBased 8 negative cs
  | cs => scanPlain negative cs

/-- A whole number, and the text after it. A character of bytes is one, too. -/
def scanInt : List Char → Option (RonInt × List Char)
  | 'b' :: '\'' :: cs =>
    (scanChar .byte cs).map fun (c, rest) => ({ size := c.toNat, type := "u8" }, rest)
  | cs =>
    let (negative, digits) := scanSign cs
    scanSize negative digits

/-- A number with fraction and exponent without its underscores. They may follow digits. -/
def withoutUnderscores (allowed : Bool) : List Char → Option (List Char)
  | [] => some []
  | c :: cs =>
    if c = '_' then if allowed then withoutUnderscores allowed cs else none
    else
      let allowed := if c = '.' then false else allowed || (c ≠ '+' && c ≠ '-')
      (withoutUnderscores allowed cs).map (c :: ·)

/-- Does the text write an exponent, or nothing? -/
def isExponent : List Char → Bool
  | [] => true
  | c :: cs =>
    let (_, digits) := scanSign cs
    (c = 'e' || c = 'E') && !digits.isEmpty && digits.all isAsciiDigit

/-- Does the text write a number, with a fraction and an exponent or without? -/
def isFloat (cs : List Char) : Bool :=
  let (_, cs) := scanSign cs
  let whole := cs.takeWhile isAsciiDigit
  let rest := cs.dropWhile isAsciiDigit
  match rest with
  | '.' :: rest =>
    !(whole.isEmpty && (rest.takeWhile isAsciiDigit).isEmpty) &&
      isExponent (rest.dropWhile isAsciiDigit)
  | _ => !whole.isEmpty && isExponent rest

/-- The text after a number that is no number or not finite, if there is one. -/
def skipSpecial? (cs : List Char) : Option (List Char) :=
  let (_, unsigned) := scanSign cs
  let (name, rest) := scanWord unsigned
  if ["inf", "inff32", "inff64", "NaN", "NaNf32", "NaNf64"].contains (String.ofList name) then
    some rest
  else none

/-- The text after a number that may have a fraction and an exponent. -/
def skipFloat? (cs : List Char) : Option (List Char) :=
  match skipSpecial? cs with
  | some rest => some rest
  | none =>
    let number := cs.takeWhile isFloatChar
    let rest := cs.dropWhile isFloatChar
    match withoutUnderscores false number with
    | none => none
    | some number =>
      if isFloat number then
        let (type, after) := scanWord rest
        some (if type = "f32".toList ∨ type = "f64".toList then after else rest)
      else none

/-- Does more of a number with a fraction than of a whole number stand here? -/
def looksFractional (cs : List Char) : Bool :=
  let (_, cs) := scanSign cs
  (cs.takeWhile isIntChar).length < (cs.takeWhile isFloatChar).length

/-- A number, and the text after it. -/
def scanNumber (cs : List Char) : Option (Ron × List Char) :=
  match scanInt cs, skipFloat? cs with
  | some (n, rest), after =>
    if looksFractional cs then some (int n false, after.getD rest) else some (int n true, rest)
  | none, after => after.map fun rest => (literal, rest)

/-! ## Tokens -/

/-- May the character stand in a word behind `r#`? -/
def isRawWordPart (c : Char) : Bool := isWordPart c || c = '.' || c = '+' || c = '-'

/-- Do the hashes and the quote of a text without escapes stand here? -/
def startsRawText : List Char → Bool
  | '#' :: c :: _ => !isRawWordPart c
  | c :: _ => c = '"'
  | [] => false

/-- A literal that has no value here. -/
def ignored {α : Type} (found : Option (α × List Char)) : Option (Ron × List Char) :=
  found.map fun (_, rest) => (literal, rest)

/-- A literal that is a text. -/
def asText (found : Option (List Char × List Char)) : Option (Ron × List Char) :=
  found.map fun (s, rest) => (text (String.ofList s), rest)

/-- Bytes behind their letter, if such a literal stands here. -/
def scanBytes : List Char → Option (Option (Ron × List Char))
  | '"' :: cs => some (ignored (scanText .bytes cs))
  | '\'' :: cs => some (scanNumber ('b' :: '\'' :: cs))
  | 'r' :: '"' :: cs => some (ignored (scanRawText ('"' :: cs)))
  | 'r' :: '#' :: cs => some (ignored (scanRawText ('#' :: cs)))
  | _ => none

/-- A literal with quotes, if its first character and the others stand for one. -/
def scanQuoted (c : Char) (cs : List Char) : Option (Option (Ron × List Char)) :=
  if c = '"' then some (asText (scanText .text cs))
  else if c = '\'' then some (ignored (scanChar .char cs))
  else if c = 'b' then scanBytes cs
  else if c = 'r' ∧ startsRawText cs then some (asText (scanRawText cs))
  else none

/-- A word, and the text after it. A word behind `r#` may be any. -/
def scanName (c : Char) (cs : List Char) : Token × List Char :=
  match c, cs with
  | 'r', '#' :: cs =>
    (.word (String.ofList (cs.takeWhile isRawWordPart)) true, cs.dropWhile isRawWordPart)
  | c, cs =>
    let (name, rest) := scanWord cs
    (.word (String.ofList (c :: name)) false, rest)

/-- The token at the front of a text, and the text after it. -/
def scanToken (c : Char) (cs : List Char) : Option (Token × List Char) :=
  match scanQuoted c cs with
  | some found => found.map fun (v, rest) => (.leaf v, rest)
  | none =>
    if c = '(' ∧ cs.head? = some ')' then some (.unit, cs.tail)
    else if "()[]\x7b\x7d,:#!".toList.contains c then some (.mark c, cs)
    else if isWordStart c then some (scanName c cs)
    else if isAsciiDigit c || c = '+' || c = '-' || c = '.' then
      (scanNumber (c :: cs)).map fun (v, rest) => (.leaf v, rest)
    else none

/-! ### A token takes characters from the text -/

theorem length_skipGap {gap : Gap} {cs rest : List Char} (h : skipGap gap cs = some rest) :
    rest.length ≤ cs.length := by
  fun_induction skipGap gap cs with grind

@[grind →]
theorem length_scanText {kind : Literal} {cs s rest : List Char}
    (h : scanText kind cs = some (s, rest)) : rest.length ≤ cs.length := by
  fun_induction scanText kind cs generalizing s with grind [Option.map_eq_some_iff]

@[grind →]
theorem length_scanRaw {hashes : Nat} {cs s rest : List Char}
    (h : scanRaw hashes cs = some (s, rest)) : rest.length ≤ cs.length := by
  fun_induction scanRaw hashes cs generalizing s with grind [Option.map_eq_some_iff]

@[grind →]
theorem length_scanRawText {cs s rest : List Char} (h : scanRawText cs = some (s, rest)) :
    rest.length ≤ cs.length := by
  grind [scanRawText, length_dropWhile]

@[grind →]
theorem length_scanContent {kind : Literal} {cs rest : List Char} {c : Char}
    (h : scanContent kind cs = some (c, rest)) : rest.length ≤ cs.length := by
  unfold scanContent at h
  split at h <;> grind

@[grind →]
theorem length_scanChar {kind : Literal} {cs rest : List Char} {c : Char}
    (h : scanChar kind cs = some (c, rest)) : rest.length ≤ cs.length := by
  unfold scanChar at h
  grind

theorem length_scanSign (cs : List Char) : (scanSign cs).2.length ≤ cs.length := by
  unfold scanSign
  grind

@[grind →]
theorem looseDigits?_ne_nil {base n : Nat} {cs : List Char} (h : looseDigits? base cs = some n) :
    cs ≠ [] := by
  rintro rfl
  simp [looseDigits?, ofDigits?] at h

@[grind →]
theorem plainSize?_ne_nil {n : Nat × Bool} {cs : List Char} (h : plainSize? cs = some n) :
    cs ≠ [] := by
  rintro rfl
  simp [plainSize?, looseDigits?, ofDigits?] at h

theorem length_scanWord (cs : List Char) : (scanWord cs).2.length ≤ cs.length :=
  length_dropWhile _ _

@[grind →]
theorem length_scanPlain {negative : Bool} {cs rest : List Char} {n : RonInt}
    (h : scanPlain negative cs = some (n, rest)) : rest.length < cs.length := by
  unfold scanPlain at h
  have hword := length_scanWord (cs.dropWhile isIntChar)
  split at h
  · simp at h
  · rename_i hsize
    have hlt := length_dropWhile_lt (plainSize?_ne_nil hsize)
    grind

@[grind →]
theorem length_scanBased {base : Nat} {negative : Bool} {cs rest : List Char} {n : RonInt}
    (h : scanBased base negative cs = some (n, rest)) : rest.length < cs.length := by
  simp only [scanBased, Option.map_eq_some_iff, Prod.mk.injEq] at h
  obtain ⟨_, hsize, -, rfl⟩ := h
  exact length_dropWhile_lt (looseDigits?_ne_nil hsize)

@[grind →]
theorem length_scanSize {negative : Bool} {cs rest : List Char} {n : RonInt}
    (h : scanSize negative cs = some (n, rest)) : rest.length < cs.length := by
  unfold scanSize at h
  grind

@[grind →]
theorem length_scanInt {cs rest : List Char} {n : RonInt} (h : scanInt cs = some (n, rest)) :
    rest.length < cs.length := by
  unfold scanInt at h
  grind [Option.map_eq_some_iff, length_scanSign]

@[grind →]
theorem isFloat_ne_nil {cs : List Char} (h : isFloat cs = true) : cs ≠ [] := by
  rintro rfl
  simp [isFloat, scanSign] at h

@[grind →]
theorem length_skipSpecial {cs rest : List Char} (h : skipSpecial? cs = some rest) :
    rest.length < cs.length := by
  have hsign := length_scanSign cs
  have hword := @length_dropWhile_lt _ isWordPart (scanSign cs).2
  have hne : (scanSign cs).2.takeWhile isWordPart ≠ [] := by
    intro hnil
    simp [skipSpecial?, scanWord, hnil] at h
  grind [skipSpecial?, scanWord]

@[grind →]
theorem length_skipFloat {cs rest : List Char} (h : skipFloat? cs = some rest) :
    rest.length < cs.length := by
  unfold skipFloat? at h
  split at h
  · grind
  · have hword := length_scanWord (cs.dropWhile isFloatChar)
    by_cases hnil : cs.takeWhile isFloatChar = []
    · simp [hnil, withoutUnderscores, isFloat, scanSign] at h
    · have hlt := length_dropWhile_lt hnil
      grind

@[grind →]
theorem length_scanNumber {cs rest : List Char} {v : Ron} (h : scanNumber cs = some (v, rest)) :
    rest.length < cs.length := by
  unfold scanNumber at h
  cases hafter : skipFloat? cs <;> grind [Option.map_eq_some_iff]

@[grind →]
theorem length_ignored {α : Type} {found : Option (α × List Char)} {v : Ron} {rest : List Char}
    (h : ignored found = some (v, rest)) : ∃ a, found = some (a, rest) := by
  grind [ignored, Option.map_eq_some_iff]

@[grind →]
theorem length_asText {found : Option (List Char × List Char)} {v : Ron} {rest : List Char}
    (h : asText found = some (v, rest)) : ∃ s, found = some (s, rest) := by
  grind [asText, Option.map_eq_some_iff]

@[grind →]
theorem length_scanBytes {cs rest : List Char} {v : Ron}
    (h : scanBytes cs = some (some (v, rest))) : rest.length ≤ cs.length := by
  unfold scanBytes at h
  split at h <;> grind

@[grind →]
theorem length_scanQuoted {c : Char} {cs rest : List Char} {v : Ron}
    (h : scanQuoted c cs = some (some (v, rest))) : rest.length ≤ cs.length := by
  unfold scanQuoted at h
  grind

theorem length_scanName (c : Char) (cs : List Char) : (scanName c cs).2.length ≤ cs.length := by
  unfold scanName
  grind [length_scanWord, length_dropWhile]

theorem length_scanToken {c : Char} {cs rest : List Char} {t : Token}
    (h : scanToken c cs = some (t, rest)) : rest.length ≤ cs.length := by
  have hname := length_scanName c cs
  simp only [scanToken] at h
  split at h
  · grind [Option.map_eq_some_iff]
  · split at h
    · grind [List.length_tail]
    · split at h
      · simp_all
      · split at h
        · simp_all
        · grind [Option.map_eq_some_iff]

/-- The marks, words and literals of a text, up to the place where it has none. -/
def lex (cs : List Char) : List Token :=
  match hg : skipGap .blanks cs with
  | none => [.fault]
  | some [] => []
  | some (c :: cs') =>
    match ht : scanToken c cs' with
    | some (t, rest) =>
      have : rest.length < cs.length :=
        Nat.lt_of_le_of_lt (length_scanToken ht) (length_skipGap hg)
      t :: lex rest
    | none => [.fault]
termination_by cs.length

/-! ## Words and the marks behind them -/

/-- The value that a word alone writes. The word `Some` needs more. -/
def wordValue? (name : String) (raw : Bool) : Option Ron :=
  if raw then some (word name)
  else if name = "true" then some (bool true)
  else if name = "false" then some (bool false)
  else if name = "None" then some absent
  else if skipSpecial? name.toList = some [] then some literal
  else if name = "Some" then none
  else some (word name)

/-- The token of a word alone. -/
def wordToken (name : String) (raw : Bool) : Token :=
  match wordValue? name raw with
  | some v => .leaf v
  | none => .some

/-- The label that a word is for a parenthesis behind it, if they belong together. -/
def label? (name : String) (raw : Bool) : Option Label :=
  match wordValue? name raw with
  | some (word _) => some (.name name)
  | some _ => none
  | none => some .some

/-- The tokens with each word joined to a parenthesis or a colon behind it. -/
def join : List Token → List Token
  | [] => []
  | .mark c :: ts => (if c = '(' then .paren .nothing else .mark c) :: join ts
  | .unit :: ts => .leaf unit :: join ts
  | .word name raw :: ts =>
    match ts with
    | .mark ':' :: ts => .key name raw :: join ts
    | .mark '(' :: ts =>
      match label? name raw with
      | some label => .paren label :: join ts
      | none => wordToken name raw :: .paren .nothing :: join ts
    | .unit :: ts =>
      match label? name raw with
      | some label => .paren label :: .mark ')' :: join ts
      | none => wordToken name raw :: .leaf unit :: join ts
    | ts => wordToken name raw :: join ts
  | t :: ts => t :: join ts

end FlowRules.Ron
