import FlowRules.Text.Numeral

/-!
# Texts and names in TOML

A text stands in double quotes with escapes or in single quotes without, in one line
or, between three quotes, in several. A name of letters, digits, `_` and `-` alone needs
no quotes. `printName` writes a name without quotes if it can be, in double quotes if
that takes no escape or no single quotes could do, and else in single quotes.
-/

namespace FlowRules.Toml

/-- Is the character a control that may not stand for itself? -/
def isControl (c : Char) : Bool := (c.toNat < 0x20 && c ≠ '\t') || c = '\x7f'

/-- May the character stand in a name without quotes? -/
def isBareChar (c : Char) : Bool := (digitValue? 36 c).isSome || c = '_' || c = '-'

/-! ## Reading -/

/-- The character that the digits number. -/
def codePoint? (digits : List Char) : Option Char :=
  (ofDigits? 16 digits).bind fun n => if n.isValidChar then some (Char.ofNat n) else none

/-- The character that a letter behind a backslash stands for. -/
def escaped? (c : Char) : Option Char :=
  if c = '"' ∨ c = '\\' then some c
  else if c = 'b' then some '\x08'
  else if c = 't' then some '\t'
  else if c = 'n' then some '\n'
  else if c = 'f' then some '\x0c'
  else if c = 'r' then some '\r'
  else if c = 'e' then some '\x1b'
  else none

/-- The number of digits behind a letter that starts the number of a character. -/
def escapeDigits? (c : Char) : Option Nat :=
  if c = 'x' then some 2
  else if c = 'u' then some 4
  else if c = 'U' then some 8
  else none

/-- The character behind a backslash, and the text after it. -/
def scanEscape : List Char → Option (Char × List Char)
  | [] => none
  | c :: cs =>
    match escapeDigits? c with
    | some count =>
      if (cs.take count).length = count then
        (codePoint? (cs.take count)).map fun c => (c, cs.drop count)
      else none
    | none => (escaped? c).map fun c => (c, cs)

@[grind →]
theorem length_scanEscape {cs rest : List Char} {c : Char} (h : scanEscape cs = some (c, rest)) :
    rest.length ≤ cs.length := by
  unfold scanEscape at h
  split at h <;> grind [Option.map_eq_some_iff]

/-- The text up to a double quote in the same line, and what is after it. -/
def scanLine (cs : List Char) : Option (List Char × List Char) :=
  match cs with
  | [] => none
  | '"' :: cs => some ([], cs)
  | '\\' :: cs =>
    match h : scanEscape cs with
    | some (c, rest) =>
      have := length_scanEscape h
      (scanLine rest).map fun (s, rest) => (c :: s, rest)
    | none => none
  | c :: cs =>
    if isControl c then none else (scanLine cs).map fun (s, rest) => (c :: s, rest)
termination_by cs.length

/-- Is the character a blank inside a line? -/
def isSpace (c : Char) : Bool := c = ' ' || c = '\t'

/-- Does a line end here, but for blanks? -/
def atLineEnd (cs : List Char) : Bool :=
  match cs.dropWhile isSpace with
  | '\n' :: _ => true
  | '\r' :: '\n' :: _ => true
  | _ => false

/-- The text up to three double quotes, and what is after them. At most two more quotes
belong to the text. A backslash at the end of a line takes all blanks and ends of lines
after it out of the text; while they are, `trimmed` is set. -/
def scanBlock (trimmed : Bool) (cs : List Char) : Option (List Char × List Char) :=
  match cs with
  | [] => none
  | '"' :: '"' :: '"' :: '"' :: '"' :: cs => some (['"', '"'], cs)
  | '"' :: '"' :: '"' :: '"' :: cs => some (['"'], cs)
  | '"' :: '"' :: '"' :: cs => some ([], cs)
  | '\r' :: '\n' :: cs =>
    if trimmed then scanBlock true cs
    else (scanBlock false cs).map fun (s, rest) => ('\r' :: '\n' :: s, rest)
  | '\\' :: cs =>
    if atLineEnd cs then scanBlock true cs
    else match h : scanEscape cs with
      | some (c, rest) =>
        have := length_scanEscape h
        (scanBlock false rest).map fun (s, rest) => (c :: s, rest)
      | none => none
  | c :: cs =>
    if trimmed && (isSpace c || c = '\n') then scanBlock true cs
    else if isControl c && c ≠ '\n' then none
    else (scanBlock false cs).map fun (s, rest) => (c :: s, rest)
termination_by cs.length

/-- The text up to a single quote in the same line, and what is after it. -/
def scanLiteral : List Char → Option (List Char × List Char)
  | [] => none
  | '\'' :: cs => some ([], cs)
  | c :: cs => if isControl c then none else (scanLiteral cs).map fun (s, rest) => (c :: s, rest)

/-- The text up to three single quotes, and what is after them. At most two more quotes
belong to the text. -/
def scanLiteralBlock : List Char → Option (List Char × List Char)
  | [] => none
  | '\'' :: '\'' :: '\'' :: '\'' :: '\'' :: cs => some (['\'', '\''], cs)
  | '\'' :: '\'' :: '\'' :: '\'' :: cs => some (['\''], cs)
  | '\'' :: '\'' :: '\'' :: cs => some ([], cs)
  | '\r' :: '\n' :: cs =>
    (scanLiteralBlock cs).map fun (s, rest) => ('\r' :: '\n' :: s, rest)
  | c :: cs =>
    if isControl c && c ≠ '\n' then none
    else (scanLiteralBlock cs).map fun (s, rest) => (c :: s, rest)

/-- What follows the end of a line, if one stands here, and else all. -/
def dropLineEnd : List Char → List Char
  | '\n' :: cs => cs
  | '\r' :: '\n' :: cs => cs
  | cs => cs

/-- A text in quotes, and what is after it. -/
def scanText : List Char → Option (List Char × List Char)
  | '"' :: '"' :: '"' :: cs => scanBlock false (dropLineEnd cs)
  | '"' :: cs => scanLine cs
  | '\'' :: '\'' :: '\'' :: cs => scanLiteralBlock (dropLineEnd cs)
  | '\'' :: cs => scanLiteral cs
  | _ => none

/-- A name, and what is after it. -/
def scanName : List Char → Option (List Char × List Char)
  | '"' :: cs => scanLine cs
  | '\'' :: cs => scanLiteral cs
  | cs =>
    let name := cs.takeWhile isBareChar
    if name.isEmpty then none else some (name, cs.dropWhile isBareChar)

/-! ## Writing -/

/-- The letter that escapes a character, if it has one. -/
def escapeLetter? (c : Char) : Option Char :=
  if c = '"' ∨ c = '\\' then some c
  else if c = '\x08' then some 'b'
  else if c = '\t' then some 't'
  else if c = '\n' then some 'n'
  else if c = '\x0c' then some 'f'
  else if c = '\r' then some 'r'
  else none

/-- A character as it stands in double quotes. -/
def escapeChar (c : Char) : List Char :=
  match escapeLetter? c with
  | some letter => ['\\', letter]
  | none =>
    if isControl c then '\\' :: 'u' :: (hexDigits 4 c.toNat).map Char.toUpper else [c]

/-- A text in double quotes. -/
def printQuoted (cs : List Char) : List Char := '"' :: cs.flatMap escapeChar ++ ['"']

/-- Would single quotes spare escapes, and can the text stand in them? -/
def wantsLiteral (cs : List Char) : Bool :=
  cs.any (fun c => c = '"' || c = '\\') && cs.all fun c => c ≠ '\'' && !isControl c

/-- A text in the quotes that need no escapes, or in double quotes. -/
def printText (cs : List Char) : List Char :=
  if wantsLiteral cs then '\'' :: cs ++ ['\''] else printQuoted cs

/-- A name, in quotes only where they are needed. -/
def printName (cs : List Char) : List Char :=
  if !cs.isEmpty && cs.all isBareChar then cs else printText cs

end FlowRules.Toml
