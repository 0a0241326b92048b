import FlowRules.Text.Numeral
import FlowRules.Text.Pieces
import FlowRules.Toml.Basic

/-!
# Numbers and times in TOML

`scalar?` reads what is written without quotes and brackets : a truth value, a number,
or a time. Digits may have single underscores between them. A decimal number has no
leading zeros; a number of another base has no sign, and it may have no digits.
-/

namespace FlowRules.Toml

/-! ## Numbers -/

/-- The number of digits with single underscores between them. -/
def looseDigits? (base : Nat) (cs : List Char) : Option Nat :=
  let groups := pieces '_' cs
  if groups.any List.isEmpty then none else ofDigits? base groups.flatten

/-- The number of decimal digits that do not start with a zero, or zero. -/
def decimalDigits? (cs : List Char) : Option Nat :=
  if cs.head? = some '0' ∧ cs.length ≠ 1 then none else looseDigits? 10 cs

/-- The sign in front of a number, and what is after it. -/
def scanSign : List Char → Bool × List Char
  | '-' :: cs => (true, cs)
  | '+' :: cs => (false, cs)
  | cs => (false, cs)

/-- A whole number. -/
def int? : List Char → Option Int
  | '0' :: 'x' :: cs => (looseDigits? 16 cs).map Int.ofNat
  | '0' :: 'o' :: cs => (looseDigits? 8 cs).map Int.ofNat
  | '0' :: 'b' :: cs => (looseDigits? 2 cs).map Int.ofNat
  | cs =>
    let (negative, digits) := scanSign cs
    (decimalDigits? digits).map fun n => if negative then -Int.ofNat n else Int.ofNat n

/-- Is the text the start of a number in another base? -/
def isBase (cs : List Char) : Bool := cs = "0x".toList || cs = "0o".toList || cs = "0b".toList

/-- Is `n` times a power of ten less than what rounds to a number beyond 64 bits? -/
def inFloatRange (n : Nat) (exponent : Int) : Bool :=
  let size := (Nat.toDigits 10 n).length + exponent
  let limit : Nat := 1 <<< 1024 - 1 <<< 970
  if n = 0 ∨ size < 300 then true
  else if 400 < size then false
  else if exponent < 0 then n < limit * Nat.pow 10 exponent.natAbs
  else n * Nat.pow 10 exponent.natAbs < limit

/-- A number with a fraction or an exponent or both : whether it is in range. -/
def float? (cs : List Char) : Option Bool :=
  let (_, cs) := scanSign cs
  if cs = "inf".toList ∨ cs = "nan".toList then some true
  else
    let isE := fun c => c = 'e' ∨ c = 'E'
    let mantissa := cs.takeWhile (! isE ·)
    let exponent? := match cs.dropWhile (! isE ·) with
      | [] => some none
      | _ :: ds =>
        let (negative, ds) := scanSign ds
        (looseDigits? 10 ds).map fun n => some (if negative then -Int.ofNat n else Int.ofNat n)
    match cut '.' mantissa, exponent? with
    | _, none => none
    | none, some none => none
    | none, some (some exponent) =>
      (decimalDigits? mantissa).map fun n => inFloatRange n exponent
    | some (whole, fraction), some exponent => do
      let n ← decimalDigits? whole
      let m ← looseDigits? 10 fraction
      let places := (fraction.filter (· ≠ '_')).length
      return inFloatRange (n * Nat.pow 10 places + m) (exponent.getD 0 - places)

/-! ## Times -/

/-- The number of so many digits, and what is after them. -/
def digits? (count : Nat) (cs : List Char) : Option (Nat × List Char) :=
  let ds := cs.take count
  if ds.length = count then (ofDigits? 10 ds).map fun n => (n, cs.drop count) else none

/-- The number of so many digits behind a mark, if it is in the bounds. -/
def part? (mark : Char) (count first last : Nat) : List Char → Option (Nat × List Char)
  | c :: cs =>
    if c = mark then (digits? count cs).filter fun (n, _) => first ≤ n ∧ n ≤ last else none
  | [] => none

/-- The number of days in a month. -/
def daysIn (year month : Nat) : Nat :=
  if month = 2 then
    if year % 4 = 0 ∧ (year % 100 ≠ 0 ∨ year % 400 = 0) then 29 else 28
  else if [4, 6, 9, 11].contains month then 30
  else 31

/-- What follows a date. -/
def afterDate? (cs : List Char) : Option (List Char) := do
  let (year, cs) ← digits? 4 cs
  let (month, cs) ← part? '-' 2 1 12 cs
  let (_, cs) ← part? '-' 2 1 (daysIn year month) cs
  return cs

/-- What follows the fraction of a second, if there is one. -/
def afterFraction? : List Char → Option (List Char)
  | '.' :: cs =>
    let isDigit := fun c => '0' ≤ c ∧ c ≤ '9'
    if (cs.takeWhile isDigit).isEmpty then none else some (cs.dropWhile isDigit)
  | cs => some cs

/-- What follows a time of day. The seconds may be left out. -/
def afterTime? (cs : List Char) : Option (List Char) := do
  let (_, cs) ← (digits? 2 cs).filter fun (n, _) => n ≤ 23
  let (_, cs) ← part? ':' 2 0 59 cs
  match cs with
  | ':' :: _ => do
    let (_, cs) ← part? ':' 2 0 60 cs
    afterFraction? cs
  | cs => some cs

/-- Is the text the offset of a time zone, or nothing? -/
def isOffset : List Char → Bool
  | [] => true
  | [c] => c = 'Z' || c = 'z'
  | c :: cs =>
    (c = '+' || c = '-') &&
      match (digits? 2 cs).filter fun (n, _) => n ≤ 23 with
      | some (_, cs) =>
        match part? ':' 2 0 59 cs with
        | some (_, cs) => cs.isEmpty
        | none => false
      | none => false

/-- Is the text a date, a time of day, or both? Only both may have an offset. -/
def isTime (cs : List Char) : Bool :=
  match afterDate? cs with
  | some [] => true
  | some (c :: cs) =>
    (c = 'T' || c = 't' || c = ' ') &&
      match afterTime? cs with
      | some rest => isOffset rest
      | none => false
  | none => afterTime? cs = some []

/-! ## Scalars -/

/-- The value that is written without quotes and brackets. -/
def scalar? (cs : List Char) : Option Toml :=
  if cs = "true".toList then some (bool true)
  else if cs = "false".toList then some (bool false)
  else match int? cs with
    | some n => some (int n)
    | none =>
      match float? cs with
      | some inRange => some (number inRange)
      | none =>
        if isTime cs then some time
        else if isBase cs then some (number false)
        else none

/-- May the character stand in a scalar? -/
def isScalarChar (c : Char) : Bool :=
  (digitValue? 36 c).isSome || c = '+' || c = '-' || c = '_' || c = '.' || c = ':'

/-- A scalar, and the text after it. A time of day may follow its date after a blank. -/
def scanScalar (cs : List Char) : Option (Toml × List Char) :=
  let word := cs.takeWhile isScalarChar
  let rest := cs.dropWhile isScalarChar
  match afterDate? word, rest with
  | some [], ' ' :: c :: more =>
    if '0' ≤ c ∧ c ≤ '9' then
      let time := (c :: more).takeWhile isScalarChar
      (scalar? (word ++ ' ' :: time)).map fun v => (v, (c :: more).dropWhile isScalarChar)
    else (scalar? word).map fun v => (v, rest)
  | _, _ => (scalar? word).map fun v => (v, rest)

end FlowRules.Toml
