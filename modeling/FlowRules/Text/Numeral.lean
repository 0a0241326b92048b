/-!
# Numerals

Numbers are read from digits of a given base and written without leading zeros.
`ofDigits?` reads a list of digits of any length, with any number of leading zeros;
`unsigned?` also allows one `+` in front and bounds the value, which is how a number
inside an address is written. `decimal` and `hex` write a number, the latter with
leading zeros up to a width.
-/

namespace FlowRules

/-! ## Reading -/

/-- The value of a digit : `0` to `9`, then the letters in either case from ten up. -/
def digitValue? (base : Nat) (c : Char) : Option Nat :=
  let value :=
    if '0' ≤ c ∧ c ≤ '9' then some (c.toNat - 48)
    else if 'a' ≤ c ∧ c ≤ 'z' then some (c.toNat - 87)
    else if 'A' ≤ c ∧ c ≤ 'Z' then some (c.toNat - 55)
    else none
  value.filter (· < base)

/-- Is the character a digit of `base`? -/
def isDigitOf (base : Nat) (c : Char) : Bool := (digitValue? base c).isSome

/-- The number that extends the leading digits `n` by one digit. -/
def addDigit? (base n : Nat) (c : Char) : Option Nat :=
  (digitValue? base c).map (n * base + ·)

/-- The number written by one or more digits of `base`. -/
def ofDigits? (base : Nat) : List Char → Option Nat
  | [] => none
  | c :: cs => (c :: cs).foldlM (addDigit? base) 0

/-- The number up to `max` written by digits of `base`, with at most one `+` in front. -/
def unsigned? (base max : Nat) (cs : List Char) : Option Nat :=
  let digits := match cs with
    | '+' :: ds => ds
    | ds => ds
  (ofDigits? base digits).filter (· ≤ max)

/-! ## Writing -/

/-- The digits of `n` in base ten. -/
def decimal (n : Nat) : String := String.ofList (Nat.toDigits 10 n)

/-- The lower-case hexadecimal digits of `n`, with zeros in front up to `width`. -/
def hexDigits (width n : Nat) : List Char :=
  let ds := Nat.toDigits 16 n
  List.replicate (width - ds.length) '0' ++ ds

/-- The lower-case hexadecimal numeral of `n`, with zeros in front up to `width`. -/
def hex (width n : Nat) : String := String.ofList (hexDigits width n)

/-- The upper-case hexadecimal numeral of `n`, with zeros in front up to `width`. -/
def upperHex (width n : Nat) : String :=
  String.ofList ((hexDigits width n).map Char.toUpper)

end FlowRules
