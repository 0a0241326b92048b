import FlowRules.Json.Token

/-!
# How a document can be written

A document has one tree and many texts : blanks may stand between the tokens, a character of
a string may stand for itself or behind a backslash, and the fraction and the exponent of a
number are kept as they are written. A `Spelling` is one way to write a document, with
everything that the grammar of JSON leaves open. It has a text (`Spelling.text`) and says
what document the text writes (`Spelling.content`), which is always well-formed
(`Spelling.wellFormed_content`).
-/

namespace FlowRules.Json

/-! ## Tokens -/

/-- A character that may stand between tokens. -/
inductive Blank where
  | space
  | tab
  | lineFeed
  | carriageReturn

def Blank.char : Blank → Char
  | space => ' '
  | tab => '\t'
  | lineFeed => '\n'
  | carriageReturn => '\r'

/-- One or more decimal digits. -/
structure Digits where
  first : Fin 10
  more : List (Fin 10) := []

def Digits.text (ds : Digits) : List Char := (ds.first :: ds.more).map fun d => d.val.digitChar

/-- An exponent, with a capital letter or not, and with a minus, a plus or no sign. -/
structure Exponent where
  capital : Bool
  minus : Option Bool
  digits : Digits

def Exponent.text (e : Exponent) : List Char :=
  (if e.capital then 'E' else 'e') ::
    (e.minus.map fun minus => if minus then '-' else '+').toList ++ e.digits.text

/-- A number. Its whole part has no zeros in front. -/
structure NumberSpelling where
  negative : Bool := false
  whole : Nat
  fraction : Option Digits := none
  exponent : Option Exponent := none

namespace NumberSpelling

/-- The fraction, behind its point. -/
def fractionText (n : NumberSpelling) : List Char :=
  match n.fraction with
  | some ds => '.' :: ds.text
  | none => []

def exponentText (n : NumberSpelling) : List Char :=
  match n.exponent with
  | some e => e.text
  | none => []

def text (n : NumberSpelling) : List Char :=
  (if n.negative then ['-'] else []) ++
    (Nat.toDigits 10 n.whole ++ (n.fractionText ++ n.exponentText))

def content (n : NumberSpelling) : JsonNumber :=
  ⟨n.negative, n.whole, (n.fractionText ++ n.exponentText).map byte⟩

end NumberSpelling

/-- A hexadecimal digit. A letter may be a capital. -/
structure HexDigit where
  value : Fin 16
  capital : Bool := false

def HexDigit.char (d : HexDigit) : Char :=
  if d.capital then d.value.val.digitChar.toUpper else d.value.val.digitChar

/-- What may stand behind a backslash. -/
inductive Escape where
  | quote
  | backslash
  | slash
  | backspace
  | formFeed
  | lineFeed
  | carriageReturn
  | tab

namespace Escape

def letter : Escape → Char
  | quote => '"'
  | backslash => '\\'
  | slash => '/'
  | backspace => 'b'
  | formFeed => 'f'
  | lineFeed => 'n'
  | carriageReturn => 'r'
  | tab => 't'

/-- The character that is written by the escape. -/
def meaning : Escape → Char
  | quote => '"'
  | backslash => '\\'
  | slash => '/'
  | backspace => '\x08'
  | formFeed => '\x0c'
  | lineFeed => '\n'
  | carriageReturn => '\r'
  | tab => '\t'

end Escape

/-- A part of a string : a character that stands for itself, an escaped one, or a unit of
16 bits by its hexadecimal digits. -/
inductive StringPart where
  | plain (c : Char) (h : 0x20 ≤ c.toNat ∧ c ≠ '"' ∧ c ≠ '\\')
  | escaped (e : Escape)
  | unit (d₁ d₂ d₃ d₄ : HexDigit)

namespace StringPart

def text : StringPart → List Char
  | plain c _ => [c]
  | escaped e => ['\\', e.letter]
  | unit d₁ d₂ d₃ d₄ => ['\\', 'u', d₁.char, d₂.char, d₃.char, d₄.char]

def pieces : StringPart → List StringPiece
  | plain c _ => (Utf8.encode [c]).map .byte
  | escaped e => [.byte (byte e.meaning)]
  | unit d₁ d₂ d₃ d₄ =>
    [.unit (((d₁.value * 16 + d₂.value) * 16 + d₃.value) * 16 + d₄.value : Nat)]

end StringPart

/-- A string with its quotes. -/
def stringText (parts : List StringPart) : List Char :=
  '"' :: (parts.flatMap StringPart.text ++ ['"'])

/-- The text that a string writes. Half of a surrogate pair writes none. -/
def stringContent (parts : List StringPart) : Option String :=
  StringPiece.text? (parts.flatMap StringPart.pieces)

/-- The name of a member, with the blanks around it. -/
structure NameSpelling where
  before : List Blank := []
  parts : List StringPart
  after : List Blank := []

def NameSpelling.text (name : NameSpelling) : List Char :=
  name.before.map Blank.char ++ (stringText name.parts ++ name.after.map Blank.char)

/-! ## Documents -/

/-- A way to write a document. Arrays and objects have blanks behind the opening bracket,
and any value may have blanks around it. -/
inductive Spelling where
  | null
  | bool (b : Bool)
  | number (n : NumberSpelling)
  | string (parts : List StringPart)
  | array (inner : List Blank) (items : List Spelling)
  | object (inner : List Blank) (members : List (NameSpelling × Spelling))
  | padded (before : List Blank) (v : Spelling) (after : List Blank)

namespace Spelling

mutual

def text : Spelling → List Char
  | .null => "null".toList
  | .bool true => "true".toList
  | .bool false => "false".toList
  | .number n => n.text
  | .string parts => stringText parts
  | .array inner items => '[' :: (inner.map Blank.char ++ (itemsText items ++ [']']))
  | .object inner members =>
    '\x7b' :: (inner.map Blank.char ++ (membersText members ++ ['\x7d']))
  | .padded before v after => before.map Blank.char ++ (v.text ++ after.map Blank.char)

/-- Items with commas between them. -/
def itemsText : List Spelling → List Char
  | [] => []
  | v :: vs => v.text ++ moreItemsText vs

/-- Items with a comma in front of each. -/
def moreItemsText : List Spelling → List Char
  | [] => []
  | v :: vs => ',' :: (v.text ++ moreItemsText vs)

/-- Members with commas between them. -/
def membersText : List (NameSpelling × Spelling) → List Char
  | [] => []
  | (name, v) :: ms => name.text ++ (':' :: (v.text ++ moreMembersText ms))

/-- Members with a comma in front of each. -/
def moreMembersText : List (NameSpelling × Spelling) → List Char
  | [] => []
  | (name, v) :: ms => ',' :: (name.text ++ (':' :: (v.text ++ moreMembersText ms)))

end

mutual

/-- The document that is written. -/
def content : Spelling → Json
  | .null => .null
  | .bool b => .bool b
  | .number n => .number n.content
  | .string parts => .string (stringContent parts)
  | .array _ items => .array (itemsContent items) true
  | .object _ members => .object (membersContent members) true
  | .padded _ v _ => v.content

def itemsContent : List Spelling → List Json
  | [] => []
  | v :: vs => v.content :: itemsContent vs

def membersContent : List (NameSpelling × Spelling) → List (Option String × Json)
  | [] => []
  | (name, v) :: ms => (stringContent name.parts, v.content) :: membersContent ms

end

/-- The bytes of the text. -/
def bytes (v : Spelling) : List UInt8 := Utf8.encode v.text

mutual

/-- What is written is a whole document. -/
theorem wellFormed_content : (v : Spelling) → v.content.wellFormed = true
  | .null => rfl
  | .bool _ => rfl
  | .number _ => rfl
  | .string _ => rfl
  | .array _ items => wellFormed_itemsContent items
  | .object _ members => wellFormed_membersContent members
  | .padded _ v _ => v.wellFormed_content

theorem wellFormed_itemsContent : (vs : List Spelling) → wellFormedItems (itemsContent vs) = true
  | [] => rfl
  | v :: vs => by
    rw [itemsContent, wellFormedItems, v.wellFormed_content, wellFormed_itemsContent vs]
    rfl

theorem wellFormed_membersContent :
    (ms : List (NameSpelling × Spelling)) → wellFormedMembers (membersContent ms) = true
  | [] => rfl
  | (_, v) :: ms => by
    rw [membersContent, wellFormedMembers, v.wellFormed_content, wellFormed_membersContent ms]
    rfl

end

end Spelling

end FlowRules.Json
