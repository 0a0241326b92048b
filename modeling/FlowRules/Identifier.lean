import FlowRules.ConfigError
import FlowRules.Text.Pieces

/-!
# Identifiers

Ports, port groups, devices and rules are named by identifiers of 128 bits, of a type
each. The text is 32 hexadecimal digits in lower case with hyphens after the 8th,
12th, 16th and 20th. Reading also takes upper case, the digits without hyphens, and
the hyphenated form in braces or after `urn:uuid:`.
-/

namespace FlowRules

/-- What an identifier names. -/
inductive Entity where
  | port
  | group
  | device
  | rule
  deriving DecidableEq

/-- The name of one entity of a kind. -/
structure Id (kind : Entity) where
  bits : BitVec 128
  deriving DecidableEq

/-- The attachment point of an interface, or one end of a link. -/
abbrev PortId := Id .port
/-- A named group of ports. -/
abbrev GroupId := Id .group
/-- A forwarding element of the topology. -/
abbrev DeviceId := Id .device
/-- The key under which the condition of a rule is stored. -/
abbrev RuleId := Id .rule

/-! ## Text -/

/-- The lengths of the five groups of digits. -/
def uuidGroups : List Nat := [8, 4, 4, 4, 12]

/-- The digits cut into groups of the given lengths. -/
def groupDigits : List Nat → List Char → List (List Char)
  | [], _ => []
  | n :: ns, cs => cs.take n :: groupDigits ns (cs.drop n)

/-- Lower-case digits in groups with hyphens between them. -/
def uuidText (bits : BitVec 128) : String :=
  String.ofList (joinPieces '-' (groupDigits uuidGroups (hexDigits 32 bits.toNat)))

/-- The value of 32 hexadecimal digits. -/
def uuidDigits? (cs : List Char) : Option (BitVec 128) :=
  if cs.length = 32 then (ofDigits? 16 cs).map (BitVec.ofNat 128) else none

/-- The value of the digits in groups with hyphens between them. -/
def hyphenated? (cs : List Char) : Option (BitVec 128) :=
  let groups := pieces '-' cs
  if groups.map List.length = uuidGroups then uuidDigits? groups.flatten else none

/-- The text after the name of the identifier scheme, in any case. -/
def afterUrn? : List Char → Option (List Char)
  | u :: r :: n :: c :: u' :: u'' :: i :: d :: c' :: rest =>
    if [u, r, n, c, u', u'', i, d, c'].map Char.toLower = "urn:uuid:".toList then some rest
    else none
  | _ => none

/-- The text between braces. -/
def betweenBraces? : List Char → Option (List Char)
  | c :: cs =>
    if c = '\x7b' ∧ cs.getLast? = some '\x7d' then some cs.dropLast else none
  | [] => none

/-- The value of any of the accepted forms. -/
def uuid? (cs : List Char) : Option (BitVec 128) :=
  match uuidDigits? cs with
  | some bits => some bits
  | none =>
    match betweenBraces? cs with
    | some inner => hyphenated? inner
    | none =>
      match afterUrn? cs with
      | some rest => hyphenated? rest
      | none => hyphenated? cs

namespace Id

variable {kind : Entity}

/-- Identifiers compare as numbers, which is the order of their octets. -/
instance : Ord (Id kind) := ⟨fun x y => compare x.bits y.bits⟩

instance : Std.TransOrd (Id kind) where
  eq_swap {x y} :=
    (Std.OrientedCmp.eq_swap : compare x.bits y.bits = (compare y.bits x.bits).swap)
  isLE_trans {x y z} :=
    (Std.TransCmp.isLE_trans : (compare x.bits y.bits).isLE → (compare y.bits z.bits).isLE →
      (compare x.bits z.bits).isLE)

instance : Std.LawfulEqOrd (Id kind) where
  compare_self {x} := (Std.ReflCmp.compare_self : compare x.bits x.bits = .eq)
  eq_of_compare {x y} h := by
    obtain ⟨x⟩ := x
    obtain ⟨y⟩ := y
    have hbits : compare x y = .eq := h
    exact congrArg Id.mk (Std.LawfulEqCmp.eq_of_compare hbits)

/-- The hyphenated text. -/
def text (id : Id kind) : String := uuidText id.bits

/-- The identifier a text writes. -/
def parse (s : String) : Except ConfigError (Id kind) :=
  match uuid? s.toList with
  | some bits => .ok ⟨bits⟩
  | none => .error (.badIdentifier s)

/-- The diagnostic form, which says what the identifier names. -/
def inspect : {kind : Entity} → Id kind → String
  | .port, id => "PortId(" ++ id.text ++ ")"
  | .group, id => "GroupId(" ++ id.text ++ ")"
  | .device, id => "DeviceId(" ++ id.text ++ ")"
  | .rule, id => "RuleId(" ++ id.text ++ ")"

end Id

end FlowRules
