import FlowRules.Identifier
import FlowRules.Layout.Members

/-!
# Values in documents

A document is a tree of values that some notation writes as a text. A `DataWriter τ`
says how each part of a layout is written as a tree of the type `τ`, and a
`DataReader τ` what is recognised as such a part. `Layout.write` makes the tree of a
value and `Layout.read` finds the value in a tree, both for any notation.

A record stands under the names of its fields, or in their order (`Parts`). Under
names, fields may come in any order, members with other names are skipped if they can
be, and no field may come twice. In order, only fields at the end may be missing.
-/

namespace FlowRules

/-! ## What a document shows -/

/-- Values in order. The brackets around them may not be `closed`, and some formats
allow values that nobody reads (`loose`). -/
structure Items (τ : Type) where
  values : List τ
  closed : Bool := true
  loose : Bool := false

/-- May the reading end before these values? -/
def Items.endsAt {τ : Type} (items : Items τ) (rest : List τ) : Bool :=
  items.closed && (items.loose || rest.isEmpty)

/-- Values under names. A name may have no content, and the brackets around the values
may not be closed. -/
structure Entries (τ : Type) where
  values : List (Option String × τ)
  closed : Bool := true

/-- The fields of a record as they stand in a document. -/
inductive Parts (τ : Type) where
  | named (entries : Entries τ)
  | ordered (items : Items τ)

/-- A variant as it stands in a document : its name, and what it may be taken to carry.
What it carries is read before it is seen whether the variant `ends` there. -/
structure Choice (τ : Type) where
  name : String
  nothing : Bool := false
  value : Option τ := none
  fields : Option (Parts τ) := none
  ends : Bool := true

/-- What a variant carries into a document. -/
inductive Carried (τ : Type) where
  | nothing
  | value (v : τ)
  | fields (members : List (String × τ))

/-- How values are written as trees of a type. -/
structure DataWriter (τ : Type) where
  bool : Bool → τ
  nat : Nat → τ
  text : String → τ
  /-- As many values as the type says. -/
  tuple : List τ → τ
  list : List τ → τ
  dict : List (String × τ) → τ
  record : List (String × τ) → τ
  /-- The member of an optional field, unless it is left out. -/
  optional : Option τ → Option τ
  variant : String → Carried τ → τ

/-- How values are recognised in trees of a type. -/
structure DataReader (τ : Type) where
  bool? : τ → Option Bool
  /-- A natural number, of those with so many bits, and whether the value ends there. -/
  nat? : Nat → τ → Option (Nat × Bool)
  text? : τ → Option String
  uuid? : τ → Option (BitVec 128)
  tuple? : τ → Option (Items τ)
  list? : τ → Option (Items τ)
  dict? : τ → Option (Entries τ)
  /-- The fields of a record of the name. -/
  record? : String → τ → Option (Parts τ)
  /-- The value of an optional field if it is not absent, and whether it ends there. -/
  optional? : τ → Option (Option (τ × Bool))
  variant? : τ → Option (Choice τ)
  /-- May a member be skipped that has this value? -/
  skippable : τ → Bool

variable {τ : Type}

/-! ## Writing -/

mutual

/-- The tree of a value. -/
def Layout.write (f : DataWriter τ) : {α : Type} → Layout α → α → τ
  | _, .bool, b => f.bool b
  | _, .word _, x => f.nat x.toNat
  | _, .prefixLen, len => f.nat len.val
  | _, .text, s => f.text s
  | _, .uuid, bits => f.text (uuidText bits)
  | _, .octets _, v => f.tuple (v.toList.map fun o => f.nat o.toNat)
  | _, .list l, as => f.list (as.map (l.write f))
  | _, .dict l, entries => f.dict (entries.map fun e => (e.1, l.write f e.2))
  | _, .record _ fields, a => f.record (fields.write f a)
  | _, .choice variants, a => variants.write f a
  | _, .via _ parts _ l, b => l.write f (parts b)

/-- The members of a record. -/
def Fields.write (f : DataWriter τ) : {α : Type} → Fields α → α → List (String × τ)
  | _, .nil, _ => []
  | _, .needed name _ l rest, (a, b) => (name, l.write f a) :: rest.write f b
  | _, .optional name _ l rest, (o, b) =>
    ((f.optional (o.map (l.write f))).map fun v => (name, v)).toList ++ rest.write f b

/-- What a variant carries. -/
def Payload.write (f : DataWriter τ) : {α : Type} → Payload α → α → Carried τ
  | _, .nothing, _ => .nothing
  | _, .value l, a => .value (l.write f a)
  | _, .fields fields, a => .fields (fields.write f a)

/-- The tree of a variant. -/
def Variants.write (f : DataWriter τ) : {α : Type} → Variants α → α → τ
  | _, .nil, e => nomatch e
  | _, .cons name payload rest, s =>
    match s with
    | .inl a => f.variant name (payload.write f a)
    | .inr b => rest.write f b

end

/-! ## Reading -/

/-- Success, if nothing is wrong. -/
def ensure (ok : Bool) : Except DecodeError Unit := if ok then .ok () else .error .malformed

/-- What was recognised. -/
def recognised {α : Type} : Option α → Except DecodeError α
  | some a => .ok a
  | none => .error .malformed

namespace DataReader

/-- The number that a word, refused or not, is made from. -/
def readNat {α : Type} (f : DataReader τ) (w : Nat) (make : Nat → Except DecodeError α) (v : τ) :
    Except DecodeError α := do
  let (n, ends) ← recognised (f.nat? w v)
  let a ← make n
  ensure ends
  return a

/-- The word of a tree. -/
def readWord (f : DataReader τ) (w : Nat) (v : τ) : Except DecodeError (BitVec w) :=
  f.readNat w (FlowRules.readWord w) v

/-- As many octets as asked, and the values after them. -/
def readOctets (f : DataReader τ) :
    (n : Nat) → List τ → Except DecodeError (Vector Octet n × List τ)
  | 0, vs => .ok (#v[], vs)
  | _ + 1, [] => .error .malformed
  | n + 1, v :: vs => do
    let o ← f.readWord 8 v
    let (os, vs) ← f.readOctets n vs
    return (os.insertIdx 0 o, vs)

/-- The value of an optional field. -/
def readOptional {α : Type} (f : DataReader τ) (read : τ → Except DecodeError α) (v : τ) :
    Except DecodeError (Option α) := do
  match ← recognised (f.optional? v) with
  | none => return none
  | some (v, ends) =>
    let a ← read v
    ensure ends
    return some a

end DataReader

namespace Entries

/-- The values under their names, in order. -/
def readValues {α : Type} (read : τ → Except DecodeError α) :
    List (Option String × τ) → Except DecodeError (List (String × α))
  | [] => .ok []
  | (name, v) :: es => do
    let name ← recognised name
    let a ← read v
    return (name, a) :: (← readValues read es)

/-- The values with their places. A name without content stands under no text. -/
def placed (entries : Entries τ) : Members τ :=
  entries.values.zipIdx.filterMap fun ((name, v), i) => name.map fun s => (i, s, v)

/-- A fault at the first name without content. -/
def checkNames (entries : Entries τ) : Located Unit :=
  match entries.values.findIdx? fun e => e.1.isNone with
  | some i => .error (i, .malformed)
  | none => .ok ()

/-- A fault at the end of entries that are not closed. -/
def checkClosed (entries : Entries τ) : Located Unit :=
  if entries.closed then .ok () else .error (entries.values.length, .malformed)

/-- A fault where the entries that are no fields of a record are not in order. -/
def check (f : DataReader τ) (names : List String) (entries : Entries τ) : Located Unit := do
  let skipped := checkMembers (fun name v => names.contains name || f.skippable v) entries.placed
  let _ ← entries.checkNames.both (skipped.both entries.checkClosed)

end Entries

mutual

/-- The value that a tree holds. -/
def Layout.read (f : DataReader τ) : {α : Type} → Layout α → τ → Except DecodeError α
  | _, .bool, v => recognised (f.bool? v)
  | _, .word w, v => f.readWord w v
  | _, .prefixLen, v => f.readNat 8 readPrefixLen v
  | _, .text, v => recognised (f.text? v)
  | _, .uuid, v => recognised (f.uuid? v)
  | _, .octets n, v => do
    let items ← recognised (f.tuple? v)
    let (os, rest) ← f.readOctets n items.values
    ensure (items.endsAt rest)
    return os
  | _, .list l, v => do
    let items ← recognised (f.list? v)
    let as ← items.values.mapM (l.read f)
    ensure items.closed
    return as
  | _, .dict l, v => do
    let entries ← recognised (f.dict? v)
    let as ← Entries.readValues (l.read f) entries.values
    ensure entries.closed
    return as
  | _, .record name fields, v => do fields.read f (← recognised (f.record? name v))
  | _, .choice variants, v => do
    let choice ← recognised (f.variant? v)
    let a ← variants.read f choice
    ensure choice.ends
    return a
  | _, .via make _ _ l, v => (l.read f v).map make

/-- The fields of a record. -/
def Fields.read (f : DataReader τ) : {α : Type} → Fields α → Parts τ → Except DecodeError α
  | _, fields, .named entries => do
    let values := fields.readNamed f entries.placed entries.values.length
    let (a, _) ← (values.both (entries.check f fields.names)).value
    return a
  | _, fields, .ordered items => fields.readOrdered f items items.values

/-- The fields of a record under their names. -/
def Fields.readNamed (f : DataReader τ) : {α : Type} → Fields α → Members τ → Nat → Located α
  | _, .nil, _, _ => .ok ()
  | _, .needed name default l rest, members, size =>
    (pick (l.read f) default name members size).both (rest.readNamed f members size)
  | _, .optional name _ l rest, members, size =>
    (pick (f.readOptional (l.read f)) (some none) name members size).both
      (rest.readNamed f members size)

/-- The fields of a record in order, of which the given values are left. -/
def Fields.readOrdered (f : DataReader τ) :
    {α : Type} → Fields α → Items τ → List τ → Except DecodeError α
  | _, .nil, items, vs => ensure (items.endsAt vs)
  | _, .needed _ default l rest, items, vs => do
    let a ← match vs with
      | [] => recognised default
      | v :: _ => l.read f v
    let b ← rest.readOrdered f items vs.tail
    return (a, b)
  | _, .optional _ omissible l rest, items, vs => do
    let o ← match vs with
      | [] => recognised (if omissible then some none else none)
      | v :: _ => f.readOptional (l.read f) v
    let b ← rest.readOrdered f items vs.tail
    return (o, b)

/-- The variant of a choice. -/
def Variants.read (f : DataReader τ) : {α : Type} → Variants α → Choice τ → Except DecodeError α
  | _, .nil, _ => .error .malformed
  | _, .cons name payload rest, choice =>
    if choice.name = name then (payload.read f choice).map .inl else (rest.read f choice).map .inr

/-- What a variant carries. -/
def Payload.read (f : DataReader τ) : {α : Type} → Payload α → Choice τ → Except DecodeError α
  | _, .nothing, choice => ensure choice.nothing
  | _, .value l, choice => do l.read f (← recognised choice.value)
  | _, .fields fields, choice => do fields.read f (← recognised choice.fields)

end

end FlowRules
