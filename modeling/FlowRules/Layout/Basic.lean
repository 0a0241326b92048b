import FlowRules.Address.Prefix

/-!
# Layouts of stored values

A value is stored in one of several formats, and each format is written and read by
the same description of the value's type. A `Layout α` says of what parts the values
of `α` are made : words, texts and identifiers at the leaves, lists, dictionaries,
records with named fields and choices between named variants. `Layout.via` describes a
type by another one that it is read from and written to.

A field of a record may have a default, which stands for the field where a document
leaves it out. The value of an optional field may be absent (`Fields.optional`).
-/

namespace FlowRules

mutual

/-- The parts that the values of a type are made of. -/
inductive Layout : Type → Type 1
  | bool : Layout Bool
  /-- A word of `w` bits, as the number it is. -/
  | word (w : Nat) : Layout (BitVec w)
  /-- A prefix length, which is refused above 32. -/
  | prefixLen : Layout PrefixLen
  | text : Layout String
  | uuid : Layout (BitVec 128)
  /-- As many octets as the number says. -/
  | octets (n : Nat) : Layout (Vector Octet n)
  | list {α : Type} (l : Layout α) : Layout (List α)
  /-- Values under texts, in any order and with repetitions. -/
  | dict {α : Type} (l : Layout α) : Layout (List (String × α))
  | record {α : Type} (name : String) (fields : Fields α) : Layout α
  | choice {α : Type} (variants : Variants α) : Layout α
  /-- A type whose values are made from those of another one and taken apart again. -/
  | via {α β : Type} (make : α → β) (parts : β → α) (make_parts : ∀ b, make (parts b) = b)
      (l : Layout α) : Layout β

/-- The fields of a record, in order. -/
inductive Fields : Type → Type 1
  | nil : Fields Unit
  | needed {α β : Type} (name : String) (default : Option α) (l : Layout α) (rest : Fields β) :
      Fields (α × β)
  /-- A field whose value may be absent. A record written without names may end before
  the field only if it is `omissible`. -/
  | optional {α β : Type} (name : String) (omissible : Bool) (l : Layout α) (rest : Fields β) :
      Fields (Option α × β)

/-- What a variant of a choice carries. -/
inductive Payload : Type → Type 1
  | nothing : Payload Unit
  | value {α : Type} (l : Layout α) : Payload α
  | fields {α : Type} (fields : Fields α) : Payload α

/-- The variants of a choice, in order. -/
inductive Variants : Type → Type 1
  | nil : Variants Empty
  | cons {α β : Type} (name : String) (payload : Payload α) (rest : Variants β) : Variants (α ⊕ β)

end

/-- The names of the fields. -/
def Fields.names : {α : Type} → Fields α → List String
  | _, .nil => []
  | _, .needed name _ _ rest => name :: rest.names
  | _, .optional name _ _ rest => name :: rest.names

end FlowRules
