import FlowRules.Layout.Document
import FlowRules.Ron.Token

/-!
# Where a value of RON stands

What a value of RON may be depends on where it stands : how far the brackets in it may
still be nested, and whether the parentheses around it are its own as well. A
`Ron.Place` is a value with both. The recognisers here hand out the values inside a
value with the places where these stand.

Each step inwards takes up some of the `room` that a whole text has. It runs out only
for values that are skipped, because those that are read have the bounded depth of
their type.
-/

namespace FlowRules.Ron

/-! ## Skipping a value -/

mutual

/-- May the value be skipped where it has so much room? The brackets in it must be closed,
there must be room for them, and a whole number that is not decimal must have a value
of 64 bits. -/
def skippable (e : Extensions) (room : Nat) : Ron → Bool
  | int n exact => !exact || n.decimal || fits n.negative n.size 64 n.negative
  | present v => e.implicitSome && 0 < room && skippable e (room - 1) v
  | list items closed => closed && 0 < room && itemsSkippable e (room - 1) items
  | map entries closed => closed && 0 < room && entriesSkippable e (room - 1) entries
  | tuple label items closed =>
    closed && 0 < room &&
      if label = .some then contentSkippable e (room - 1) items
      else itemsSkippable e (room - 1) items
  | fields label members closed =>
    closed && 0 < room &&
      if label = .some then
        e.sharedParens && 1 < room && membersSkippable e (room - 2) members
      else membersSkippable e (room - 1) members
  | broken => false
  | _ => true

/-- May the items be skipped? -/
def itemsSkippable (e : Extensions) (room : Nat) : List Ron → Bool
  | [] => true
  | v :: vs => 0 < room && skippable e (room - 1) v && itemsSkippable e room vs

/-- May the items in the parentheses behind `Some` be skipped? Only one of them is a value
without sharing the parentheses. -/
def contentSkippable (e : Extensions) (room : Nat) : List Ron → Bool
  | [] => e.sharedParens
  | v :: vs =>
    if vs.isEmpty then skippable e room v
    else e.sharedParens && 1 < room && skippable e (room - 2) v && itemsSkippable e (room - 1) vs

/-- May the keys and values of the entries be skipped? -/
def entriesSkippable (e : Extensions) (room : Nat) : List (Ron × Ron) → Bool
  | [] => true
  | (k, v) :: es =>
    0 < room && skippable e (room - 1) k && skippable e (room - 1) v && entriesSkippable e room es

/-- May the values of the members be skipped? -/
def membersSkippable (e : Extensions) (room : Nat) : List (String × Ron) → Bool
  | [] => true
  | (_, v) :: ms => 0 < room && skippable e (room - 1) v && membersSkippable e room ms

end

/-! ## Places -/

/-- The room that a whole text has. -/
def wholeRoom : Nat := 128

/-- A value where it stands. If it is `shared` its parentheses are those of the word in
front of them, and a record or items may have them as their own; for all else they
must hold one value, which is meant. -/
structure Place where
  value : Ron
  room : Nat := wholeRoom
  shared : Bool := false

namespace Place

/-- The value itself, if it needs parentheses of its own. -/
def own? (p : Place) : Option Ron :=
  if p.shared then
    match p.value with
    | tuple _ [v] true => some v
    | _ => none
  else some p.value

/-- The place of a value so many steps inside. -/
def inner (p : Place) (steps : Nat) (v : Ron) : Place := { value := v, room := p.room - steps }

/-- The truth value at a place. -/
def bool? (p : Place) : Option Bool :=
  match p.own? with
  | some (bool b) => some b
  | _ => none

/-- The natural number that a place starts with, and whether it ends there. The type
behind it may only be the one with so many bits. -/
def natural? (w : Nat) (p : Place) : Option (Nat × Bool) :=
  match p.own? with
  | some (int n exact) =>
    if (!n.negative || n.size = 0) && n.type.all (· = "u" ++ decimal w) then some (n.size, exact)
    else none
  | _ => none

/-- The text at a place. -/
def text? (p : Place) : Option String :=
  match p.own? with
  | some (text s) => some s
  | _ => none

/-- The items in parentheses that have no name, or are shared. -/
def tuple? (p : Place) : Option (Items Place) :=
  match p.value with
  | tuple label items closed =>
    if p.shared || label = .nothing then some { values := items.map (p.inner 2), closed } else none
  | unit => if p.shared then none else some { values := [] }
  | _ => none

/-- The items in brackets. -/
def list? (p : Place) : Option (Items Place) :=
  match p.own? with
  | some (list items closed) => some { values := items.map (p.inner 2), closed }
  | _ => none

/-- The text of a key. -/
def keyText? : Ron → Option String
  | text s => some s
  | _ => none

/-- The entries in braces. A key that is no text is a name without content. -/
def dict? (p : Place) : Option (Entries Place) :=
  match p.own? with
  | some (map entries closed) =>
    some { values := entries.map fun (key, v) => (keyText? key, p.inner 2 v), closed }
  | _ => none

/-- Members in parentheses. -/
def parts (p : Place) (members : List (String × Ron)) (closed : Bool) : Parts Place :=
  .named { values := members.map fun (name, v) => (some name, p.inner 2 v), closed }

/-- May the parentheses with the label be those of a record of the name? -/
def allowsLabel (e : Extensions) (name : String) (p : Place) : Label → Bool
  | .nothing => p.shared || !e.explicitNames
  | .name written => p.shared || written = name
  | .some => p.shared

/-- The fields of a record of the name. -/
def record? (e : Extensions) (name : String) (p : Place) : Option (Parts Place) :=
  match p.value with
  | fields label members closed =>
    if p.allowsLabel e name label then some (p.parts members closed) else none
  | tuple label [] closed => if p.allowsLabel e name label then some (p.parts [] closed) else none
  | unit => if !p.shared && p.allowsLabel e name .nothing then some (p.parts [] true) else none
  | _ => none

/-- The place of what stands in the parentheses behind a word, and whether it ends there,
so many steps inside. The first of several items is read before the others are seen. -/
def content? (e : Extensions) (steps : Nat) (p : Place) : Option (Place × Bool) :=
  let shared : Place × Bool := ({ p with room := p.room - steps, shared := true }, true)
  match p.value with
  | tuple _ items closed =>
    if e.sharedParens then some shared
    else items.head?.map fun v => (p.inner steps v, items.tail.isEmpty && closed)
  | fields _ _ _ => if e.sharedParens then some shared else none
  | _ => none

/-- The value of an optional field if it is not absent, and whether it ends there. -/
def optional? (e : Extensions) (p : Place) : Option (Option (Place × Bool)) :=
  match p.own? with
  | some absent => some none
  | some (present v) => if e.implicitSome then some (some (p.inner 1 v, true)) else none
  | some (tuple .some items closed) =>
    ((p.inner 0 (tuple .some items closed)).content? e 1).map some
  | some (fields .some members closed) =>
    ((p.inner 0 (fields .some members closed)).content? e 1).map some
  | some v => if e.implicitSome then some (some (p.inner 1 v, true)) else none
  | none => none

/-- The place as a variant. -/
def variant? (e : Extensions) (p : Place) : Option (Choice Place) :=
  p.own?.bind fun v =>
    let p := p.inner 0 v
    let content := p.content? e 2
    let carrying (name : String) (fields : Option (Parts Place)) : Choice Place :=
      { name, fields, value := content.map Prod.fst, ends := content.all Prod.snd }
    match v with
    | word name => some { name, nothing := true }
    | tuple (.name name) items closed =>
      let parts := (p.inner 1 v).parts [] closed
      some (carrying name (if items.isEmpty then some parts else none))
    | fields (.name name) members closed =>
      some (carrying name (some ((p.inner 1 v).parts members closed)))
    | _ => none

/-- May the value at a place be skipped? Members are skipped, and they share nothing. -/
def skippable (e : Extensions) (p : Place) : Bool := p.value.skippable e p.room

end Place

end FlowRules.Ron
