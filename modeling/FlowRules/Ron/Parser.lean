import FlowRules.Ron.Token

/-!
# Reading RON

`parse` reads a text token by token. Attributes in front of the value may switch on
extensions of the notation (`Extensions`). What waits for a value at some token, such
as the brackets that are open, stands on a stack, innermost first, with what it holds
so far, last first; `State` says what may follow. A token that does not fit ends the
reading, and what is open then is left unclosed.
-/

namespace FlowRules.Ron

/-! ## Extensions -/

/-- The extensions with another one switched on, if there is one of the name. -/
def Extensions.enable (e : Extensions) : String → Option Extensions
  | "implicit_some" => some { e with implicitSome := true }
  | "explicit_struct_names" => some { e with explicitNames := true }
  | "unwrap_variant_newtypes" => some { e with sharedParens := true }
  | "unwrap_newtypes" => some e
  | _ => none

mutual

/-- The extensions that attributes switch on, and the tokens after the attributes. -/
def attributes (e : Extensions) : List Token → Option (Extensions × List Token)
  | .mark '#' :: .mark '!' :: .mark '[' :: .word "enable" false :: .mark '(' :: ts =>
    extensions e ts
  | .mark '#' :: _ => none
  | ts => some (e, ts)

/-- The extensions inside an attribute, with commas between them. -/
def extensions (e : Extensions) : List Token → Option (Extensions × List Token)
  | .word name _ :: .mark ')' :: .mark ']' :: ts =>
    match e.enable name with
    | some e => attributes e ts
    | none => none
  | .word name _ :: .mark ',' :: .mark ')' :: .mark ']' :: ts =>
    match e.enable name with
    | some e => attributes e ts
    | none => none
  | .word name _ :: .mark ',' :: ts =>
    match e.enable name with
    | some e => extensions e ts
    | none => none
  | _ => none

end

/-! ## Values -/

/-- Brackets, or the word `Some`, that wait for a value. -/
inductive Frame where
  | item (done : List Ron)
  | part (label : Label) (done : List Ron)
  | field (label : Label) (done : List (String × Ron)) (key : String)
  | content
  | entryKey (done : List (Ron × Ron))
  | entry (done : List (Ron × Ron)) (key : Ron)

/-- What may follow, inside what is open. After a comma brackets may be closed. -/
inductive State where
  | value (frames : List Frame)
  | item (done : List Ron) (frames : List Frame)
  | afterItem (done : List Ron) (frames : List Frame)
  /-- Items or members, behind a parenthesis. -/
  | inParen (label : Label) (frames : List Frame)
  | part (label : Label) (done : List Ron) (frames : List Frame)
  | afterPart (label : Label) (done : List Ron) (frames : List Frame)
  | field (label : Label) (done : List (String × Ron)) (frames : List Frame)
  | afterField (label : Label) (done : List (String × Ron)) (frames : List Frame)
  | entryKey (done : List (Ron × Ron)) (frames : List Frame)
  | colon (done : List (Ron × Ron)) (key : Ron) (frames : List Frame)
  | afterEntry (done : List (Ron × Ron)) (frames : List Frame)
  /-- The value is complete. -/
  | complete (v : Ron)

namespace State

/-- The state after a value. -/
def after (v : Ron) : List Frame → State
  | [] => complete v
  | .item done :: frames => afterItem (v :: done) frames
  | .part label done :: frames => afterPart label (v :: done) frames
  | .field label done key :: frames => afterField label ((key, v) :: done) frames
  | .content :: frames => after (.present v) frames
  | .entryKey done :: frames => colon done v frames
  | .entry done key :: frames => afterEntry ((key, v) :: done) frames

/-- The state after a token where a value may stand. -/
def start (frames : List Frame) : Token → Option State
  | .leaf v => some (after v frames)
  | .mark '[' => some (item [] frames)
  | .mark '\x7b' => some (entryKey [] frames)
  | .paren label => some (inParen label frames)
  | .some => some (value (.content :: frames))
  | _ => none

/-- The state after a word and a colon where a value may stand. The word ends the key of
an entry. -/
def startKey (frames : List Frame) (name : String) (raw : Bool) : Option State :=
  match (wordValue? name raw).map fun k => after k frames with
  | some (colon done k frames) => some (value (.entry done k :: frames))
  | _ => none

/-- The state after a token, if the token fits. -/
def next : State → Token → Option State
  | value frames, .key name raw => startKey frames name raw
  | value frames, t => start frames t
  | item done frames, .mark ']' => some (after (.list done.reverse true) frames)
  | item done frames, t => start (.item done :: frames) t
  | afterItem done frames, .mark ']' => some (after (.list done.reverse true) frames)
  | afterItem done frames, .mark ',' => some (item done frames)
  | inParen label frames, .mark ')' => some (after (.tuple label [] true) frames)
  | inParen label frames, .key name _ => some (value (.field label [] name :: frames))
  | inParen label frames, t => start (.part label [] :: frames) t
  | part label done frames, .mark ')' => some (after (.tuple label done.reverse true) frames)
  | part label done frames, t => start (.part label done :: frames) t
  | afterPart label done frames, .mark ')' => some (after (.tuple label done.reverse true) frames)
  | afterPart label done frames, .mark ',' => some (part label done frames)
  | field label done frames, .mark ')' => some (after (.fields label done.reverse true) frames)
  | field label done frames, .key name _ => some (value (.field label done name :: frames))
  | afterField label done frames, .mark ')' =>
    some (after (.fields label done.reverse true) frames)
  | afterField label done frames, .mark ',' => some (field label done frames)
  | entryKey done frames, .mark '\x7d' => some (after (.map done.reverse true) frames)
  | entryKey done frames, .key name raw => startKey (.entryKey done :: frames) name raw
  | entryKey done frames, t => start (.entryKey done :: frames) t
  | colon done k frames, .mark ':' => some (value (.entry done k :: frames))
  | afterEntry done frames, .mark '\x7d' => some (after (.map done.reverse true) frames)
  | afterEntry done frames, .mark ',' => some (entryKey done frames)
  | _, _ => none

/-- The value in what is open and left unclosed. -/
def unclosed (v : Ron) : List Frame → Ron
  | [] => v
  | .item done :: frames => unclosed (.list (v :: done).reverse false) frames
  | .part label done :: frames => unclosed (.tuple label (v :: done).reverse false) frames
  | .field label done key :: frames =>
    unclosed (.fields label ((key, v) :: done).reverse false) frames
  | .content :: frames => unclosed (.present v) frames
  | .entryKey done :: frames => unclosed (.map ((v, .broken) :: done).reverse false) frames
  | .entry done key :: frames => unclosed (.map ((key, v) :: done).reverse false) frames

/-- What has been read when nothing that fits follows. -/
def abandon : State → Ron
  | value frames => unclosed .broken frames
  | item done frames | afterItem done frames => unclosed (.list done.reverse false) frames
  | inParen label frames => unclosed (.tuple label [] false) frames
  | part label done frames | afterPart label done frames =>
    unclosed (.tuple label done.reverse false) frames
  | field label done frames | afterField label done frames =>
    unclosed (.fields label done.reverse false) frames
  | entryKey done frames | afterEntry done frames => unclosed (.map done.reverse false) frames
  | colon done key frames => unclosed (.map ((key, .broken) :: done).reverse false) frames
  | complete v => v

/-- The value that the tokens write from a state on, and the tokens after it. -/
def run : State → List Token → Ron × List Token
  | complete v, ts => (v, ts)
  | s, [] => (s.abandon, [])
  | s, t :: ts =>
    match s.next t with
    | some s' => run s' ts
    | none => (s.abandon, t :: ts)

end State

/-- A text as far as it is a RON value, the extensions that it switches on, and whether
nothing follows the value. There is none if the attributes in front are faulty. -/
def parse (cs : List Char) : Option (Extensions × Ron × Bool) :=
  (attributes {} (lex cs)).map fun (e, ts) =>
    let (v, rest) := State.run (.value []) (join ts)
    (e, v, rest.isEmpty)

end FlowRules.Ron
