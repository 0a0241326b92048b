import FlowRules.Json.Token

/-!
# Reading JSON

`parse` reads a text token by token. The arrays and objects that are open at some
token stand on a stack, innermost first, with their items and members so far, last
first; `State` says what may follow. A token that does not fit ends the reading :
what is open then is left unclosed (`State.abandon`), and so is the whole text if it
ends too early.
-/

namespace FlowRules.Json

/-- An array or object that waits for a value. -/
inductive Frame where
  | item (done : List Json)
  | member (done : List (Option String × Json)) (name : Option String)

/-- What may follow, inside the open arrays and objects. -/
inductive State where
  | value (frames : List Frame)
  /-- A value, or the end of an array that was just opened. -/
  | firstItem (frames : List Frame)
  /-- A name, or the end of an object that was just opened. -/
  | firstName (frames : List Frame)
  | nextName (done : List (Option String × Json)) (frames : List Frame)
  | colon (done : List (Option String × Json)) (name : Option String) (frames : List Frame)
  | afterItem (done : List Json) (frames : List Frame)
  | afterMember (done : List (Option String × Json)) (frames : List Frame)
  /-- The value is complete. -/
  | complete (v : Json)

namespace State

/-- The state after a value. -/
def after (v : Json) : List Frame → State
  | [] => complete v
  | .item done :: frames => afterItem (v :: done) frames
  | .member done name :: frames => afterMember ((name, v) :: done) frames

/-- The state after a token where a value may stand. -/
def start (frames : List Frame) : Token → Option State
  | .null => some (after .null frames)
  | .bool b => some (after (.bool b) frames)
  | .number n => some (after (.number n) frames)
  | .string s => some (after (.string s) frames)
  | .openArray => some (firstItem frames)
  | .openObject => some (firstName frames)
  | _ => none

/-- The state after a token, if the token fits. -/
def next : State → Token → Option State
  | value frames, t => start frames t
  | firstItem frames, .closeArray => some (after (.array [] true) frames)
  | firstItem frames, t => start (.item [] :: frames) t
  | firstName frames, .closeObject => some (after (.object [] true) frames)
  | firstName frames, .string s => some (colon [] s frames)
  | nextName done frames, .string s => some (colon done s frames)
  | colon done s frames, .colon => some (value (.member done s :: frames))
  | afterItem done frames, .comma => some (value (.item done :: frames))
  | afterItem done frames, .closeArray => some (after (.array done.reverse true) frames)
  | afterMember done frames, .comma => some (nextName done frames)
  | afterMember done frames, .closeObject => some (after (.object done.reverse true) frames)
  | _, _ => none

/-- The value in the open arrays and objects, which are left unclosed. -/
def unclosed (v : Json) : List Frame → Json
  | [] => v
  | .item done :: frames => unclosed (.array (v :: done).reverse false) frames
  | .member done name :: frames => unclosed (.object ((name, v) :: done).reverse false) frames

/-- What has been read when nothing that fits follows. -/
def abandon : State → Json
  | value frames => unclosed .broken frames
  | firstItem frames => unclosed (.array [] false) frames
  | firstName frames => unclosed (.object [] false) frames
  | nextName done frames => unclosed (.object done.reverse false) frames
  | colon done _ frames => unclosed (.object done.reverse false) frames
  | afterItem done frames => unclosed (.array done.reverse false) frames
  | afterMember done frames => unclosed (.object done.reverse false) frames
  | complete v => v

/-- The value that the tokens write from a state on, and the tokens after it. -/
def run : State → List Token → Json × List Token
  | complete v, ts => (v, ts)
  | s, [] => (s.abandon, [])
  | s, t :: ts =>
    match s.next t with
    | some s' => run s' ts
    | none => (s.abandon, t :: ts)

end State

/-- A text as far as it is a JSON value, and whether nothing follows the value. -/
def parse (bytes : List UInt8) : Json × Bool :=
  let (v, rest) := State.run (.value []) (lex bytes)
  (v, rest.isEmpty)

end FlowRules.Json
