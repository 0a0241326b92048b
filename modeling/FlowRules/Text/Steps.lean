/-!
# Reading a text in steps

`steps` repeats a step that takes something from the front of a text, gives the values
it found there, and says whether another step follows.
-/

namespace FlowRules

/-- What a step finds, the text after it, and whether another step follows. -/
abbrev Step (α : Type) := List Char → Option (List α × List Char × Bool)

/-- The values of all steps, and the text after the last one. A step that takes nothing
must be the last. -/
def steps {α : Type} (step : Step α) (cs : List Char) : Option (List α × List Char) :=
  match step cs with
  | none => none
  | some (found, rest, false) => some (found, rest)
  | some (found, rest, true) =>
    if rest.length < cs.length then
      (steps step rest).map fun (more, rest) => (found ++ more, rest)
    else none
termination_by cs.length

end FlowRules
