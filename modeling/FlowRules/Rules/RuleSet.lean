import FlowRules.Layout.Stored
import FlowRules.Ron.Stored
import FlowRules.Rules.Error
import FlowRules.Text.Pieces
import FlowRules.Toml.Stored

/-!
# Sets of rules

A set of rules written by hand is a `ConditionSet` in TOML or RON. The name of a file
tells in which of the two it is written (`isRonName`) : what follows the last dot is
the extension, unless nothing stands before that dot.
-/

namespace FlowRules

namespace ConditionSet

/-- The set, or the error of a text that writes none. -/
def orBadRuleSet (read : Except DecodeError ConditionSet) : Except RuleError ConditionSet :=
  match read with
  | .ok set => .ok set
  | .error e => .error (.badRuleSet e.message)

/-- The set that a text in TOML writes. -/
def ofToml (cs : List Char) : Except RuleError ConditionSet :=
  orBadRuleSet (conditionSetLayout.parseToml cs)

/-- The set that a text in RON writes. -/
def ofRon (cs : List Char) : Except RuleError ConditionSet :=
  orBadRuleSet (conditionSetLayout.parseRon cs)

/-- The set as a text in TOML. -/
def toToml (set : ConditionSet) : List Char := conditionSetLayout.printToml set

/-- Is the extension of the file's name that of RON? -/
def isRonName (name : List Char) : Bool :=
  match cut '.' name.reverse with
  | some (extension, stem) => extension.reverse = "ron".toList && !stem.isEmpty
  | none => false

/-- The set that a file of the name and with the content writes. -/
def ofFile (name : List Char) (content : Except FileError (List UInt8)) :
    Except RuleError ConditionSet :=
  match content with
  | .error e => .error (.file e)
  | .ok bytes =>
    match Utf8.decode? bytes with
    | none => .error (.file .badUtf8)
    | some cs => if isRonName name then ofRon cs else ofToml cs

end ConditionSet

end FlowRules
