import FlowRules.ConfigError
import FlowRules.Identifier

/-!
# Errors of rules

Why a rule cannot be loaded or stored, or a set of rules not be read.
-/

namespace FlowRules

/-- Why a file cannot be read as a text. -/
inductive FileError where
  | missing
  | directory
  | badUtf8
  deriving DecidableEq

/-- The cause in words. -/
def FileError.message : FileError → String
  | missing => "No such file or directory (os error 2)"
  | directory => "Is a directory (os error 21)"
  | badUtf8 => "stream did not contain valid UTF-8"

/-- Why there is no rule, or no set of rules. -/
inductive RuleError where
  | notFound (id : RuleId)
  | undecodable (id : RuleId) (reason : String)
  | unencodable (reason : String)
  | badRuleSet (reason : String)
  | file (cause : FileError)
  | invalid (cause : ConfigError)
  | store (reason : String)
  deriving DecidableEq

/-- The cause in words. -/
def RuleError.message : RuleError → String
  | notFound id => "rule " ++ id.text ++ " not found"
  | undecodable id reason => "failed to decode rule " ++ id.text ++ ": " ++ reason
  | unencodable reason => "failed to encode: " ++ reason
  | badRuleSet reason => "failed to parse rule set: " ++ reason
  | file cause => "I/O error: " ++ cause.message
  | invalid cause => cause.message
  | store reason => "rule store error: " ++ reason

end FlowRules
