/-!
# Log lines

What is reported while rules are loaded and packets are matched. A line has a level
and a message. A sink that prints writes each line after the tag of its level, one
that keeps records names the level in four letters, and one may discard everything.
-/

namespace FlowRules

/-- How much a line matters. -/
inductive LogLevel where
  | note
  | warn
  | error
  deriving DecidableEq

namespace LogLevel

/-- The tag in front of a printed line. -/
def tag : LogLevel → String
  | note => "[NOTE]"
  | warn => "[WARN]"
  | error => "[ERROR]"

/-- The name of the level in a record. -/
def recordName : LogLevel → String
  | note => "INFO"
  | warn => "WARN"
  | error => "ERRO"

end LogLevel

/-- A message with its level. -/
structure LogLine where
  level : LogLevel
  message : String
  deriving DecidableEq

namespace LogLine

/-- The tag of the level and the message. -/
def text (line : LogLine) : String := line.level.tag ++ " " ++ line.message

/-- The name of the level and the message. -/
def record (line : LogLine) : String := line.level.recordName ++ " " ++ line.message

end LogLine

/-- Where printed lines go. -/
inductive LogSink where
  | discard
  | print
  deriving DecidableEq

namespace LogSink

/-- Lines are printed unless something else is asked for. -/
instance : Inhabited LogSink := ⟨print⟩

/-- What the sink prints of the lines. -/
def printed : LogSink → List LogLine → String
  | discard, _ => ""
  | print, lines => String.join (lines.map fun line => line.text ++ "\n")

end LogSink

end FlowRules
