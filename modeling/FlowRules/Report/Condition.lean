import FlowRules.Condition.Text
import FlowRules.Layout.Stored
import FlowRules.Report.Columns

/-!
# Tables of conditions

A condition is shown by its name, whether it is negated, and its clauses, one in each
line. If there are several, an empty line follows them.
-/

namespace FlowRules.Report

/-- The titles of the columns. -/
def conditionHeader : String := "NAME\tINV\tCLAUSES\n"

/-- The lines of a condition. -/
def conditionLines (name : String) (c : Condition) : String :=
  let first := name ++ "\t" ++ yesNo c.negated ++ "\t"
  match c.clauses with
  | [] => first ++ "*\n"
  | [clause] => first ++ clause ++ "\n"
  | clause :: more =>
    first ++ clause ++ "\n" ++ String.join (more.map fun clause => "\t\t" ++ clause ++ "\n") ++
      "\t\t\n"

/-- The lines of conditions under their names. -/
def conditionsText (conditions : List (String × Condition)) : String :=
  conditionHeader ++ String.join (conditions.map fun (name, c) => conditionLines name c)

/-- The table of conditions under their names. -/
def conditionTable (conditions : List (String × Condition)) : String :=
  String.ofList (align (conditionsText conditions).toList)

end FlowRules.Report

namespace FlowRules

/-- The table of a condition under a name. -/
def Condition.table (c : Condition) (name : String) : String := Report.conditionTable [(name, c)]

/-- The table of a set of conditions. -/
def ConditionSet.table (set : ConditionSet) : String := Report.conditionTable set.entries

end FlowRules
