import FlowRules.FlowMatch.Digest
import FlowRules.Report.Columns

/-!
# The table of a flow match

A flow match is shown by a title with its digest, a rule, and its keys, one in each
line.
-/

namespace FlowRules

namespace Report

/-- The title of the table. -/
def flowMatchTitle (m : FlowMatch) : String :=
  "Flow Match (" ++ decimal m.size ++ " keys, user space only: " ++
    (if m.softwareOnly then "true" else "false") ++
    ", crc32: 0x" ++ hex 8 m.checksum.toNat ++ ")\n"

/-- The line between the title and the keys. -/
def rule : String := String.ofList (List.replicate 70 '-') ++ "\n"

/-- The line of a key. -/
def flowKeyLine (index : Nat) (key : FlowKey) : String :=
  decimal index ++ "\t" ++ yesNo key.softwareOnly ++ "\t" ++ key.text ++ "\n"

end Report

open Report

/-- The table of the keys. -/
def FlowMatch.table (m : FlowMatch) : String :=
  let keys := m.keys.zipIdx.map fun (key, index) => flowKeyLine index key
  String.ofList (align
    (flowMatchTitle m ++ rule ++ "IDX\tSW ONLY\tKEY\n" ++ String.join keys).toList)

end FlowRules
