import FlowRules.Table
import FlowRules.Toml.Basic

/-!
# From statements to a table and back

`ofStatements?` carries out the statements of a document. While it does, each table
remembers how it came about (`Origin`), because this decides what may be added to it :
a statement opens a table once, a dotted name adds only to tables that dotted names
have made, and neither adds to a value. `toStatements` lists the statements that write
a table : each table's own values first, then the tables in it.
-/

namespace FlowRules.Toml

/-- How a table came about. -/
inductive Origin where
  /-- By opening a table inside it. -/
  | onTheWay
  /-- By a dotted name of a value. -/
  | dotted
  | opened
  deriving DecidableEq

/-- A part of a document that is not complete. -/
inductive Node where
  | value (v : Toml)
  | table (origin : Origin) (members : List (String × Node))
  /-- The tables of an array that statements open, last first. -/
  | tables (elements : List (List (String × Node)))

namespace Node

/-- The parts under names, in ascending order of the names. -/
abbrev Members := List (String × Node)

/-- The members with the one under the name changed. -/
def alter (name : String) (f : Option Node → Option Node) (members : Members) : Option Members :=
  (f (Table.find? name members)).map fun node => Table.insertEntry name node members

/-- The members with those of the table under a path changed. The path goes through the
last table of an array, and makes tables where there are none. -/
def within (f : Members → Option Members) : List String → Members → Option Members
  | [], members => f members
  | name :: path, members =>
    members |> alter name fun
      | none => (within f path []).map (.table .onTheWay)
      | some (.table origin inner) => (within f path inner).map (.table origin)
      | some (.tables (last :: others)) => (within f path last).map fun t => .tables (t :: others)
      | _ => none

/-- The members with a value put under a dotted name. The table that the last name of
several is put into must be made by dotted names; on the way to it the name may go
through other tables that no statement has opened, and the last tables of arrays. -/
def assign (v : Toml) : List String → Members → Option Members
  | [], _ => none
  | [name], members =>
    members |> alter name fun
      | none => some (.value v)
      | some _ => none
  | name :: path, members =>
    members |> alter name fun
      | none => (assign v path []).map (.table .dotted)
      | some (.table .dotted inner) => (assign v path inner).map (.table .dotted)
      | some (.table .onTheWay inner) =>
        if path.length = 1 then none else (assign v path inner).map (.table .onTheWay)
      | some (.tables (last :: others)) =>
        if path.length = 1 then none
        else (assign v path last).map fun t => .tables (t :: others)
      | _ => none

/-- A table that no statement has opened, opened. -/
def openTable : Option Node → Option Node
  | none => some (.table .opened [])
  | some (.table .onTheWay inner) => some (.table .opened inner)
  | _ => none

/-- An array of opened tables with a new one. -/
def openElement : Option Node → Option Node
  | none => some (.tables [[]])
  | some (.tables elements) => some (.tables ([] :: elements))
  | _ => none

mutual

/-- The value that a part is in the end. -/
def toToml : Node → Toml
  | value v => v
  | table _ members => .table (membersToToml members)
  | tables elements => .array (elementsToToml elements).reverse

/-- The values that members are in the end. -/
def membersToToml : List (String × Node) → List (String × Toml)
  | [] => []
  | (name, node) :: ms => (name, node.toToml) :: membersToToml ms

/-- The values that tables are in the end. -/
def elementsToToml : List (List (String × Node)) → List Toml
  | [] => []
  | t :: ts => .table (membersToToml t) :: elementsToToml ts

end

end Node

/-- The open table's path and the members of the document after a statement. -/
def step : List String × Node.Members → Statement → Option (List String × Node.Members)
  | (opened, members), .assign path v =>
    (Node.within (Node.assign v path) opened members).map fun ms => (opened, ms)
  | (_, members), .openTable path => openAt Node.openTable path members
  | (_, members), .openElement path => openAt Node.openElement path members
where
  /-- The state after opening what is at the path. -/
  openAt (f : Option Node → Option Node) (path : List String) (members : Node.Members) :
      Option (List String × Node.Members) :=
    match path.getLast? with
    | some name => (Node.within (Node.alter name f) path.dropLast members).map fun ms => (path, ms)
    | none => none

/-- The members of the document that the statements write. -/
def ofStatements? (statements : List Statement) : Option (List (String × Toml)) :=
  (statements.foldlM step ([], [])).map fun (_, members) => Node.membersToToml members

/-- The table of values under dotted names. -/
def ofAssignments? (assignments : List (List String × Toml)) : Option Toml :=
  (assignments.foldlM (fun ms (path, v) => Node.assign v path ms) []).map fun ms =>
    .table (Node.membersToToml ms)

/-! ## Back to statements -/

/-- Is the value a table? -/
def isTable : Toml → Bool
  | table _ => true
  | _ => false

mutual

/-- The statements that write a table at a path. The table is opened if it has values of
its own, or nothing at all. -/
def tableStatements (path : List String) : Toml → List Statement
  | table members =>
    let values := valueStatements members
    let opening :=
      if path.isEmpty || (values.isEmpty && !members.isEmpty) then [] else [.openTable path]
    opening ++ values ++ innerStatements path members
  | _ => []

/-- The statements that write the values among the members. -/
def valueStatements : List (String × Toml) → List Statement
  | [] => []
  | (name, v) :: ms => (if v.isTable then [] else [.assign [name] v]) ++ valueStatements ms

/-- The statements that write the tables among the members. -/
def innerStatements (path : List String) : List (String × Toml) → List Statement
  | [] => []
  | (name, v) :: ms => tableStatements (path ++ [name]) v ++ innerStatements path ms

end

/-- The statements that write a document. -/
def toStatements (members : List (String × Toml)) : List Statement :=
  tableStatements [] (table members)

end FlowRules.Toml
