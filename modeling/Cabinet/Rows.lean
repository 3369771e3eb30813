import Cabinet.Schema.Apply

/-!
Rows of the tables of a workspace: values are checked by their columns before they are stored, and
searches answer with a part of the rows and with their number.
-/

namespace Cabinet.Rows

open Operation Storage

def source : String := "tagged_tables.rows"

/-- Names that no one may assign to. -/
def skippedNames : List String := ["id", "date_modified", "hidden"]

/-- Values by the names of their columns; the last value that is given for a name counts. -/
def byName (data : List (String × Value)) : Fields Value :=
  Fields.ofAssignments
    (((Fields.ofAssignments data).map fun (key, v) => (Name.normalize key, v)).filter
      fun (name, _) => !skippedNames.contains name)

/-- Requires that a title, if there is one, says something; and that there is one. -/
def ensureTitle (isRequired : Bool) (values : Fields Value) : Except Error Unit :=
  match values.get? "title" with
  | none => if isRequired then .error .titleMissing else .ok ()
  | some (.text s) => if Text.isAllBlank s.toList then .error .titleBlank else .ok ()
  | some _ => .error .titleBlank

/-- The value that is stored for a given one; nothing stays nothing. -/
def stored (c : Column) : Value → Except Error Value
  | .null => .ok .null
  | v => c.accept v

/-- What every new row begins with. -/
def initial (time : Int) : Fields Value :=
  [("date_created", .int time), ("date_modified", .int time), ("hidden", .int 0)]

/-- Checks values one after another; a name that no column has is warned of and passed over. -/
def acceptKnown (table : String) (t : Table) :
    Fields Value → Fields Value → Operation (Fields Value)
  | [], accepted => return accepted
  | (name, v) :: rest, accepted =>
    match t.columns.get? name with
    | none => do
      log .warning source ("Ignoring unknown column '" ++ name ++ "' for table '" ++ table ++ "'")
      acceptKnown table t rest accepted
    | some c => do
      let v ← Operation.of (stored c v)
      acceptKnown table t rest (accepted.put name v)

/-- Checks values one after another; each must be for a column. -/
def acceptAll (table : String) (t : Table) : Fields Value → Except Error (Fields Value)
  | [] => .ok []
  | (name, v) :: rest =>
    match t.columns.get? name with
    | none => .error (.columnUnknown name table)
    | some c => do
      let v ← stored c v
      let others ← acceptAll table t rest
      return (name, v) :: others

/-- The one row that goes by an id. -/
def single (table : String) (id : Int) : List (Fields Cell) → Except Error (Fields Cell)
  | row :: _ => .ok row
  | [] => .error (.rowMissing id table)

/-- Stores a new row, and answers with it. -/
def create (f : Folders) (id givenTable : String) (data : List (String × Value)) :
    Operation (Fields Cell) := do
  let table := Name.normalize givenTable
  let t ← Schema.table f id table
  let values := byName data
  Operation.of (ensureTitle true values)
  let values ← acceptKnown table t values (initial (← now))
  Store.transaction (← Store.existing f id) fun db => do
    let (row, db) ← (Statement.insert table values).on db
    let rows ← (Statement.rowsById table row).on db
    return (← single table row rows, db)

def get (f : Folders) (id givenTable : String) (row : Int) : Operation (Fields Cell) := do
  let table := Name.normalize givenTable
  let _ ← Schema.table f id table
  let tables ← Store.connect (← Store.existing f id)
  let rows ← Store.ask tables (Statement.rowsById table row)
  Operation.of (single table row rows)

/-- Stores values in one row, and answers with it. -/
def write (f : Folders) (id table : String) (row : Int) (values : Fields Value) :
    Operation (Fields Cell) := do
  Store.transaction (← Store.existing f id) fun db => do
    let (n, db) ← (Statement.update table row values).on db
    if n = 0 then throw (.rowMissing row table)
    let rows ← (Statement.rowsById table row).on db
    return (← single table row rows, db)

/-- Changes the values that are given, and answers with the row. -/
def update (f : Folders) (id givenTable : String) (row : Int) (data : List (String × Value)) :
    Operation (Fields Cell) := do
  let table := Name.normalize givenTable
  let t ← Schema.table f id table
  let values := byName data
  Operation.of (ensureTitle false values)
  let values ← Operation.of (acceptAll table t values)
  write f id table row (values.put "date_modified" (.int (← now)))

/-- Hides or shows a row. -/
def setVisibility (f : Folders) (id givenTable : String) (row : Int) (hidden : Value) :
    Operation (Fields Cell) := do
  match Column.flag? hidden with
  | none => throw (.badVisibility hidden)
  | some flag =>
    let table := Name.normalize givenTable
    let _ ← Schema.table f id table
    write f id table row [("hidden", .int flag), ("date_modified", .int (← now))]

def delete (f : Folders) (id givenTable : String) (row : Int) : Operation Unit := do
  let table := Name.normalize givenTable
  let _ ← Schema.table f id table
  Store.transaction (← Store.existing f id) fun db => do
    let (n, db) ← (Statement.delete table row).on db
    if n = 0 then throw (.rowMissing row table)
    return ((), db)

/-- What is searched for, in which order, and which part of it is wanted. -/
structure SearchOptions where
  query : Value := .null
  sort : Value := .null
  descending : Bool := false
  random : Bool := false
  limit : Value := .null
  offset : Value := .int 0
  includeHidden : Bool := false

/-- A part of the rows that were found; how many rows can be seen, and how many were found. -/
structure SearchResult where
  rows : List (Fields Cell)
  total : Nat
  filtered : Nat

/-- A count that may be absent. -/
def count? (what : String) : Value → Except Error (Option Int)
  | .null => .ok none
  | .int n => if n < 0 then .error (.badCount what (.int n)) else .ok (some n)
  | v => .error (.badCount what v)

/-- The condition that a row is not hidden. -/
def visible : Condition :=
  .clause (.compare "hidden" .equal (.int 0))

/-- What is logged where a search text is taken for words of the title. -/
def noteFallback (query : Value) : Operation Unit := do
  match query with
  | .text s =>
    if Text.isAllBlank s.toList then return ()
    match Search.read s with
    | .ok _ => return ()
    | .error e =>
      log .debug "tagged_tables.search"
        ("Falling back to title search for " ++ Error.quote s ++ ": " ++ e.message)
  | _ => return ()

/-- The rows that a search finds. -/
def search (f : Folders) (id givenTable : String) (options : SearchOptions) :
    Operation SearchResult := do
  let limit? ← Operation.of (count? "limit" options.limit)
  let offset? ← Operation.of (count? "offset" options.offset)
  let table := Name.normalize givenTable
  let t ← Schema.table f id table
  let columns := t.ordered
  let order ← Operation.of
    (Search.compileOrder columns options.sort options.descending options.random)
  noteFallback options.query
  let condition ← Operation.of (Search.compile columns options.query)
  let seen := if options.includeHidden then .always else visible
  let found := seen.and condition
  let tables ← Store.connect (← Store.existing f id)
  let total ← Store.ask tables (Statement.count table seen)
  let filtered ← Store.ask tables (Statement.count table found)
  let rows ← Store.ask tables (Statement.query table found order limit? (offset?.getD 0))
  return { rows, total, filtered }

end Cabinet.Rows
