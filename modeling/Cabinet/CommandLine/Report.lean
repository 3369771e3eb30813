import Cabinet.Assignment
import Cabinet.Backups
import Cabinet.CommandLine.Command
import Cabinet.Display
import Cabinet.Rows

/-!
What commands do in a workspace, and what they print.
-/

namespace Cabinet

open Operation

/-- What a command prints, and the problem that it ends with after that. -/
structure Report where
  lines : List (List Char) := []
  problem? : Option Error := none

namespace Report

def ofLines (lines : List (List Char)) : Report where
  lines

def line (s : String) : Report :=
  ofLines [s.toList]

def nothing : Report where
  lines := []

/-- Databases with what is shown of them. -/
def ofDatabases (records : List Record) : Report :=
  let fields (r : Record) : Fields Value :=
    [("id", r.id), ("name", r.displayName), ("hidden", .bool r.hidden),
      ("created", r.createdAt), ("modified", r.modifiedAt)]
  ofLines (Display.tableLines ["id", "name", "hidden", "created", "modified"] (records.map fields))

/-- A database, and its description if it has one. -/
def ofDatabase (r : Record) : Report :=
  ofLines ((ofDatabases [r]).lines ++
    if r.description.truthy then [r.description.plain] else [])

def ofTables (tables : Fields Table) : Report :=
  let fields : String × Table → Fields Value := fun (name, t) =>
    [("name", .text name), ("hidden", .bool t.hidden), ("columns", .int t.columns.length)]
  ofLines (Display.tableLines ["name", "hidden", "columns"] (tables.map fields))

/-- The names of the tags of a column, side by side; each must be a text. -/
def tagsText (c : Column) : Except Error String := do
  let names ← c.tags.mapM fun t =>
    match t.name with
    | .text s => .ok s
    | _ => .error .wrongKind
  return " ".intercalate names

/-- What a column has besides its type: its vocabulary or its rule. -/
def extras (c : Column) : Except Error Value := do
  let tags ← tagsText c
  return if tags.isEmpty then c.rule else .text tags

def ofColumns (columns : List Column) : Except Error Report := do
  let rows ← columns.mapM fun c => do
    let extras ← extras c
    return [("index", .int c.index), ("name", .text c.name), ("type", .text c.type.label),
      ("hidden", .bool c.hidden), ("extras", extras)]
  return ofLines (Display.tableLines ["index", "name", "type", "hidden", "extras"] rows)

/-- Rows under the columns of their table. -/
def ofRows (f : Folders) (id table : String) (rows : List (Fields Storage.Cell)) :
    Operation Report := do
  let columns ← Schema.columns f id table
  let values (row : Fields Storage.Cell) : Fields Value :=
    row.map fun (name, cell) => (name, cell.toValue)
  return ofLines (Display.tableLines (columns.map (·.name)) (rows.map values))

/-- The problems of a table, which are a problem themselves. -/
def ofProblems (table : String) : List String → Report
  | [] => line "OK"
  | problems =>
    { lines := problems.map (·.toList)
      problem? := some (.tableProblems table problems.length) }

end Report

namespace Command

/-- Reads assignments for the columns of a table. -/
def assignments (f : Folders) (id table : String) (texts : List String) :
    Operation (List (String × Value)) := do
  let columns ← Schema.columns f id table
  let byName := Fields.ofAssignments (columns.map fun c => (c.name, c))
  Operation.of (texts.mapM (Assignment.read byName))

/-- Words as one search text; no words are no search. -/
def queryOf (words : List String) : Value :=
  let text := " ".intercalate words
  if text.isEmpty then .null else .text text

def optional {α : Type} (kind : α → Value) (a? : Option α) : Value :=
  (a?.map kind).getD .null

/-- Does what a command says, and tells what to print. -/
def run (f : Folders) : Command → Operation Report
  | createDatabase name description => do
    let r ← Databases.create f (.text name) (.text description)
    return .line ("Created database " ++ Error.plainText r.id)
  | listDatabases includeHidden => do
    return .ofDatabases (← Databases.list f includeHidden)
  | showDatabase id => do
    return .ofDatabase (← Databases.get f id)
  | renameDatabase id name => do
    let r ← Databases.rename f id (.text name)
    return .line ("Renamed database " ++ id ++ " to " ++ Error.plainText r.id)
  | setDatabaseVisibility id hidden => do
    let _ ← Databases.setVisibility f id hidden
    return .nothing
  | deleteDatabase id => do
    Databases.delete f id
    return .line ("Deleted database " ++ id)
  | listTables id => do
    return .ofTables (← Schema.tables f id)
  | createTable id table => do
    let _ ← Schema.addTable f id (.text table)
    return .line ("Created table " ++ table)
  | renameTable id table name => do
    Schema.moveTable f id table (.text name)
    return .nothing
  | setTableVisibility id table hidden => do
    Schema.showTable f id table hidden
    return .nothing
  | deleteTable id table => do
    Schema.removeTable f id table
    return .line ("Deleted table " ++ table)
  | checkTable id table => do
    return .ofProblems table (← Schema.check f id table)
  | listColumns id table => do
    Operation.of (Report.ofColumns (← Schema.columns f id table))
  | createColumn id table column type hidden index? => do
    let c ← Schema.addColumn f id table (.text column) (.text type) hidden index?
    return .line ("Created column " ++ c.name ++ " at index " ++ Error.number c.index)
  | changeColumn id table column name? type? => do
    let _ ← Schema.changeColumn f id table column (name?.map .text) (type?.map .text)
    return .nothing
  | setColumnVisibility id table column hidden => do
    let _ ← Schema.showColumn f id table column hidden
    return .nothing
  | exchangeColumn id table column index => do
    let _ ← Schema.exchangeColumn f id table column index
    return .nothing
  | shiftColumn id table column index => do
    let _ ← Schema.shiftColumn f id table column index
    return .nothing
  | deleteColumn id table column => do
    Schema.removeColumn f id table column
    return .nothing
  | addTag id table column tag description => do
    let _ ← Schema.addTag f id table column (.text tag) (.text description)
    return .nothing
  | removeTag id table column tag => do
    let _ ← Schema.removeTag f id table column tag
    return .nothing
  | setRule id table column rule => do
    let _ ← Schema.changeRule f id table column (.text rule)
    return .nothing
  | createRow id table texts => do
    let row ← Rows.create f id table (← assignments f id table texts)
    Report.ofRows f id table [row]
  | getRow id table row => do
    Report.ofRows f id table [← Rows.get f id table row]
  | updateRow id table row texts => do
    let row ← Rows.update f id table row (← assignments f id table texts)
    Report.ofRows f id table [row]
  | setRowVisibility id table row hidden => do
    let _ ← Rows.setVisibility f id table row (.bool hidden)
    return .nothing
  | deleteRow id table row => do
    Rows.delete f id table row
    return .nothing
  | search id table words sort? descending random limit? offset includeHidden => do
    let found ← Rows.search f id table {
      query := queryOf words
      sort := optional .text sort?
      descending
      random
      limit := optional .int limit?
      offset := .int offset
      includeHidden }
    let report ← Report.ofRows f id table found.rows
    let counts := Text.natText found.filtered ++ " of ".toList ++ Text.natText found.total
    return .ofLines (report.lines ++ [counts ++ " rows match".toList])
  | createBackup id => do
    return .line ("Created backup " ++ (← Backups.create f id))
  | listBackups => do
    return .ofLines ((← Backups.list f).map (·.toList))
  | restoreBackup name => do
    return .line ("Restored as database " ++ (← Backups.restore f name))
  | deleteBackup name => do
    Backups.delete f name
    return .line ("Deleted backup " ++ name)

end Command

end Cabinet
