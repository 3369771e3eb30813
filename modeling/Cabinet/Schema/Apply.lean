import Cabinet.Schema.Change
import Cabinet.Workspace.Stores

/-!
Tables and columns of the databases of a workspace. A change of the stored tables is kept only if
the record could be written first, and the record is put back if the change cannot be kept.
-/

namespace Cabinet.Schema

open Operation Storage

def source : String := "tagged_tables.schema"

/-- Makes a revision of a record that was read, unless another has replaced it since. -/
def finishRevision {α : Type} (f : Folders) (found : Record) (revision : Revision α) :
    Operation α := do
  let (a, revised) ← Operation.of (revision found)
  let modifiedAt ← stamp
  let _ ← f.records.swap { revised with modifiedAt } found.version
  return a

/-- Reads the record of a database and makes a revision of it. -/
def applyRevision {α : Type} (f : Folders) (id : String) (revision : Revision α) : Operation α := do
  finishRevision f (← f.records.read id) revision

/-- Puts a record back after the change that it told of was not kept. -/
def restore (f : Folders) (found written : Record) (action : String) (cause : Error) :
    Operation Unit := do
  let id := Error.plainText found.id
  log .warning source
    ("Commit failed during " ++ action ++ " on database '" ++ id ++ "'; restoring metadata")
  try
    let _ ← f.records.swap found written.version
  catch e =>
    log .error source
      ("Metadata restore failed during " ++ action ++ " on database '" ++ id ++ "': " ++ e.message)
    throw (.schemaDiverged found.id action cause.message e.message)

/-- Makes a change of a record that was read and of the stored tables, in one transaction; nothing
is kept if another has replaced the record since. -/
def finishChange {α : Type} (f : Folders) (p : Place) (found : Record) (action : String)
    (change : Change α) : Operation α := do
  let db ← Store.beginTransaction p
  let out ← Operation.of (change found db)
  out.warnings.forM (log .warning source)
  let modifiedAt ← stamp
  let written ← f.records.swap { out.record with modifiedAt } found.version
  try
    Store.commit p out.stored
  catch e =>
    restore f found written action e
    throw e
  return out.answer

/-- Reads the record of a database and makes a change of it and of the stored tables. -/
def applyChange {α : Type} (f : Folders) (id action : String) (change : Change α) :
    Operation α := do
  let p ← Store.existing f id
  let found ← f.records.read id
  finishChange f p found action change

/-- The tables of a database, in the order of their names. -/
def tables (f : Folders) (id : String) : Operation (Fields Table) := do
  let r ← f.records.read id
  return (Text.sort r.tables.keys).filterMap fun name => (r.tables.get? name).map (name, ·)

def table (f : Folders) (id table : String) : Operation Table := do
  let r ← f.records.read id
  Operation.of (r.table (Name.normalize table))

/-- Refuses names that belong to the storage. -/
def ensureNotReserved (name : String) : Except Error Unit :=
  if "sqlite_".toList.isPrefixOf name.toList then .error (.reservedTable name) else .ok ()

def addTable (f : Folders) (id : String) (given : Value) : Operation Table := do
  let name ← Operation.of (newName "Table" given)
  Operation.of (ensureNotReserved name)
  let t ← applyChange f id ("create table '" ++ name ++ "'") (createTable id name)
  log .info source ("Created table '" ++ name ++ "' in database '" ++ id ++ "'")
  return t

def moveTable (f : Folders) (id given : String) (givenNew : Value) : Operation Unit := do
  let old := Name.normalize given
  let new ← Operation.of (newName "Table" givenNew)
  applyChange f id ("rename table '" ++ old ++ "'") (renameTable id old new)
  log .info source
    ("Renamed table '" ++ old ++ "' to '" ++ new ++ "' in database '" ++ id ++ "'")

def showTable (f : Folders) (id given : String) (hidden : Bool) : Operation Unit :=
  applyRevision f id (setTableVisibility (Name.normalize given) hidden)

def removeTable (f : Folders) (id given : String) : Operation Unit := do
  let name := Name.normalize given
  applyChange f id ("delete table '" ++ name ++ "'") (deleteTable name)
  log .info source ("Deleted table '" ++ name ++ "' from database '" ++ id ++ "'")

/-- Whether numbers are those from zero on, each once. -/
def areContiguous (indices : List Int) : Bool :=
  indices == (List.range indices.length).map Int.ofNat

/-- What is wrong with a stored table, going by its record. -/
def problems (t : Table) (stored : List String) : List String :=
  let missing := (Text.sort t.columns.keys).filter fun c => !stored.contains c
  let extra := (Text.sort stored).filter fun c => !t.columns.contains c
  let indices := (t.columns.map (·.2.index)).mergeSort (· ≤ ·)
  missing.map (fun c => "column '" ++ c ++ "' is missing from storage") ++
    extra.map (fun c => "column '" ++ c ++ "' has no metadata") ++
    if areContiguous indices then []
    else
      ["column indices " ++ Error.shownText (.list (indices.map .int)) ++ " are not contiguous"]

/-- Compares a table with its stored form. -/
def check (f : Folders) (id given : String) : Operation (List String) := do
  let name := Name.normalize given
  let t ← table f id name
  let stored ← Store.connect (← Store.existing f id)
  if ← Store.ask stored (Statement.hasTable name) then
    let columns ← Store.ask stored (Statement.columnNames name)
    return problems t columns
  else return ["table '" ++ name ++ "' is missing from storage"]

/-- The columns of a table, in the order of their indices. -/
def columns (f : Folders) (id given : String) : Operation (List Column) := do
  return (← table f id given).ordered

def column (f : Folders) (id givenTable given : String) : Operation Column := do
  let name := Name.normalize givenTable
  let t ← table f id name
  Operation.of (t.column (Name.normalize given) name)

def addColumn (f : Folders) (id givenTable : String) (given type : Value) (hidden : Bool)
    (index? : Option Int) : Operation Column := do
  let table := Name.normalize givenTable
  let name ← Operation.of (newName "Column" given)
  let type ← Operation.of (newType type)
  let c ← applyChange f id ("create column '" ++ name ++ "'")
    (createColumn table name type hidden index?)
  log .info source
    ("Created " ++ type.label ++ " column '" ++ name ++ "' at index " ++ Error.number c.index ++
      " in " ++ id ++ "." ++ table)
  return c

def changeColumn (f : Folders) (id givenTable given : String) (name? type? : Option Value) :
    Operation Column := do
  let table := Name.normalize givenTable
  let old := Name.normalize given
  let name? ← Operation.of (name?.mapM (newName "Column"))
  let type? ← Operation.of (type?.mapM newType)
  if name?.isNone && type?.isNone then throw (.nothingToChange old)
  Operation.of (ensureUnprotected old "renamed or retyped")
  applyChange f id ("alter column '" ++ old ++ "'") (editColumn id table old name? type?)

def showColumn (f : Folders) (id givenTable given : String) (hidden : Bool) : Operation Column :=
  applyRevision f id
    (setColumnVisibility (Name.normalize givenTable) (Name.normalize given) hidden)

def exchangeColumn (f : Folders) (id givenTable given : String) (index : Int) :
    Operation Column := do
  let name := Name.normalize given
  Operation.of (ensureUnprotected name "moved")
  applyRevision f id (swapColumn (Name.normalize givenTable) name index)

def shiftColumn (f : Folders) (id givenTable given : String) (index : Int) : Operation Column := do
  let table := Name.normalize givenTable
  let name := Name.normalize given
  Operation.of (ensureUnprotected name "moved")
  let current ← column f id table name
  if current.index = index then return current
  applyRevision f id (moveColumn table name index)

def removeColumn (f : Folders) (id givenTable given : String) : Operation Unit := do
  let table := Name.normalize givenTable
  let name := Name.normalize given
  Operation.of (ensureUnprotected name "deleted")
  applyChange f id ("delete column '" ++ name ++ "'") (deleteColumn table name)
  log .info source ("Deleted column '" ++ name ++ "' from " ++ id ++ "." ++ table)

def addTag (f : Folders) (id givenTable given : String) (givenTag description : Value) :
    Operation Column := do
  let name := Name.normalize given
  let tag ← Operation.of (newName "Tag" givenTag)
  Operation.of (ensureUnprotected name "given tags")
  applyRevision f id (registerTag (Name.normalize givenTable) name tag description)

def removeTag (f : Folders) (id givenTable given givenTag : String) : Operation Column := do
  let table := Name.normalize givenTable
  let name := Name.normalize given
  let tag := Name.normalize givenTag
  Operation.of (ensureUnprotected name "given tags")
  let t ← Schema.table f id table
  let current ← Operation.of (t.column name table)
  Operation.of (ensureTags name current)
  if current.hasTag tag then applyRevision f id (unregisterTag table name tag) else return current

def changeRule (f : Folders) (id givenTable given : String) (rule : Value) : Operation Column := do
  let name := Name.normalize given
  Operation.of (ensureUnprotected name "given a rule")
  applyRevision f id (setRule (Name.normalize givenTable) name rule)

end Cabinet.Schema
