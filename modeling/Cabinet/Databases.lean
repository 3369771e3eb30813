import Cabinet.Schema.Apply

/-!
Databases of a workspace. A database is a file of stored tables and a record, both named by its id.
-/

namespace Cabinet.Databases

open Operation

def source : String := "tagged_tables.databases"

/-- The table that every database begins with. -/
def firstTable : String := "entries"

/-- A display name, which must say something. -/
def displayName (id? : Option String) : Value → Except Error String
  | .text s => if Text.isAllBlank s.toList then .error (.blankDatabaseName id?) else .ok s
  | _ => .error (.blankDatabaseName id?)

/-- Refuses an id under which there is a file or a record. -/
def ensureFree (f : Folders) (id : String) : Operation Unit := do
  if (← hasFile (Store.place f.data id)) || (← f.records.has id) then throw (.databaseExists id)

/-- The record of a new database. -/
def newRecord (id name : String) (time description : Value) : Record where
  id := .text id
  displayName := .text name
  createdAt := time
  modifiedAt := time
  description := description

/-- Removes what there is of a database that could not be completed. -/
def discard (f : Folders) (id : String) : Operation Unit := do
  f.records.delete id
  dropFile (Store.place f.data id)

/-- Makes a database with its first table, or nothing at all. -/
def create (f : Folders) (given description : Value) : Operation Record := do
  let name ← Operation.of (displayName none given)
  let id := Name.databaseId name (← now)
  ensureFree f id
  let time ← stamp
  let _ ← Store.connect (Store.place f.data id)
  try
    let _ ← f.records.create (newRecord id name time description)
    let _ ← Schema.addTable f id (.text firstTable)
  catch e =>
    discard f id
    throw e
  log .info source ("Created database '" ++ id ++ "' (" ++ name ++ ")")
  f.records.read id

/-- The records of the databases that have files, in the order of the names of the files. -/
def list (f : Folders) (includeHidden : Bool) : Operation (List Record) := do
  let names := (← get).files.namesIn f.data
  let records ← (names.filterMap (RecordFolder.stem? Store.suffix)).mapM f.records.read
  return records.filter fun r => includeHidden || !r.hidden

def get (f : Folders) (id : String) : Operation Record := do
  let _ ← Store.existing f id
  f.records.read id

/-- Moves a file back after its record could not be moved. -/
def moveBack (id : String) (source target : Place) (cause : Error) : Operation Unit := do
  if (← faults).rename = some .blocked then
    let fault : Error := .systemFault "cannot move back"
    log .error Databases.source
      ("Could not move '" ++ source.path ++ "' back after failed rename: " ++ fault.message)
    throw (.renameDiverged id cause.message fault.message)
  modifyFiles (·.move source target)

/-- Gives a database a new display name, and the id that comes with it. -/
def rename (f : Folders) (id : String) (given : Value) : Operation Record := do
  let name ← Operation.of (displayName (some id) given)
  let old ← Store.existing f id
  let r ← f.records.read id
  let newId := Name.databaseId name (← now)
  ensureFree f newId
  let new := Store.place f.data newId
  modifyFiles (·.move old new)
  let modifiedAt ← stamp
  try
    let r ← f.records.rename id { r with id := .text newId, displayName := .text name, modifiedAt }
    log .info source ("Renamed database '" ++ id ++ "' to '" ++ newId ++ "'")
    return r
  catch e =>
    moveBack id new old e
    log .warning source ("Rename of database '" ++ id ++ "' failed; file moved back")
    throw e

def setVisibility (f : Folders) (id : String) (hidden : Bool) : Operation Record := do
  let _ ← Store.existing f id
  let found ← f.records.read id
  f.records.swap { found with hidden, modifiedAt := ← stamp } found.version

/-- Removes the file and the record of a database. -/
def delete (f : Folders) (id : String) : Operation Unit := do
  let p := Store.place f.data id
  if !(← hasFile p) && !(← f.records.has id) then throw (.databaseMissing id)
  dropFile p
  f.records.delete id
  log .info source ("Deleted database '" ++ id ++ "'")

end Cabinet.Databases
