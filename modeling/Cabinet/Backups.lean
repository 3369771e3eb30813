import Cabinet.Databases

/-!
Backups of databases, in a folder of their own. A backup is a copy of the stored tables and of the
record, and restoring makes a new database of it.
-/

namespace Cabinet

namespace Name

def backupPrefix : String := "backup_"
def restoredPrefix : String := "restored_"

/-- Drops a beginning that a text may have. -/
def dropBeginning? (beginning : String) (s : List Char) : Option (List Char) :=
  if beginning.toList.isPrefixOf s then some (s.drop beginning.length) else none

/-- The id of a database without the beginning that backups and restored databases have. -/
def withoutCopyPrefix (id : List Char) : List Char :=
  ((dropBeginning? backupPrefix id).or (dropBeginning? restoredPrefix id)).getD id

/-- The name of a backup of a database that is made at a time in milliseconds. -/
def backup (id : String) (ms : Int) : String :=
  let base := (withoutCopyPrefix id.toList).takeWhile (· != '_')
  backupPrefix ++ String.ofList base ++ "_" ++ String.ofList (Text.intText ms)

/-- The id of the database that is restored from a backup. -/
def restored (name : String) : String :=
  restoredPrefix ++ String.ofList ((dropBeginning? backupPrefix name.toList).getD name.toList)

end Name

namespace Backups

open Operation

def source : String := "tagged_tables.backup"

/-- Gives a copy its record; without one there is no copy. -/
def recordCopy (copy : Place) (records : RecordFolder) (r : Record) : Operation Unit := do
  try
    let _ ← records.create r
  catch e =>
    dropFile copy
    throw e

/-- Backs a database up, and answers with the name of the backup. -/
def create (f : Folders) (id : String) : Operation String := do
  let p ← Store.existing f id
  let r ← f.records.read id
  let name := Name.backup id (← now)
  let target := Store.place f.backup name
  if ← hasFile target then throw (.backupExists name)
  Store.copy p target
  let modifiedAt ← stamp
  recordCopy target f.backupRecords { r with id := .text name, modifiedAt }
  log .info source ("Backed up database '" ++ id ++ "' as '" ++ name ++ "'")
  return name

/-- The names of the backups, in order. -/
def list (f : Folders) : Operation (List String) := do
  return Text.sort (((← get).files.namesIn f.backup).filterMap (RecordFolder.stem? Store.suffix))

/-- The file of a backup that is there. -/
def existing (f : Folders) (name : String) : Operation Place := do
  let p := Store.place f.backup name
  if ← hasFile p then return p else throw (.backupMissing name)

/-- Makes a database of a backup, and answers with its id. -/
def restore (f : Folders) (name : String) : Operation String := do
  let p ← existing f name
  let id := Name.restored name
  let target := Store.place f.data id
  if (← hasFile target) || (← f.records.has id) then throw (.databaseExists id)
  let r ← f.backupRecords.read name
  let modifiedAt ← stamp
  Store.copy p target
  recordCopy target f.records { r with id := .text id, modifiedAt }
  log .info source ("Restored backup '" ++ name ++ "' as database '" ++ id ++ "'")
  return id

def delete (f : Folders) (name : String) : Operation Unit := do
  let p ← existing f name
  dropFile p
  f.backupRecords.delete name
  log .info source ("Deleted backup '" ++ name ++ "'")

end Backups

end Cabinet
