import Cabinet.Storage.Statement
import Cabinet.Workspace.Records

/-!
The stored tables of a folder, each database in a file of its own, and the transactions on them.
-/

namespace Cabinet

open Operation

/-- The folders of databases and of backups. -/
structure Folders where
  data : String
  backup : String
  deriving DecidableEq, Repr

namespace Folders

/-- The records of the databases. -/
def records (f : Folders) : RecordFolder :=
  ⟨f.data, false⟩

/-- The records of the backups. -/
def backupRecords (f : Folders) : RecordFolder :=
  ⟨f.backup, true⟩

end Folders

namespace Store

open Storage

def suffix : String := ".sqlite"

/-- The file of the stored tables with an id. -/
def place (folder id : String) : Place :=
  ⟨folder, id ++ suffix⟩

/-- What a file holds. An empty file holds no tables. -/
def opened : File → Opened
  | .database db => .ok db
  | .text [] => .ok {}
  | _ => .error .notADatabase

/-- Opens the stored tables of a file, which is made if it is not there. -/
def connect (p : Place) : Operation Opened := do
  match ← file? p with
  | none =>
    putFile p (.database {})
    return .ok {}
  | some .folder => throw (.storage ("open database file '" ++ p.path ++ "'") .cannotOpen)
  | some file => return opened file

/-- Runs a statement that changes nothing. -/
def ask {α : Type} (tables : Opened) (s : Statement α) : Operation α :=
  Operation.of (s.onOpened tables)

/-- Runs a statement on its own, and keeps what it has done. -/
def run {α : Type} (p : Place) (s : Statement (α × Database)) : Operation α := do
  let tables ← connect p
  let (a, db) ← ask tables s
  putFile p (.database db)
  return a

/-- The stored tables as a transaction finds them. -/
def beginTransaction (p : Place) : Operation Database := do
  Operation.of (Statement.named "begin transaction" (← connect p))

/-- Keeps what a transaction has done. -/
def commit (p : Place) (db : Database) : Operation Unit := do
  if (← faults).commit then throw (.storage "commit transaction" .diskError)
  putFile p (.database db)

/-- Runs changes of stored tables, of which all are kept or none. -/
def transaction {α : Type} (p : Place) (body : Database → Except Error (α × Database)) :
    Operation α := do
  let db ← beginTransaction p
  let (a, db) ← Operation.of (body db)
  commit p db
  return a

/-- Copies the stored tables of one file to another, which is made even if there is nothing to
copy. -/
def copy (source target : Place) : Operation Unit := do
  let tables ← connect source
  let action := "copy '" ++ source.path ++ "' to '" ++ target.path ++ "'"
  match ← file? target with
  | some .folder => throw (.storage action .cannotOpen)
  | some _ => pure ()
  | none => putFile target (.database {})
  let db ← Operation.of (Statement.named action tables)
  putFile target (.database db)

/-- The file of the stored tables of a database that is there. -/
def existing (f : Folders) (id : String) : Operation Place := do
  let p := place f.data id
  if ← hasFile p then return p else throw (.databaseMissing id)

end Store

end Cabinet
