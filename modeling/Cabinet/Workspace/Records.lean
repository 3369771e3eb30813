import Cabinet.Workspace.Basic

/-!
The records of a folder, each in a file of its own. A record has a version, and it is replaced only
by what was made from the version that is there.
-/

namespace Cabinet

open Operation

/-- The folder that records are kept in, and whether it is the one for backups. -/
structure RecordFolder where
  folder : String
  isBackup : Bool := false
  deriving DecidableEq, Repr

namespace RecordFolder

def suffix : String := ".meta.json"

/-- The file of the record with an id. -/
def place (f : RecordFolder) (id : String) : Place :=
  ⟨f.folder, id ++ suffix⟩

/-- The file of the record that has a value as its id. -/
def placeOf (f : RecordFolder) (id : Value) : Place :=
  f.place (String.ofList id.plain)

def has (f : RecordFolder) (id : String) : Operation Bool :=
  hasFile (f.place id)

/-- The record in a file, as a document. -/
def readFile (id : Value) : Option File → Except Error Record
  | some (.text s) => Record.read s
  | some _ => .error (.systemFault "is a directory")
  | none => .error (.recordMissing id)

def readOf (f : RecordFolder) (id : Value) : Operation Record := do
  Operation.of (readFile id (← file? (f.placeOf id)))

def read (f : RecordFolder) (id : String) : Operation Record :=
  f.readOf (.text id)

/-- What is logged for a record that has been written. -/
def noteWritten (p : Place) (r : Record) : Operation Unit :=
  log .debug "tagged_tables.metadata"
    ("Wrote metadata " ++ p.name ++ " (version " ++ Error.number r.version ++ ")")

/-- Writes a record into its file, all of it or nothing: a temporary file is written, and then it takes
the place of the record's file, or it is removed. -/
def save (f : RecordFolder) (r : Record) : Operation Unit := do
  let p := f.placeOf r.id
  let temporary := (← get).files.unused f.folder
  putFile temporary (.text [])
  try
    if !Json.isWritable r.toDocument then throw .unreadable
    putFile temporary (.text r.write)
    if (← faults).replace then throw (.systemFault "cannot replace")
    modifyFiles (·.move temporary p)
  catch e =>
    dropFile temporary
    throw e
  noteWritten p r

/-- Writes a record for a database that has none. -/
def create (f : RecordFolder) (r : Record) : Operation Record := do
  let faults ← faults
  if (if f.isBackup then faults.backupCreate else faults.create) then
    throw (.systemFault "read-only file system")
  if ← hasFile (f.placeOf r.id) then throw (.recordExists r.id)
  let r := { r with version := 1 }
  f.save r
  return r

/-- Counts a swap down to the one that fails. -/
def countSwap (f : RecordFolder) : Operation Unit := do
  if f.isBackup then return ()
  match (← faults).swaps with
  | none => return ()
  | some 0 => throw (.systemFault "read-only file system")
  | some (n + 1) => modify fun w => { w with faults := { w.faults with swaps := some n } }

/-- Replaces a record if its version is still the expected one. -/
def swap (f : RecordFolder) (r : Record) (expected : Int) : Operation Record := do
  f.countSwap
  let current ← f.readOf r.id
  if current.version ≠ expected then throw (.recordChanged r.id expected current.version)
  let r := { r with version := expected + 1 }
  f.save r
  return r

/-- Replaces a record, whatever its version is. -/
def write (f : RecordFolder) (r : Record) : Operation Record := do
  let current ← f.readOf r.id
  f.swap r current.version

/-- Moves the record of an id to the id that it says. -/
def rename (f : RecordFolder) (old : String) (r : Record) : Operation Record := do
  if (← faults).rename.isSome && !f.isBackup then throw (.taken r.id)
  if !(← f.has old) then throw (.recordMissing (.text old))
  if ← hasFile (f.placeOf r.id) then throw (.recordExists r.id)
  let r := { r with version := r.version + 1 }
  f.save r
  dropFile (f.place old)
  return r

/-- Removes a record if it is there. -/
def delete (f : RecordFolder) (id : String) : Operation Unit := do
  if ← f.has id then dropFile (f.place id)

/-- What stands before a suffix, if the text ends in it. -/
def stem? (suffix name : String) : Option String :=
  if suffix.toList.isSuffixOf name.toList then
    some (String.ofList (name.toList.take (name.length - suffix.length)))
  else none

/-- The ids that there are records of, in order. -/
def ids (f : RecordFolder) : Operation (List String) := do
  return Text.sort (((← get).files.namesIn f.folder).filterMap (stem? suffix))

end RecordFolder

end Cabinet
