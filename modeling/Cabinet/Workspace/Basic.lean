import Cabinet.Record.Document
import Cabinet.Storage.Database

/-!
Workspaces: files in folders, the time, the faults that are about to happen, and what has been
logged.
-/

namespace Cabinet

/-- Where a file is. -/
structure Place where
  folder : String
  name : String
  deriving DecidableEq, Repr

/-- The path of a file as text. -/
def Place.path (p : Place) : String :=
  if p.folder == "." then p.name
  else if p.folder.endsWith "/" then p.folder ++ p.name
  else p.folder ++ "/" ++ p.name

/-- The place that a path names. -/
def Place.ofPath (path : String) : Place :=
  let reversed := path.toList.reverse
  let name := String.ofList (reversed.takeWhile (· != '/')).reverse
  match reversed.dropWhile (· != '/') with
  | [] => ⟨".", name⟩
  | ['/'] => ⟨"/", name⟩
  | _ :: folder => ⟨String.ofList folder.reverse, name⟩

inductive File where
  | text (s : List Char)
  | database (db : Storage.Database)
  | folder

/-- Files with their places, each place once. -/
abbrev Files := List (Place × File)

namespace Files

def get? (files : Files) (p : Place) : Option File :=
  files.lookup p

def has (files : Files) (p : Place) : Bool :=
  files.any (·.1 == p)

def drop (p : Place) (files : Files) : Files :=
  files.filter (·.1 != p)

def put (p : Place) (f : File) (files : Files) : Files :=
  (p, f) :: files.drop p

/-- Moves a file to a place, and over what is there. -/
def move (source target : Place) (files : Files) : Files :=
  match files.get? source with
  | some f => (files.drop source).put target f
  | none => files

/-- A place in a folder where there is no file: its name is longer than every one that there is. -/
def unused (folder : String) (files : Files) : Place :=
  let longest := (files.map (·.1.name.length)).max?.getD 0
  ⟨folder, "tmp" ++ String.ofList (List.replicate longest '_') ++ ".tmp"⟩

/-- The names of the files of a folder, in order. -/
def namesIn (folder : String) (files : Files) : List String :=
  Text.sort ((files.filter (·.1.folder == folder)).map (·.1.name))

end Files

/-- How the renaming of a record fails: the new id is taken, and the file may be stuck besides. -/
inductive RenameFault where
  | conflict
  | blocked
  deriving DecidableEq, Repr

/-- Faults that are about to happen: after some more swaps of records; when a record is created,
with the databases or with the backups; at each commit; whenever a record is written; when a record
is renamed. -/
structure Faults where
  swaps : Option Nat := none
  create : Bool := false
  backupCreate : Bool := false
  commit : Bool := false
  replace : Bool := false
  rename : Option RenameFault := none
  deriving DecidableEq, Repr

inductive Level where
  | debug
  | info
  | warning
  | error
  deriving DecidableEq, Repr

structure LogEntry where
  level : Level
  source : String
  text : String
  deriving DecidableEq, Repr

/-- The state that operations work on; the time is in milliseconds. The log begins with the latest
entry. -/
structure World where
  files : Files := []
  time : Int := 0
  faults : Faults := {}
  log : List LogEntry := []

/-- What may fail and changes a workspace; a failure keeps what has been changed before it. -/
abbrev Operation := ExceptT Error (StateM World)

namespace Operation

def now : Operation Int := do
  return (← get).time

/-- The time as text. -/
def stamp : Operation Value := do
  return .text (String.ofList (Calendar.momentText (← now)))

def faults : Operation Faults := do
  return (← get).faults

def log (level : Level) (source text : String) : Operation Unit :=
  modify fun w => { w with log := ⟨level, source, text⟩ :: w.log }

def file? (p : Place) : Operation (Option File) := do
  return (← get).files.get? p

def hasFile (p : Place) : Operation Bool := do
  return (← get).files.has p

def modifyFiles (f : Files → Files) : Operation Unit :=
  modify fun w => { w with files := f w.files }

def putFile (p : Place) (f : File) : Operation Unit :=
  modifyFiles (·.put p f)

/-- Removes a file if it is there. -/
def dropFile (p : Place) : Operation Unit := do
  match ← file? p with
  | some .folder => throw (.systemFault "is a directory")
  | _ => modifyFiles (·.drop p)

/-- An operation that has no effect but its answer. -/
def of {α : Type} : Except Error α → Operation α
  | .ok a => pure a
  | .error e => throw e

end Operation

end Cabinet
