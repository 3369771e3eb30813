import Cabinet.Workspace.Basic

/-!
Snapshots: the files of a workspace as one document, so that a workspace can be left and taken up
again.
-/

namespace Cabinet

namespace Storage

/-- A cell from its value in a document. -/
def Cell.ofDocument? : Value → Option Cell
  | .null => some .null
  | .int n => some (.integer n)
  | .float x => some (.real x)
  | .text s => some (.text s)
  | _ => none

namespace Affinity

def label : Affinity → String
  | text => "text"
  | integer => "integer"
  | real => "real"
  | numeric => "numeric"
  | none => "none"

def ofLabel? (label : String) : Option Affinity :=
  [text, integer, real, numeric, none].find? (·.label == label)

end Affinity

def SheetColumn.toDocument (c : SheetColumn) : Value :=
  .list [.text c.name, .text c.affinity.label, .bool c.required, c.default.toValue, .bool c.isKey]

def SheetColumn.ofDocument? : Value → Option SheetColumn
  | .list [.text name, .text label, .bool required, default, .bool isKey] => do
    let affinity ← Affinity.ofLabel? label
    let default ← Cell.ofDocument? default
    return { name, affinity, required, default, isKey }
  | _ => none

def Row.toDocument (r : Row) : Value :=
  .list (.int r.id :: r.cells.map Cell.toValue)

def Row.ofDocument? : Value → Option Row
  | .list (.int id :: cells) => do
    let cells ← cells.mapM Cell.ofDocument?
    return { id, cells }
  | _ => none

def Sheet.toDocument (s : Sheet) : Value :=
  .list [.text s.name, .list (s.columns.map SheetColumn.toDocument),
    .list (s.rows.map Row.toDocument), .bool s.isCounted, .int s.counter]

def Sheet.ofDocument? : Value → Option Sheet
  | .list [.text name, .list columns, .list rows, .bool isCounted, .int counter] => do
    let columns ← columns.mapM SheetColumn.ofDocument?
    let rows ← rows.mapM Row.ofDocument?
    return { name, columns, rows, isCounted, counter }
  | _ => none

def Database.toDocument (db : Database) : Value :=
  .list [.list (db.sheets.map Sheet.toDocument), .bool db.hasCounters]

def Database.ofDocument? : Value → Option Database
  | .list [.list sheets, .bool hasCounters] => do
    let sheets ← sheets.mapM Sheet.ofDocument?
    return { sheets, hasCounters }
  | _ => none

end Storage

/-- A file is a text, stored tables, or nothing for a folder. -/
def File.toDocument : File → Value
  | .text s => .text (String.ofList s)
  | .database db => db.toDocument
  | .folder => .null

def File.ofDocument? : Value → Option File
  | .text s => some (.text s.toList)
  | .null => some .folder
  | v => (Storage.Database.ofDocument? v).map .database

namespace Files

def toDocument (files : Files) : Value :=
  .list (files.map fun (p, f) => .list [.text p.folder, .text p.name, f.toDocument])

/-- The file of an entry of a snapshot, with its place. -/
def entryOfDocument? : Value → Option (Place × File)
  | .list [.text folder, .text name, v] => do
    let f ← File.ofDocument? v
    return (⟨folder, name⟩, f)
  | _ => none

def ofDocument? : Value → Option Files
  | .list entries => entries.mapM entryOfDocument?
  | _ => none

/-- The text of a snapshot. -/
def snapshot (files : Files) : List Char :=
  Json.write files.toDocument

/-- The files of a snapshot. -/
def ofSnapshot? (s : List Char) : Option Files :=
  match Json.read s with
  | .ok v => ofDocument? v
  | .error _ => none

end Files

end Cabinet
