import Cabinet.Json.Reader
import Cabinet.Json.Writer
import Cabinet.Number.Reading
import Cabinet.Record.Basic

/-!
Records as documents, and documents as text.
-/

namespace Cabinet.Record

/-- The fields of an object. -/
def members : Value → Except Error (Fields Value)
  | .object fields => .ok fields
  | _ => .error .noSuchPart

/-- The integer that a value stands for: numbers without their fraction, truth values, and texts of
digits. -/
def integer : Value → Except Error Int
  | .int n => .ok n
  | .bool b => .ok (if b then 1 else 0)
  | .float .nan => .error .unreadable
  | .float x =>
    match x.truncate? with
    | some n => .ok n
    | none => .error .numberTooLarge
  | .text s =>
    match Text.integer? s.toList with
    | some n => .ok n
    | none => .error .unreadable
  | _ => .error .wrongKind

/-- What can be gone through one by one: lists, the characters of a text, the keys of an object. -/
def elements : Value → Except Error (List Value)
  | .list items => .ok items
  | .text s => .ok (s.toList.map fun c => .text (String.singleton c))
  | .object fields => .ok (fields.map fun (key, _) => .text key)
  | _ => .error .wrongKind

def readTag : Value → Except Error Tag
  | .object fields =>
    match Fields.get? fields "name" with
    | some name => .ok { name, description := (Fields.get? fields "description").getD (.text "") }
    | none => .error .keyMissing
  | _ => .error .wrongKind

/-- The type that a document gives a column. -/
def readType (column table : String) (type : Value) : Except Error ColumnType :=
  match type with
  | .list _ => .error .wrongKind
  | .object _ => .error .wrongKind
  | .text label =>
    match ColumnType.ofLabel? label with
    | some t => .ok t
    | none => .error (.storedTypeUnknown column table type)
  | _ => .error (.storedTypeUnknown column table type)

/-- A column from the document of a table, where `place` is its place there. -/
def readColumn (table : String) (place : Nat) (name : String) (document : Value) :
    Except Error Column := do
  let fields ← members document
  let type ← readType name table ((Fields.get? fields "type").getD .null)
  let index ← integer ((Fields.get? fields "index").getD (.int place))
  let hidden := ((Fields.get? fields "hidden").getD (.bool false)).truthy
  let tags ← (← elements ((Fields.get? fields "tags").getD (.list []))).mapM readTag
  return { name, type, index, hidden, tags, rule := (Fields.get? fields "rule").getD (.text "") }

def readTable (name : String) (document : Value) : Except Error Table := do
  let fields ← members document
  let columns ← members ((Fields.get? fields "columns").getD (.object []))
  let columns ← columns.zipIdx.mapM fun ((column, d), place) => do
    let c ← readColumn name place column d
    return (column, c)
  return { hidden := ((Fields.get? fields "hidden").getD (.bool false)).truthy, columns }

/-- The record of a document. Most fields may be left out, and others are passed over. -/
def ofDocument (document : Value) : Except Error Record := do
  let fields ← members document
  let get (key : String) (otherwise : Value) := (Fields.get? fields key).getD otherwise
  let tables ← (← members (get "tables" (.object []))).mapM fun (name, d) => do
    let t ← readTable name d
    return (name, t)
  match Fields.get? fields "id" with
  | none => .error .keyMissing
  | some id =>
    let tags ← elements (get "tags" (.list []))
    let version ← integer (get "version" (.int 0))
    return {
      id, tags, version, tables
      displayName := get "displayName" id
      createdAt := get "createdAt" (.text "")
      modifiedAt := get "modifiedAt" (.text "")
      description := get "description" (.text "")
      hidden := (get "hidden" (.bool false)).truthy }

def tagDocument (t : Tag) : Value :=
  .object [("name", t.name), ("description", t.description)]

/-- The document of a column: tags and rules are kept only where the type has a use for them. -/
def columnDocument (c : Column) : Value :=
  .object ([("type", .text c.type.label), ("hidden", .bool c.hidden), ("index", .int c.index)] ++
    (if c.type.isTag then [("tags", .list (c.tags.map tagDocument))]
      else if c.type = .custom then [("rule", c.rule)]
      else []))

def tableDocument (t : Table) : Value :=
  .object [("hidden", .bool t.hidden),
    ("columns", .object (t.columns.map fun (name, c) => (name, columnDocument c)))]

def toDocument (r : Record) : Value :=
  .object [("id", r.id), ("displayName", r.displayName), ("createdAt", r.createdAt),
    ("modifiedAt", r.modifiedAt), ("description", r.description), ("tags", .list r.tags),
    ("hidden", .bool r.hidden), ("version", .int r.version),
    ("tables", .object (r.tables.map fun (name, t) => (name, tableDocument t)))]

/-- The record that a text holds. -/
def read (text : List Char) : Except Error Record :=
  match Json.read text with
  | .ok document => ofDocument document
  | .error .malformed => .error .malformedDocument
  | .error .longInteger => .error .unreadable

/-- The text of a record. -/
def write (r : Record) : List Char :=
  Json.write r.toDocument

end Cabinet.Record
