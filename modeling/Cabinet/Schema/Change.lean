import Cabinet.Column.Accept
import Cabinet.Name
import Cabinet.Record.Basic
import Cabinet.Storage.Statement

/-!
Changes of tables and columns. A revision changes what a record says; a change alters the stored
tables along with it.
-/

namespace Cabinet

/-- A change of what a record says, with an answer. -/
abbrev Revision (α : Type) := Record → Except Error (α × Record)

/-- The result of a change: its answer, and what is to be warned of. -/
structure Outcome (α : Type) where
  answer : α
  record : Record
  stored : Storage.Database
  warnings : List String := []

/-- A change of a record and of the stored tables, with an answer. -/
abbrev Change (α : Type) := Record → Storage.Database → Except Error (Outcome α)

namespace Schema

open Storage

/-- A name that a user gives to something. -/
def newName (what : String) : Value → Except Error String
  | .text given =>
    let name := Name.normalize given
    if name.isEmpty then .error (.blankName what given) else .ok name
  | v => .error (.nameNotText what v)

/-- The type that a value names. -/
def newType (v : Value) : Except Error ColumnType :=
  match ColumnType.read? (String.ofList v.plain) with
  | some type => .ok type
  | none => .error (.unknownType v)

def ensureUnprotected (name action : String) : Except Error Unit :=
  if Column.protectedNames.contains name then .error (.protectedColumn name action) else .ok ()

/-- Refuses to move protected columns. -/
def ensureMovable (columns : List Column) : Except Error Unit :=
  match columns.find? (·.isProtected) with
  | some c => .error (.protectedPlace c.name c.index)
  | none => .ok ()

/-- Adds a table with the protected columns. -/
def createTable (id name : String) : Change Table := fun r db => do
  let exists? ← (Statement.hasTable name).on db
  if r.tables.contains name || exists? then throw (.tableExists name id)
  let db ← (Statement.createTable (freshSheet name)).on db
  return { answer := .fresh, record := r.put name .fresh, stored := db }

/-- Gives a table a new name, by which it comes last. -/
def renameTable (id old new : String) : Change Unit := fun r db => do
  let t ← r.table old
  let exists? ← (Statement.hasTable new).on db
  if r.tables.contains new || exists? then throw (.tableExists new id)
  let db ← (Statement.renameTable old new).on db
  let tables := (r.tables.drop old).put new t
  return { answer := (), record := { r with tables }, stored := db }

def setTableVisibility (name : String) (hidden : Bool) : Revision Unit := fun r => do
  let t ← r.table name
  return ((), r.put name { t with hidden })

/-- Drops a table with its rows. -/
def deleteTable (name : String) : Change Unit := fun r db => do
  let _ ← r.table name
  let exists? ← (Statement.hasTable name).on db
  let db ← if exists? then (Statement.dropTable name).on db else pure db
  return { answer := (), record := { r with tables := r.tables.drop name }, stored := db }

/-- Moves the columns of a range of indices by a step. -/
def shift (inRange : Int → Bool) (step : Int) (t : Table) : Table :=
  t.mapColumns fun c => if inRange c.index then { c with index := c.index + step } else c

/-- The columns at a range of indices. -/
def columnsIn (inRange : Int → Bool) (t : Table) : List Column :=
  (t.columns.map (·.2)).filter fun c => inRange c.index

/-- Adds a column at an index, or at the end; columns from that index on move up. -/
def createColumn (table name : String) (type : ColumnType) (hidden : Bool) (index? : Option Int) :
    Change Column := fun r db => do
  let t ← r.table table
  if t.columns.contains name then throw (.columnExists name table)
  let count : Int := t.columns.length
  let index := index?.getD count
  if index < 0 || count < index then throw (.indexOutOfRange index count name)
  ensureMovable (columnsIn (index ≤ ·) t)
  let db ← (Statement.addColumn table name type.storage).on db
  let c : Column := { name, type, index, hidden }
  return { answer := c, record := r.put table ((shift (index ≤ ·) 1 t).put c), stored := db }

/-- What is warned of when a column gets another type. -/
def retypeWarning (id table column : String) (old new : ColumnType) : String :=
  "Retyped column '" ++ column ++ "' in " ++ id ++ "." ++ table ++ " from " ++ old.label ++
    " to " ++ new.label ++ "; existing values were discarded"

/-- Gives a column a new name, under which it comes last. -/
def renameColumn (table old new : String) (t : Table) (c : Column) (db : Database) :
    Except Error (Table × Column × Database) := do
  if t.columns.contains new then throw (.columnExists new table)
  let db ← (Statement.renameColumn table old new).on db
  let c := { c with name := new }
  return (({ t with columns := t.columns.drop old } : Table).put c, c, db)

/-- Gives a column another type; its values, tags and rule are lost. -/
def retypeColumn (table : String) (type : ColumnType) (t : Table) (c : Column) (db : Database) :
    Except Error (Table × Column × Database) := do
  let db ← (Statement.dropColumn table c.name).on db
  let db ← (Statement.addColumn table c.name type.storage).on db
  let c := { c with type, tags := [], rule := .text "" }
  return (t.put c, c, db)

/-- Gives a column a new name, a new type, or first one and then the other. -/
def editColumn (id table old : String) (name? : Option String) (type? : Option ColumnType) :
    Change Column := fun r db => do
  let t ← r.table table
  let c ← t.column old table
  let (t, c, db) ←
    match name? with
    | some new => if new = old then pure (t, c, db) else renameColumn table old new t c db
    | none => pure (t, c, db)
  match type? with
  | some type =>
    if type = c.type then return { answer := c, record := r.put table t, stored := db }
    else
      let (t, d, db) ← retypeColumn table type t c db
      let warning := retypeWarning id table c.name c.type type
      return { answer := d, record := r.put table t, stored := db, warnings := [warning] }
  | none => return { answer := c, record := r.put table t, stored := db }

/-- Changes one column as a function says. -/
def revise (table name : String) (f : Column → Except Error Column) : Revision Column := fun r => do
  let t ← r.table table
  let c ← t.column name table
  let c ← f c
  return (c, r.put table { t with columns := t.columns.put name c })

def setColumnVisibility (table name : String) (hidden : Bool) : Revision Column :=
  revise table name fun c => .ok { c with hidden }

/-- Lets a column change places with the one at an index. -/
def swapColumn (table name : String) (index : Int) : Revision Column := fun r => do
  let t ← r.table table
  let c ← t.column name table
  match (t.columns.find? fun (_, d) => d.index == index) with
  | none => throw (.indexMissing index table)
  | some (key, other) =>
    ensureUnprotected other.name "moved"
    if key = name then return (c, r)
    else
      let columns := t.columns.put key { other with index := c.index }
      let c := { c with index := other.index }
      return (c, r.put table { t with columns := columns.put name c })

/-- Moves a column to an index; the columns in between close up. -/
def moveColumn (table name : String) (index : Int) : Revision Column := fun r => do
  let t ← r.table table
  let c ← t.column name table
  let count : Int := t.columns.length
  if index < 0 || count ≤ index then throw (.indexOutOfRange index (count - 1) name)
  let (between, step) : (Int → Bool) × Int :=
    if c.index < index then (fun i => c.index < i && i ≤ index, -1)
    else (fun i => index ≤ i && i < c.index, 1)
  ensureMovable (columnsIn between t)
  let t := shift between step t
  let c := { c with index }
  return (c, r.put table { t with columns := t.columns.put name c })

/-- Drops a column; the columns after it close up. -/
def deleteColumn (table name : String) : Change Unit := fun r db => do
  let t ← r.table table
  let c ← t.column name table
  let db ← (Statement.dropColumn table name).on db
  let t := { t with columns := t.columns.drop name }
  return { answer := (), record := r.put table (shift (c.index < ·) (-1) t), stored := db }

/-- Refuses columns whose values are not tags. -/
def ensureTags (name : String) (c : Column) : Except Error Unit :=
  if c.type.isTag then .ok () else .error (.noVocabulary name c.type)

/-- Adds a tag to a vocabulary. -/
def registerTag (table name tag : String) (description : Value) : Revision Column :=
  revise table name fun c => do
    ensureTags name c
    if c.hasTag tag then throw (.tagExists tag name)
    return { c with tags := c.tags ++ [⟨.text tag, description⟩] }

/-- Whether a tag has another name than the one given. -/
def isOtherTag (tag : String) (t : Tag) : Bool :=
  t.name.text? != some tag

/-- Removes a tag from a vocabulary; rows keep it. -/
def unregisterTag (table name tag : String) : Revision Column :=
  revise table name fun c => do
    ensureTags name c
    return { c with tags := c.tags.filter (isOtherTag tag) }

/-- Gives a custom column a rule. -/
def setRule (table name : String) (rule : Value) : Revision Column :=
  revise table name fun c => do
    if c.type ≠ .custom then throw (.noRule name c.type)
    match rule with
    | .text s =>
      let _ ← c.compileRule s
      return { c with rule }
    | _ => throw .wrongKind

end Schema

end Cabinet
