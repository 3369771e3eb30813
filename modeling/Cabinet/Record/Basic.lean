import Cabinet.Column.Basic
import Cabinet.Error

/-!
Records: what is known of a database beside its rows, namely its names, its tables and their
columns.
-/

namespace Cabinet

/-- What is known of a table: whether it is hidden, and its columns by name. -/
structure Table where
  hidden : Bool := false
  columns : Fields Column := []

/-- What is known of a database. What a stored record holds in the places that nothing depends on is
kept as it is. -/
structure Record where
  id : Value
  displayName : Value
  createdAt : Value
  modifiedAt : Value
  description : Value := .text ""
  tags : List Value := []
  hidden : Bool := false
  version : Int := 0
  tables : Fields Table := []

namespace Table

/-- The columns in the order of their indices. -/
def ordered (t : Table) : List Column :=
  (t.columns.map (·.2)).mergeSort fun a b => a.index ≤ b.index

/-- The column with a name. The table's name is for the message and may be left out. -/
def column (t : Table) (name table : String) : Except Error Column :=
  match t.columns.get? name with
  | some c => .ok c
  | none => .error (.columnMissing name table)

/-- The first column that stands at an index. -/
def at? (t : Table) (index : Int) : Option Column :=
  (t.columns.map (·.2)).find? (·.index == index)

/-- Changes each column. -/
def mapColumns (f : Column → Column) (t : Table) : Table :=
  { t with columns := t.columns.map fun (name, c) => (name, f c) }

/-- Puts a column in the place of its name. -/
def put (c : Column) (t : Table) : Table :=
  { t with columns := t.columns.put c.name c }

/-- A table with the columns that every table has. -/
def fresh : Table :=
  { columns := Column.protectedDefinitions.map fun c => (c.name, c) }

end Table

namespace Record

def table (r : Record) (name : String) : Except Error Table :=
  match r.tables.get? name with
  | some t => .ok t
  | none => .error (.tableMissing name r.id)

/-- Puts a table in the place of its name. -/
def put (name : String) (t : Table) (r : Record) : Record :=
  { r with tables := r.tables.put name t }

end Record

end Cabinet
