import Cabinet.Storage.Evaluate
import Cabinet.Text.Case

/-!
Stored tables: columns, and rows in the order of their ids.
-/

namespace Cabinet.Storage

/-- A column of a stored table. The key column holds the id of the row. -/
structure SheetColumn where
  name : String
  affinity : Affinity
  required : Bool := false
  default : Cell := .null
  isKey : Bool := false
  deriving DecidableEq

/-- A row with one cell for each column. -/
structure Row where
  id : Int
  cells : List Cell
  deriving DecidableEq

/-- A stored table. Where ids are counted, `counter` is the greatest id that was ever given, and no
id is given twice. -/
structure Sheet where
  name : String
  columns : List SheetColumn
  rows : List Row := []
  isCounted : Bool := false
  counter : Int := 0
  deriving DecidableEq

/-- Whether names are the same but for the case of the letters of the alphabet. -/
def sameName (a b : String) : Bool :=
  Text.foldAscii a.toList == Text.foldAscii b.toList

namespace Sheet

def columnNames (s : Sheet) : List String :=
  s.columns.map (·.name)

def hasColumn (s : Sheet) (name : String) : Bool :=
  s.columns.any fun c => sameName name c.name

/-- What a row holds under a name; a name that no column has stands for itself as text. -/
def lookup (s : Sheet) (row : Row) : Lookup := fun name =>
  match (s.columns.zip row.cells).find? fun (c, _) => sameName name c.name with
  | some (c, cell) => (c.affinity, cell)
  | none => (.none, .text name)

/-- A row by the names of the columns. -/
def fields (s : Sheet) (row : Row) : Fields Cell :=
  s.columnNames.zip row.cells

def lastId (s : Sheet) : Option Int :=
  s.rows.getLast?.map (·.id)

/-- The id of a row that comes without one: above the ids that are there, and where ids are
counted, above all that were. -/
def nextId (s : Sheet) : Except Fault Int :=
  let last := s.lastId.getD 0
  let last := if s.isCounted then max last s.counter else last
  if last < maxInteger then .ok (last + 1) else .error .full

/-- Puts a row in its place by id. -/
def insertRow (row : Row) : List Row → List Row
  | [] => [row]
  | r :: rest => if row.id < r.id then row :: r :: rest else r :: insertRow row rest

/-- The first cell that is given for a column. -/
def assigned? (c : SheetColumn) (cells : List (String × Cell)) : Option Cell :=
  (cells.find? fun (name, _) => sameName name c.name).map (·.2)

/-- An id from the cell given for it. -/
def keyOf : Cell → Except Fault Int
  | c =>
    match c.convert .integer with
    | .integer n => .ok n
    | _ => .error .keyNotInteger

/-- The first required column that is left without a value. -/
def missing? : List SheetColumn → List Cell → Option SheetColumn
  | c :: columns, cell :: cells =>
    if c.required && !c.isKey && cell = .null then some c else missing? columns cells
  | _, _ => none

/-- Refuses a row that leaves a required column without a value or has the id of another. -/
def admitRow (s : Sheet) (row : Row) (others : List Row) : Except Fault Unit :=
  match missing? s.columns row.cells with
  | some c => .error (.valueMissing s.name c.name)
  | none =>
    if others.any (·.id == row.id) then
      .error (.valueTaken s.name (((s.columns.find? (·.isKey)).map (·.name)).getD ""))
    else .ok ()

/-- The cell that a new row holds in a column. -/
def newCell (id : Int) (cells : List (String × Cell)) (c : SheetColumn) : Cell :=
  if c.isKey then .integer id else ((assigned? c cells).getD c.default).convert c.affinity

/-- The id of a new row: the last one given, or the next. -/
def newId (s : Sheet) (cells : List (String × Cell)) : Except Fault Int :=
  match (s.columns.find? (·.isKey)).bind (assigned? · cells.reverse) with
  | none => s.nextId
  | some .null => s.nextId
  | some c => keyOf c

/-- Adds a row, and tells its id. -/
def insert (s : Sheet) (cells : List (String × Cell)) : Except Fault (Int × Sheet) := do
  let id ← s.newId cells
  let row : Row := ⟨id, s.columns.map (newCell id cells)⟩
  s.admitRow row s.rows
  return (id, { s with rows := insertRow row s.rows, counter := max s.counter id })

/-- The cell of a row after an assignment of the cells given, the last for each column. -/
def changedCell (id : Int) (cells : List (String × Cell)) (c : SheetColumn) (held : Cell) : Cell :=
  if c.isKey then .integer id
  else ((assigned? c cells.reverse).map (·.convert c.affinity)).getD held

/-- A row after an assignment. -/
def changedRow (s : Sheet) (cells : List (String × Cell)) (row : Row) : Except Fault Row := do
  let id ←
    match (s.columns.find? (·.isKey)).bind (assigned? · cells.reverse) with
    | none => pure row.id
    | some c => keyOf c
  return ⟨id, (s.columns.zip row.cells).map fun (c, held) => changedCell id cells c held⟩

/-- Whether the column called `id` holds a number; rows are known by it. -/
def isCalled (s : Sheet) (id : Cell) (row : Row) : Bool :=
  let (affinity, held) := s.lookup row "id"
  compareCells .equal affinity held id = some true

/-- Assigns cells in the rows that go by an id, and tells how many they are. -/
def update (s : Sheet) (id : Cell) (cells : List (String × Cell)) : Except Fault (Nat × Sheet) := do
  let rows ← (s.rows.filter (s.isCalled id)).foldlM (fun rows row => do
    let changed ← s.changedRow cells row
    let others := rows.filter (·.id != row.id)
    s.admitRow changed others
    return insertRow changed others) s.rows
  return ((s.rows.filter (s.isCalled id)).length, { s with rows })

/-- Drops the rows that go by an id, and tells how many they are. -/
def delete (s : Sheet) (id : Cell) : Nat × Sheet :=
  ((s.rows.filter (s.isCalled id)).length, { s with rows := s.rows.filter (!s.isCalled id ·) })

/-- The rows of which a condition holds. -/
def select (s : Sheet) (c : Condition) : Except Fault (List Row) :=
  s.rows.filterM fun row => do
    let t ← holds (s.lookup row) c
    return t = some true

/-- Whether one row does not come after another by what they hold in a column. -/
def precedes (column : String) (descending : Bool) (a b : Lookup) : Bool :=
  let x := (a column).2
  let y := (b column).2
  if descending then y.order x != .gt else x.order y != .gt

/-- Rows in order; equals stay in the order of their ids. -/
def sorted (s : Sheet) (column : String) (descending : Bool) (rows : List Row) : List Row :=
  rows.mergeSort fun a b => precedes column descending (s.lookup a) (s.lookup b)

/-- Adds a column, with nothing in it. -/
def addColumn (s : Sheet) (c : SheetColumn) : Except Fault Sheet :=
  if s.hasColumn c.name then .error (.columnExists c.name)
  else
    .ok { s with
      columns := s.columns ++ [c]
      rows := s.rows.map fun row => { row with cells := row.cells ++ [c.default] } }

/-- Drops a column with what is in it. -/
def dropColumn (s : Sheet) (column : String) : Except Fault Sheet :=
  match s.columns.find? fun c => sameName column c.name with
  | none => .error (.columnToAlterMissing column)
  | some c =>
    if c.isKey then .error (.keyColumn column)
    else if s.columns.length = 1 then .error (.onlyColumn column)
    else
      let kept (row : Row) := (s.columns.zip row.cells).filter fun (d, _) => d.name != c.name
      .ok { s with
        columns := s.columns.filter fun d => d.name != c.name
        rows := s.rows.map fun row => { row with cells := (kept row).map (·.2) } }

/-- The first of some names that is the same as one before it. -/
def repeated? (before : List String) : List String → Option String
  | [] => none
  | name :: rest =>
    if before.any (sameName name ·) then some name else repeated? (name :: before) rest

/-- Gives a column a new name. -/
def renameColumn (s : Sheet) (old new : String) : Except Fault Sheet :=
  if !s.hasColumn old then .error (.columnToAlterMissing old)
  else
    let columns :=
      s.columns.map fun c => if sameName old c.name then { c with name := new } else c
    match repeated? [] (columns.map (·.name)) with
    | some name => .error (.columnExistsAfterRename s.name name)
    | none => .ok { s with columns }

end Sheet

end Cabinet.Storage
