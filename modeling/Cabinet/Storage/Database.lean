import Cabinet.Search.Compile
import Cabinet.Storage.Sheet
import Cabinet.Text.Order

/-!
Stored tables by name, and the statements on them.
-/

namespace Cabinet.Storage

/-- The tables of one database. Ids are counted in a table of the storage itself, which is there
once a table has needed it. -/
structure Database where
  sheets : List Sheet := []
  hasCounters : Bool := false
  deriving DecidableEq

/-- The table in which ids are counted. -/
def counterTable : String := "sqlite_sequence"

def isReserved (name : String) : Bool :=
  (Text.foldAscii name.toList).take 7 == "sqlite_".toList

/-- Refuses texts that no statement may hold. -/
def admitTexts (texts : List String) : Except Fault Unit :=
  if texts.any fun s => s.toList.any (·.toNat == 0) then .error .nullCharacter else .ok ()

namespace Database

def find? (db : Database) (table : String) : Option Sheet :=
  db.sheets.find? fun s => sameName table s.name

def find (db : Database) (table : String) : Except Fault Sheet :=
  match db.find? table with
  | some s => .ok s
  | none => .error (.tableMissing table)

/-- Puts a table in the place of the one with a name. -/
def replace (db : Database) (table : String) (s : Sheet) : Database :=
  { db with sheets := db.sheets.map fun t => if sameName table t.name then s else t }

/-- The names under which tables are listed: those of the storage itself are left out, and so is
every name that has any character in place of their underscore. -/
def isListed (name : String) : Bool :=
  !fits "sqlite_%".toList name.toList

def tableNames (db : Database) : List String :=
  Text.sort ((db.sheets.map (·.name)).filter isListed)

def hasTable (db : Database) (table : String) : Bool :=
  db.sheets.any (·.name == table) || (db.hasCounters && table == counterTable)

/-- The columns of a table; none if there is no such table. -/
def columnNames (db : Database) (table : String) : List String :=
  ((db.find? table).map (·.columnNames)).getD []

/-- Checks the columns of a new table against those before them. -/
def admitColumns (table : String) : List SheetColumn → List SheetColumn → Except Fault Unit
  | _, [] => .ok ()
  | before, c :: rest =>
    if before.any fun d => sameName d.name c.name then .error (.columnExists c.name)
    else if c.isKey && before.any (·.isKey) then .error (.secondKey table)
    else admitColumns table (c :: before) rest

def createTable (db : Database) (s : Sheet) : Except Fault Database := do
  admitTexts (s.name :: s.columnNames)
  if isReserved s.name then .error (.nameReserved s.name)
  if (db.find? s.name).isSome then .error (.tableExists s.name)
  if s.columns.isEmpty then .error (.unexpected ")")
  admitColumns s.name [] s.columns
  return { sheets := db.sheets ++ [s], hasCounters := db.hasCounters || s.isCounted }

def isCounterTable (db : Database) (table : String) : Bool :=
  db.hasCounters && sameName table counterTable

/-- The table with a name, if it may be altered. -/
def findAlterable (db : Database) (table : String) : Except Fault Sheet :=
  if db.isCounterTable table then .error (.notAlterable table) else db.find table

def dropTable (db : Database) (table : String) : Except Fault Database := do
  admitTexts [table]
  if db.isCounterTable table then .error (.notDroppable table)
  let _ ← db.find table
  return { db with sheets := db.sheets.filter fun s => !sameName table s.name }

def renameTable (db : Database) (old new : String) : Except Fault Database := do
  admitTexts [old, new]
  let s ← db.findAlterable old
  if (db.find? new).isSome || db.isCounterTable new then .error (.nameTaken new)
  if isReserved new then .error (.nameReserved new)
  return db.replace old { s with name := new }

def addColumn (db : Database) (table : String) (c : SheetColumn) : Except Fault Database := do
  admitTexts [table, c.name]
  let s ← db.findAlterable table
  let s ← s.addColumn c
  return db.replace table s

def dropColumn (db : Database) (table column : String) : Except Fault Database := do
  admitTexts [table, column]
  let s ← db.findAlterable table
  let s ← s.dropColumn column
  return db.replace table s

def renameColumn (db : Database) (table old new : String) : Except Fault Database := do
  admitTexts [table, old, new]
  let s ← db.findAlterable table
  let s ← s.renameColumn old new
  return db.replace table s

/-- Checks a condition and the values in a statement before any row is looked at. -/
def prepare (db : Database) (table : String) (c : Condition) (values : List Value) :
    Except Fault Sheet := do
  admitTexts [table, String.ofList c.text]
  admitCondition c
  let s ← db.find table
  let _ ← Cell.ofValues (c.params ++ values)
  return s

/-- The numbers that a statement holds for a part of the rows. -/
def windowValues (limit? : Option Int) (offset : Int) : List Value :=
  match limit? with
  | some limit => [.int limit, .int offset]
  | none => if offset = 0 then [] else [.int (-1), .int offset]

/-- The rows from an offset on, up to a limit; a negative limit is none. -/
def window {α : Type} (limit? : Option Int) (offset : Int) (rows : List α) : List α :=
  let rest := rows.drop offset.toNat
  match limit? with
  | some limit => if limit < 0 then rest else rest.take limit.toNat
  | none => rest

/-- The rows of which a condition holds, in order; a part of them if that is asked for. -/
def query (db : Database) (table : String) (c : Condition) (order : Search.RowOrder)
    (limit? : Option Int) (offset : Int) : Except Fault (List (Fields Cell)) := do
  admitTexts [String.ofList order.text]
  let s ← db.prepare table c (windowValues limit? offset)
  let rows ← s.select c
  let rows :=
    match order with
    | .random => rows
    | .byColumn column descending => s.sorted column descending rows
  return (window limit? offset rows).map s.fields

def count (db : Database) (table : String) (c : Condition) : Except Fault Nat := do
  let s ← db.prepare table c []
  let rows ← s.select c
  return rows.length

def insert (db : Database) (table : String) (values : List (String × Value)) :
    Except Fault (Int × Database) := do
  admitTexts (table :: values.map (·.1))
  if values.isEmpty then .error (.unexpected ")")
  let s ← db.find table
  match values.find? fun (name, _) => !s.hasColumn name with
  | some (name, _) => .error (.columnToFillMissing table name)
  | none =>
    let cells ← Cell.ofValues (values.map (·.2))
    let (id, s) ← s.insert ((values.map (·.1)).zip cells)
    return (id, db.replace table s)

def update (db : Database) (table : String) (id : Int) (values : List (String × Value)) :
    Except Fault (Nat × Database) := do
  admitTexts (table :: values.map (·.1))
  if values.isEmpty then .error (.unexpected "WHERE")
  let s ← db.find table
  match values.find? fun (name, _) => !s.hasColumn name with
  | some (name, _) => .error (.columnMissing name)
  | none =>
    let cells ← Cell.ofValues (values.map (·.2))
    let key ← Cell.ofValue (values.length + 1) (.int id)
    let (n, s) ← s.update key ((values.map (·.1)).zip cells)
    return (n, db.replace table s)

def delete (db : Database) (table : String) (id : Int) : Except Fault (Nat × Database) := do
  admitTexts [table]
  let s ← db.find table
  let key ← Cell.ofValue 1 (.int id)
  let (n, s) := s.delete key
  return (n, db.replace table s)

end Database

end Cabinet.Storage
