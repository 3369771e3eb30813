import Cabinet.Error
import Cabinet.Storage.Database

/-!
Statements on stored tables, with the names under which their failures are reported.
-/

namespace Cabinet.Storage

/-- A statement with its name. Statements that change something answer with the changed tables. -/
structure Statement (α : Type) where
  action : String
  run : Database → Except Fault α

/-- Stored tables as they are found in a file, or why they are not. -/
abbrev Opened := Except Fault Database

namespace Statement

variable {α : Type}

/-- An answer that is named if it is a failure. -/
def named (action : String) : Except Fault α → Except Error α
  | .ok a => .ok a
  | .error fault => .error (.storage action fault)

/-- Runs a statement on stored tables. -/
def on (s : Statement α) (db : Database) : Except Error α :=
  named s.action (s.run db)

/-- Runs a statement on what was found in a file. -/
def onOpened (s : Statement α) (opened : Opened) : Except Error α :=
  named s.action (opened.bind s.run)

/-- The stored column of a declared type. -/
def declared (name : String) (type : StorageType) : SheetColumn :=
  { name, affinity := .ofStorage type }

def createTable (s : Sheet) : Statement Database where
  action := "create table '" ++ s.name ++ "'"
  run db := db.createTable s

def dropTable (table : String) : Statement Database where
  action := "drop table '" ++ table ++ "'"
  run db := db.dropTable table

def renameTable (old new : String) : Statement Database where
  action := "rename table '" ++ old ++ "' to '" ++ new ++ "'"
  run db := db.renameTable old new

def addColumn (table column : String) (type : StorageType) : Statement Database where
  action := "add column '" ++ column ++ "' to table '" ++ table ++ "'"
  run db := db.addColumn table (declared column type)

def dropColumn (table column : String) : Statement Database where
  action := "drop column '" ++ column ++ "' from table '" ++ table ++ "'"
  run db := db.dropColumn table column

def renameColumn (table old new : String) : Statement Database where
  action := "rename column '" ++ old ++ "' to '" ++ new ++ "' in table '" ++ table ++ "'"
  run db := db.renameColumn table old new

def insert (table : String) (values : List (String × Value)) : Statement (Int × Database) where
  action := "insert into table '" ++ table ++ "'"
  run db := db.insert table values

def update (table : String) (id : Int) (values : List (String × Value)) :
    Statement (Nat × Database) where
  action := "update row " ++ Error.number id ++ " in table '" ++ table ++ "'"
  run db := db.update table id values

def delete (table : String) (id : Int) : Statement (Nat × Database) where
  action := "delete row " ++ Error.number id ++ " from table '" ++ table ++ "'"
  run db := db.delete table id

def tableNames : Statement (List String) where
  action := "list tables"
  run db := .ok db.tableNames

def hasTable (table : String) : Statement Bool where
  action := "look up table '" ++ table ++ "'"
  run db := .ok (db.hasTable table)

def columnNames (table : String) : Statement (List String) where
  action := "inspect table '" ++ table ++ "'"
  run db := do
    admitTexts [table]
    return db.columnNames table

def count (table : String) (c : Condition) : Statement Nat where
  action := "count rows in table '" ++ table ++ "'"
  run db := db.count table c

def query (table : String) (c : Condition) (order : Search.RowOrder) (limit? : Option Int)
    (offset : Int) : Statement (List (Fields Cell)) where
  action := "query table '" ++ table ++ "'"
  run db := db.query table c order limit? offset

/-- The rows that go by an id. -/
def rowsById (table : String) (id : Int) : Statement (List (Fields Cell)) :=
  query table (.clause (.compare "id" .equal (.int id))) (.byColumn "id" false) none 0

end Statement

/-- The stored table of a new table, with the protected columns. -/
def freshSheet (name : String) : Sheet where
  name
  isCounted := true
  columns := [
    { name := "id", affinity := .integer, isKey := true },
    { name := "title", affinity := .text, required := true },
    { name := "content", affinity := .text },
    { name := "date_created", affinity := .integer },
    { name := "date_modified", affinity := .integer },
    { name := "hidden", affinity := .integer, required := true, default := .integer 0 }]

end Cabinet.Storage
