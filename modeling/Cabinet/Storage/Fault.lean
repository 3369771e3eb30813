import Cabinet.Sql.Name

/-!
Why storage refuses a statement, and what it says.
-/

namespace Cabinet.Storage

inductive Fault where
  | notADatabase
  | cannotOpen
  | diskError
  | full
  | tableMissing (table : String)
  | tableExists (table : String)
  | nameTaken (name : String)
  | nameReserved (name : String)
  | notAlterable (table : String)
  | notDroppable (table : String)
  | secondKey (table : String)
  | columnExists (column : String)
  | columnExistsAfterRename (table column : String)
  | columnMissing (column : String)
  | columnToAlterMissing (column : String)
  | columnToFillMissing (table column : String)
  | keyColumn (column : String)
  | onlyColumn (column : String)
  | valueMissing (table column : String)
  | valueTaken (table column : String)
  | keyNotInteger
  | unexpected (token : String)
  | nullCharacter
  | integerTooLarge
  | kindNotStored (position : Nat) (kind : String)
  | patternTooLong
  | functionFailed
  | conditionTooDeep
  | bracketsTooDeep
  deriving DecidableEq, Repr

namespace Fault

def quoted (name : String) : String :=
  String.ofList (Sql.quoteName name.toList)

def message : Fault → String
  | notADatabase => "file is not a database"
  | cannotOpen => "unable to open database file"
  | diskError => "disk I/O error"
  | full => "database or disk is full"
  | tableMissing table => "no such table: " ++ table
  | tableExists table => "table " ++ quoted table ++ " already exists"
  | nameTaken name => "there is already another table or index with this name: " ++ name
  | nameReserved name => "object name reserved for internal use: " ++ name
  | notAlterable table => "table " ++ table ++ " may not be altered"
  | notDroppable table => "table " ++ table ++ " may not be dropped"
  | secondKey table => "table \"" ++ table ++ "\" has more than one primary key"
  | columnExists column => "duplicate column name: " ++ column
  | columnExistsAfterRename table column =>
    "error in table " ++ table ++ " after rename: duplicate column name: " ++ column
  | columnMissing column => "no such column: " ++ column
  | columnToAlterMissing column => "no such column: \"" ++ quoted column ++ "\""
  | columnToFillMissing table column => "table " ++ table ++ " has no column named " ++ column
  | keyColumn column => "cannot drop PRIMARY KEY column: \"" ++ column ++ "\""
  | onlyColumn column => "cannot drop column \"" ++ column ++ "\": no other columns exist"
  | valueMissing table column => "NOT NULL constraint failed: " ++ table ++ "." ++ column
  | valueTaken table column => "UNIQUE constraint failed: " ++ table ++ "." ++ column
  | keyNotInteger => "datatype mismatch"
  | unexpected token => "near \"" ++ token ++ "\": syntax error"
  | nullCharacter => "the query contains a null character"
  | integerTooLarge => "Python int too large to convert to SQLite INTEGER"
  | kindNotStored position kind =>
    "Error binding parameter " ++ toString position ++ ": type '" ++ kind ++ "' is not supported"
  | patternTooLong => "LIKE or GLOB pattern too complex"
  | functionFailed => "user-defined function raised exception"
  | conditionTooDeep => "Expression tree is too large (maximum depth 1000)"
  | bracketsTooDeep => "parser stack overflow"

end Fault

end Cabinet.Storage
