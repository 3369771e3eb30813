import Cabinet.Column.Type
import Cabinet.Pattern.Fault
import Cabinet.Storage.Fault
import Cabinet.Value

/-!
Why an operation fails, what the failure is called, and what it says.
-/

namespace Cabinet

/-- What a failure is called. -/
inductive Kind where
  | general
  | notFound
  | conflict
  | validation
  | shielded
  | invariant
  | storage
  | inconsistent
  | query
  | value
  | type
  | key
  | attribute
  | overflow
  | document
  | system
  | missingFile
  | interrupted
  deriving DecidableEq, Repr

/-- Whether a failure of this kind is one that users are told of. -/
def Kind.isTold : Kind → Bool
  | general => true
  | notFound => true
  | conflict => true
  | validation => true
  | shielded => true
  | invariant => true
  | storage => true
  | inconsistent => true
  | _ => false

/-- Causes of failure. -/
inductive Error where
  | databaseMissing (id : String)
  | recordMissing (id : Value)
  | tableMissing (table : String) (database : Value)
  | columnMissing (column table : String)
  | rowMissing (id : Int) (table : String)
  | indexMissing (index : Int) (table : String)
  | backupMissing (name : String)
  | databaseExists (id : String)
  | recordExists (id : Value)
  | recordChanged (id : Value) (expected found : Int)
  | tableExists (table database : String)
  | columnExists (column table : String)
  | tagExists (tag column : String)
  | backupExists (name : String)
  | taken (id : Value)
  | unknownType (type : Value)
  | rejected (type : ColumnType) (column detail : String)
  | unregisteredTag (tag column : String)
  | invalidRule (column rule : String) (fault : Pattern.Fault)
  | blankDatabaseName (id : Option String)
  | nameNotText (what : String) (given : Value)
  | blankName (what given : String)
  | reservedTable (table : String)
  | indexOutOfRange (index last : Int) (column : String)
  | nothingToChange (column : String)
  | noVocabulary (column : String) (type : ColumnType)
  | noRule (column : String) (type : ColumnType)
  | titleMissing
  | titleBlank
  | columnUnknown (column table : String)
  | badVisibility (given : Value)
  | badCount (what : String) (given : Value)
  | unknownSort (field : Value)
  | badAssignment (text : String)
  | protectedColumn (column action : String)
  | protectedPlace (column : String) (index : Int)
  | typeOutsideCatalog (column name : String)
  | storedTypeUnknown (column table : String) (type : Value)
  | nodeUnknown (text : String)
  | storage (action : String) (fault : Storage.Fault)
  | schemaDiverged (id : Value) (action cause restore : String)
  | renameDiverged (id cause restore : String)
  | tableProblems (table : String) (count : Nat)
  | illegalCharacter (c : Char) (position : Nat)
  | valueExpected (c : Char) (position : Nat)
  | tokenUnexpected (text : String) (position : Nat)
  | queryUnfinished
  | queryTooDeep
  | levelUnknown (name : String)
  | unreadable
  | wrongKind
  | keyMissing
  | noSuchPart
  | numberTooLarge
  | patternTooDeep
  | malformedDocument
  | systemFault (text : String)
  | fileMissing
  | interrupted

namespace Error

def kind : Error → Kind
  | databaseMissing _ => .notFound
  | recordMissing _ => .notFound
  | tableMissing .. => .notFound
  | columnMissing .. => .notFound
  | rowMissing .. => .notFound
  | indexMissing .. => .notFound
  | backupMissing _ => .notFound
  | databaseExists _ => .conflict
  | recordExists _ => .conflict
  | recordChanged .. => .conflict
  | tableExists .. => .conflict
  | columnExists .. => .conflict
  | tagExists .. => .conflict
  | backupExists _ => .conflict
  | taken _ => .conflict
  | unknownType _ => .validation
  | rejected .. => .validation
  | unregisteredTag .. => .validation
  | invalidRule .. => .validation
  | blankDatabaseName _ => .validation
  | nameNotText .. => .validation
  | blankName .. => .validation
  | reservedTable _ => .validation
  | indexOutOfRange .. => .validation
  | nothingToChange _ => .validation
  | noVocabulary .. => .validation
  | noRule .. => .validation
  | titleMissing => .validation
  | titleBlank => .validation
  | columnUnknown .. => .validation
  | badVisibility _ => .validation
  | badCount .. => .validation
  | unknownSort _ => .validation
  | badAssignment _ => .validation
  | protectedColumn .. => .shielded
  | protectedPlace .. => .shielded
  | typeOutsideCatalog .. => .invariant
  | storedTypeUnknown .. => .invariant
  | nodeUnknown _ => .invariant
  | storage .. => .storage
  | schemaDiverged .. => .inconsistent
  | renameDiverged .. => .inconsistent
  | tableProblems .. => .general
  | illegalCharacter .. => .query
  | valueExpected .. => .query
  | tokenUnexpected .. => .query
  | queryUnfinished => .query
  | queryTooDeep => .query
  | levelUnknown _ => .value
  | unreadable => .value
  | wrongKind => .type
  | keyMissing => .key
  | noSuchPart => .attribute
  | numberTooLarge => .overflow
  | patternTooDeep => .interrupted
  | malformedDocument => .document
  | systemFault _ => .system
  | fileMissing => .missingFile
  | interrupted => .interrupted

/-- Text in quotation marks. -/
def quote (s : String) : String :=
  String.ofList (Text.quoted s.toList)

def plainText (v : Value) : String :=
  String.ofList v.plain

def shownText (v : Value) : String :=
  String.ofList v.shown

def number (n : Int) : String :=
  String.ofList (Text.intText n)

def message : Error → String
  | databaseMissing id => "Database '" ++ id ++ "' not found"
  | recordMissing id => "Metadata for database '" ++ plainText id ++ "' not found"
  | tableMissing table database =>
    "Table '" ++ table ++ "' not found in database '" ++ plainText database ++ "'"
  | columnMissing column table =>
    "Column '" ++ column ++ "' not found" ++
      (if table.isEmpty then "" else " in table '" ++ table ++ "'")
  | rowMissing id table => "Row " ++ number id ++ " not found in table '" ++ table ++ "'"
  | indexMissing index table =>
    "No column at index " ++ number index ++ " in table '" ++ table ++ "'"
  | backupMissing name => "Backup '" ++ name ++ "' not found"
  | databaseExists id => "Database '" ++ id ++ "' already exists"
  | recordExists id => "Metadata for database '" ++ plainText id ++ "' already exists"
  | recordChanged id expected found =>
    "Metadata for database '" ++ plainText id ++ "' was modified concurrently (expected version " ++
      number expected ++ ", found " ++ number found ++ ")"
  | tableExists table database =>
    "Table '" ++ table ++ "' already exists in database '" ++ database ++ "'"
  | columnExists column table =>
    "Column '" ++ column ++ "' already exists in table '" ++ table ++ "'"
  | tagExists tag column =>
    "Tag '" ++ tag ++ "' is already registered in column '" ++ column ++ "'"
  | backupExists name => "Backup '" ++ name ++ "' already exists"
  | taken _ => "taken"
  | unknownType type =>
    "Unknown column type '" ++ plainText type ++ "'. Expected one of: " ++ ColumnType.labels
  | rejected type column detail =>
    "Value for " ++ type.label ++ " column '" ++ column ++ "' " ++ detail
  | unregisteredTag tag column =>
    "Tag '" ++ tag ++ "' is not registered in column '" ++ column ++ "'"
  | invalidRule column rule fault =>
    "Invalid rule for column '" ++ column ++ "': " ++ quote rule ++ " (" ++
      fault.message rule.toList ++ ")"
  | blankDatabaseName _ => "Database name cannot be blank"
  | nameNotText what given => what ++ " name must be a string, got " ++ shownText given
  | blankName what _ => what ++ " name cannot be blank"
  | reservedTable table => "Table name '" ++ table ++ "' is reserved"
  | indexOutOfRange index last _ =>
    "Column index " ++ number index ++ " is out of range 0.." ++ number last
  | nothingToChange column =>
    "Nothing to change for column '" ++ column ++ "': give a new name or type"
  | noVocabulary column type =>
    "Column '" ++ column ++ "' is a " ++ type.label ++ " column; tags apply to tag columns"
  | noRule column type =>
    "Column '" ++ column ++ "' is a " ++ type.label ++ " column; rules apply to custom columns"
  | titleMissing => "Title is required"
  | titleBlank => "Title is required and cannot be blank"
  | columnUnknown column table =>
    "Column '" ++ column ++ "' does not exist in table '" ++ table ++ "'"
  | badVisibility given => "Row visibility must be 0 or 1, got " ++ shownText given
  | badCount what given => what ++ " must be a non-negative integer, got " ++ shownText given
  | unknownSort field => "Cannot sort by unknown field '" ++ plainText field ++ "'"
  | badAssignment text => "Expected key=value, got " ++ quote text
  | protectedColumn column action =>
    "Column '" ++ column ++ "' is protected and cannot be " ++ action
  | protectedPlace column index =>
    "Column '" ++ column ++ "' is protected and cannot be moved from index " ++ number index
  | typeOutsideCatalog column name =>
    "Column '" ++ column ++ "' has unknown type " ++ quote name
  | storedTypeUnknown column table type =>
    "Column '" ++ column ++ "' in table '" ++ table ++ "' has unknown stored type '" ++
      plainText type ++ "'"
  | nodeUnknown text => "Unhandled search node " ++ quote text
  | storage action fault => "Failed to " ++ action ++ ": " ++ fault.message
  | schemaDiverged id action cause restore =>
    "Database '" ++ plainText id ++ "' is inconsistent after failed " ++ action ++
      ": storage rejected the change (" ++ cause ++ ") and metadata could not be restored (" ++
      restore ++ ")"
  | renameDiverged id cause restore =>
    "Database '" ++ id ++ "' is inconsistent after failed rename: metadata could not be moved (" ++
      cause ++ ") and the file could not be restored (" ++ restore ++ ")"
  | tableProblems table count =>
    "Table '" ++ table ++ "' has " ++ toString count ++ " problem(s)"
  | illegalCharacter c position =>
    "Illegal character '" ++ c.toString ++ "' at position " ++ toString position
  | valueExpected c position =>
    "Expected a value after field, got '" ++ c.toString ++ "' at position " ++ toString position
  | tokenUnexpected text position =>
    "Syntax error at '" ++ text ++ "' (position " ++ toString position ++ ")"
  | queryUnfinished => "Syntax error at end of input"
  | queryTooDeep => "maximum recursion depth exceeded"
  | levelUnknown name => "Unknown level: " ++ quote ("Level " ++ name)
  | systemFault text => text
  | _ => ""

/-- What the failure is about: a name, an id or a rule. -/
def identifier? : Error → Option Value
  | databaseMissing id => some (.text id)
  | recordMissing id => some id
  | tableMissing table _ => some (.text table)
  | columnMissing column _ => some (.text column)
  | rowMissing id _ => some (.text (number id))
  | indexMissing index _ => some (.text (number index))
  | backupMissing name => some (.text name)
  | databaseExists id => some (.text id)
  | recordExists id => some id
  | recordChanged id _ _ => some id
  | tableExists table _ => some (.text table)
  | columnExists column _ => some (.text column)
  | tagExists tag _ => some (.text tag)
  | backupExists name => some (.text name)
  | taken id => some id
  | unknownType type => some (.text (plainText type))
  | rejected _ column _ => some (.text column)
  | unregisteredTag tag _ => some (.text tag)
  | invalidRule _ rule _ => some (.text rule)
  | blankDatabaseName id => id.map .text
  | blankName _ given => some (.text given)
  | reservedTable table => some (.text table)
  | indexOutOfRange _ _ column => some (.text column)
  | nothingToChange column => some (.text column)
  | noVocabulary column _ => some (.text column)
  | noRule column _ => some (.text column)
  | titleMissing => some (.text "title")
  | titleBlank => some (.text "title")
  | columnUnknown column _ => some (.text column)
  | unknownSort field => some field
  | protectedColumn column _ => some (.text column)
  | protectedPlace column _ => some (.text column)
  | typeOutsideCatalog column _ => some (.text column)
  | storedTypeUnknown column _ _ => some (.text column)
  | schemaDiverged id .. => some id
  | renameDiverged id .. => some (.text id)
  | tableProblems table _ => some (.text table)
  | _ => none

end Error

/-- A pattern that cannot be read at all, rather than one that is refused. -/
def Pattern.Fault.error? : Pattern.Fault → Option Error
  | invalid .. => none
  | repetitionTooLarge => some .numberTooLarge
  | numberTooLong => some .unreadable
  | flagsAtOdds => some .unreadable
  | nestedTooDeep => some .patternTooDeep

end Cabinet
