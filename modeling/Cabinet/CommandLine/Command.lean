import Cabinet.CommandLine.Form

/-!
Commands, and how they are read from the words of a command line: some words name a command, and the
words after them fill in its form.
-/

namespace Cabinet

inductive Command where
  | createDatabase (name description : String)
  | listDatabases (includeHidden : Bool)
  | showDatabase (id : String)
  | renameDatabase (id name : String)
  | setDatabaseVisibility (id : String) (hidden : Bool)
  | deleteDatabase (id : String)
  | listTables (id : String)
  | createTable (id table : String)
  | renameTable (id table name : String)
  | setTableVisibility (id table : String) (hidden : Bool)
  | deleteTable (id table : String)
  | checkTable (id table : String)
  | listColumns (id table : String)
  | createColumn (id table column type : String) (hidden : Bool) (index? : Option Int)
  | changeColumn (id table column : String) (name? type? : Option String)
  | setColumnVisibility (id table column : String) (hidden : Bool)
  | exchangeColumn (id table column : String) (index : Int)
  | shiftColumn (id table column : String) (index : Int)
  | deleteColumn (id table column : String)
  | addTag (id table column tag description : String)
  | removeTag (id table column tag : String)
  | setRule (id table column rule : String)
  | createRow (id table : String) (assignments : List String)
  | getRow (id table : String) (row : Int)
  | updateRow (id table : String) (row : Int) (assignments : List String)
  | setRowVisibility (id table : String) (row : Int) (hidden : Bool)
  | deleteRow (id table : String) (row : Int)
  | search (id table : String) (words : List String) (sort? : Option String)
      (descending random : Bool) (limit? : Option Int) (offset : Int) (includeHidden : Bool)
  | createBackup (id : String)
  | listBackups
  | restoreBackup (name : String)
  | deleteBackup (name : String)
  deriving DecidableEq, Repr

/-- What the program is called with: a command, and what stands in place of the settings. -/
structure Invocation where
  command : Command
  dataFolder? : Option String := none
  backupFolder? : Option String := none
  verbose : Bool := false
  deriving DecidableEq, Repr

namespace CommandLine

/-- The form of a command, and the command that it makes of its arguments. -/
structure Form where
  name : String
  slots : List Slot
  flags : List Flag := []
  command : Arguments → Command

/-- A place for one text. -/
def textSlot (name : String) : Slot :=
  { name }

def textSlots (names : List String) : List Slot :=
  names.map textSlot

def databaseSlots : List Slot :=
  textSlots ["db"]

def tableSlots : List Slot :=
  textSlots ["db", "table"]

def columnSlots : List Slot :=
  textSlots ["db", "table", "column"]

def visibilitySlot : Slot where
  name := "state"
  kind := .visibility

def integerSlot (name : String) : Slot where
  name
  kind := .integer

/-- A place for assignments of values to columns, of which there is at least one. -/
def assignmentsSlot : Slot where
  name := "values"
  arity := .some

def allFlag : Flag where
  name := "all"

def descriptionFlag : Flag where
  name := "description"
  kind? := some .text

def databaseForms : List Form :=
  [{ name := "create"
     slots := textSlots ["name"]
     flags := [descriptionFlag]
     command := fun a => .createDatabase (a.text "name") (a.text "description") },
   { name := "list"
     slots := []
     flags := [allFlag]
     command := fun a => .listDatabases (a.isSet "all") },
   { name := "show"
     slots := databaseSlots
     command := fun a => .showDatabase (a.text "db") },
   { name := "rename"
     slots := databaseSlots ++ textSlots ["name"]
     command := fun a => .renameDatabase (a.text "db") (a.text "name") },
   { name := "visibility"
     slots := databaseSlots ++ [visibilitySlot]
     command := fun a => .setDatabaseVisibility (a.text "db") (a.isSet "state") },
   { name := "delete"
     slots := databaseSlots
     command := fun a => .deleteDatabase (a.text "db") }]

def tableForms : List Form :=
  [{ name := "list"
     slots := databaseSlots
     command := fun a => .listTables (a.text "db") },
   { name := "create"
     slots := tableSlots
     command := fun a => .createTable (a.text "db") (a.text "table") },
   { name := "rename"
     slots := tableSlots ++ textSlots ["new_name"]
     command := fun a => .renameTable (a.text "db") (a.text "table") (a.text "new_name") },
   { name := "visibility"
     slots := tableSlots ++ [visibilitySlot]
     command := fun a => .setTableVisibility (a.text "db") (a.text "table") (a.isSet "state") },
   { name := "delete"
     slots := tableSlots
     command := fun a => .deleteTable (a.text "db") (a.text "table") },
   { name := "check"
     slots := tableSlots
     command := fun a => .checkTable (a.text "db") (a.text "table") }]

def columnForms : List Form :=
  [{ name := "list"
     slots := tableSlots
     command := fun a => .listColumns (a.text "db") (a.text "table") },
   { name := "create"
     slots := columnSlots ++ [{ name := "type", kind := .type }]
     flags := [{ name := "hidden" }, { name := "index", kind? := some .integer }]
     command := fun a =>
       .createColumn (a.text "db") (a.text "table") (a.text "column") (a.text "type")
         (a.isSet "hidden") (a.integer? "index") },
   { name := "edit"
     slots := columnSlots
     flags := [{ name := "name", kind? := some .text }, { name := "type", kind? := some .type }]
     command := fun a =>
       .changeColumn (a.text "db") (a.text "table") (a.text "column") (a.text? "name")
         (a.text? "type") },
   { name := "visibility"
     slots := columnSlots ++ [visibilitySlot]
     command := fun a =>
       .setColumnVisibility (a.text "db") (a.text "table") (a.text "column") (a.isSet "state") },
   { name := "swap"
     slots := columnSlots ++ [integerSlot "index"]
     command := fun a =>
       .exchangeColumn (a.text "db") (a.text "table") (a.text "column") (a.integer "index") },
   { name := "move"
     slots := columnSlots ++ [integerSlot "index"]
     command := fun a =>
       .shiftColumn (a.text "db") (a.text "table") (a.text "column") (a.integer "index") },
   { name := "delete"
     slots := columnSlots
     command := fun a => .deleteColumn (a.text "db") (a.text "table") (a.text "column") },
   { name := "add-tag"
     slots := columnSlots ++ textSlots ["tag"]
     flags := [descriptionFlag]
     command := fun a =>
       .addTag (a.text "db") (a.text "table") (a.text "column") (a.text "tag")
         (a.text "description") },
   { name := "remove-tag"
     slots := columnSlots ++ textSlots ["tag"]
     command := fun a =>
       .removeTag (a.text "db") (a.text "table") (a.text "column") (a.text "tag") },
   { name := "rule"
     slots := columnSlots ++ textSlots ["rule"]
     command := fun a =>
       .setRule (a.text "db") (a.text "table") (a.text "column") (a.text "rule") }]

def rowForms : List Form :=
  [{ name := "create"
     slots := tableSlots ++ [assignmentsSlot]
     command := fun a => .createRow (a.text "db") (a.text "table") (a.texts "values") },
   { name := "get"
     slots := tableSlots ++ [integerSlot "id"]
     command := fun a => .getRow (a.text "db") (a.text "table") (a.integer "id") },
   { name := "delete"
     slots := tableSlots ++ [integerSlot "id"]
     command := fun a => .deleteRow (a.text "db") (a.text "table") (a.integer "id") },
   { name := "update"
     slots := tableSlots ++ [integerSlot "id", assignmentsSlot]
     command := fun a =>
       .updateRow (a.text "db") (a.text "table") (a.integer "id") (a.texts "values") },
   { name := "visibility"
     slots := tableSlots ++ [integerSlot "id", visibilitySlot]
     command := fun a =>
       .setRowVisibility (a.text "db") (a.text "table") (a.integer "id") (a.isSet "state") }]

def searchForm : Form where
  name := "search"
  slots := tableSlots ++ [{ name := "query", arity := .any }]
  flags :=
    [{ name := "sort", kind? := some .text }, { name := "desc" }, { name := "random" },
      { name := "limit", kind? := some .integer }, { name := "offset", kind? := some .integer },
      allFlag]
  command := fun a =>
    .search (a.text "db") (a.text "table") (a.texts "query") (a.text? "sort") (a.isSet "desc")
      (a.isSet "random") (a.integer? "limit") (a.integer "offset") (a.isSet "all")

def backupForms : List Form :=
  [{ name := "create"
     slots := databaseSlots
     command := fun a => .createBackup (a.text "db") },
   { name := "list"
     slots := []
     command := fun _ => .listBackups },
   { name := "restore"
     slots := textSlots ["name"]
     command := fun a => .restoreBackup (a.text "name") },
   { name := "delete"
     slots := textSlots ["name"]
     command := fun a => .deleteBackup (a.text "name") }]

/-- The groups of commands by their names. -/
def groups : List (String × List Form) :=
  [("db", databaseForms), ("table", tableForms), ("column", columnForms), ("row", rowForms),
    ("backup", backupForms)]

/-- The flags that stand before a command. -/
def mainFlags : List Flag :=
  [{ name := "data-dir", kind? := some .text }, { name := "backup-dir", kind? := some .text },
    { name := "verbose", letter? := some 'v' }]

/-- Requires what may be absent. -/
def require {α : Type} : Option α → Except Exit α
  | some a => .ok a
  | none => .error .mistake

/-- Splits words, after flags, into the first and those that are left. -/
def readHeading (flags : List Flag) (texts : List String) :
    Except Exit (Filling × String × List String) := do
  let p ← fillForm [{ name := "command", arity := .rest }] flags texts
  match p.rest with
  | word :: rest => return (p, word, rest)
  | [] => .error .mistake

/-- The command of a form, and whether there was a word that the form has no place for. -/
def readForm (form : Form) (texts : List String) : Except Exit (Command × Bool) := do
  let p ← fillForm form.slots form.flags texts
  return (form.command p.found, p.hasExtra)

/-- The command that words name and fill in. -/
def readCommand (word : String) (texts : List String) : Except Exit (Command × Bool) := do
  if word = searchForm.name then readForm searchForm texts
  else do
    let forms ← require (groups.lookup word)
    let (p, name, texts) ← readHeading [] texts
    let form ← require (forms.find? (·.name == name))
    let (command, hasExtra) ← readForm form texts
    return (command, hasExtra || p.hasExtra)

/-- What the words of a command line call for. -/
def read (texts : List String) : Except Exit Invocation := do
  let (p, word, texts) ← readHeading mainFlags texts
  let (command, hasExtra) ← readCommand word texts
  if hasExtra || p.hasExtra then .error .mistake
  else
    return {
      command
      dataFolder? := p.found.text? "data-dir"
      backupFolder? := p.found.text? "backup-dir"
      verbose := p.found.isSet "verbose" }

end CommandLine

end Cabinet
