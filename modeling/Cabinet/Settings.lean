import Cabinet.Text.Case
import Cabinet.Value

/-!
Where databases and backups are kept, and how much is logged.
-/

namespace Cabinet

namespace Path

/-- The parts of a path that say something. -/
def parts (s : List Char) : List (List Char) :=
  (s.splitOn '/').filter fun part => part != [] && part != ['.']

/-- The slashes that a path begins with and that count: two stay two, more are one. -/
def root : List Char → List Char
  | '/' :: '/' :: '/' :: _ => ['/']
  | '/' :: '/' :: _ => ['/', '/']
  | '/' :: _ => ['/']
  | _ => []

/-- A path without parts that say nothing. -/
def tidy (path : String) : String :=
  let s := path.toList
  match root s ++ ['/'].intercalate (parts s) with
  | [] => "."
  | tidied => String.ofList tidied

end Path

structure Settings where
  dataFolder : String := "databases"
  backupFolder : String := "backup"
  logLevel : String := "INFO"
  deriving DecidableEq, Repr

namespace Settings

def dataVariable : String := "TAGGED_TABLES_DATA_DIR"
def backupVariable : String := "TAGGED_TABLES_BACKUP_DIR"
def levelVariable : String := "TAGGED_TABLES_LOG_LEVEL"

def capitals (s : String) : String :=
  String.ofList (Text.upper s.toList)

/-- Puts other values in place of those of the settings. -/
def override (s : Settings) (data? backup? level? : Option String) : Settings where
  dataFolder := (data?.map Path.tidy).getD s.dataFolder
  backupFolder := (backup?.map Path.tidy).getD s.backupFolder
  logLevel := (level?.map capitals).getD s.logLevel

/-- The settings of an environment, where an empty variable counts as none. -/
def ofEnvironment (environment : Fields String) : Settings :=
  let get (name : String) := (environment.get? name).filter (!·.isEmpty)
  override {} (get dataVariable) (get backupVariable) (get levelVariable)

end Settings

end Cabinet
