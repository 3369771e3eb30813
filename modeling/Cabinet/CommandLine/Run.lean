import Cabinet.CommandLine.Report
import Cabinet.Settings

/-!
Runs of the program: settings, a command, what is printed, and what is logged.
-/

namespace Cabinet

namespace Level

/-- How serious entries of a level are. -/
def weight : Level → Nat
  | debug => 10
  | info => 20
  | warning => 30
  | error => 40

def label : Level → String
  | debug => "DEBUG"
  | info => "INFO"
  | warning => "WARNING"
  | error => "ERROR"

/-- The names of thresholds. The last leaves the threshold to be that of warnings. -/
def thresholds : List (String × Nat) :=
  [("CRITICAL", 50), ("FATAL", 50), ("ERROR", 40), ("WARN", 30), ("WARNING", 30), ("INFO", 20),
    ("DEBUG", 10), ("NOTSET", 30)]

/-- How serious entries must be to be shown. -/
def threshold (name : String) : Except Error Nat :=
  match thresholds.lookup name with
  | some n => .ok n
  | none => .error (.levelUnknown name)

end Level

/-- Log entries as lines, the first to be logged first. -/
def LogEntry.linesText (threshold : Nat) (log : List LogEntry) : List Char :=
  let shown := log.reverse.filter fun e => threshold ≤ e.level.weight
  shown.flatMap fun e =>
    ("[" ++ e.level.label ++ "] " ++ e.source ++ ": " ++ e.text ++ "\n").toList

namespace CommandLine

/-- How a run ends: at once, for want of a command; with a code, after it has printed; or with a
failure that is not told of. -/
inductive Ending where
  | exit (e : Exit)
  | finished (code : Nat) (output errors : List Char)
  | failed (cause : Error)

/-- Puts what an invocation says in place of the settings. -/
def Invocation.settings (call : Invocation) (environment : Fields String) : Settings :=
  (Settings.ofEnvironment environment).override call.dataFolder? call.backupFolder?
    (if call.verbose then some "DEBUG" else none)

/-- Logs where everything is kept, and does what a command says. -/
def act (s : Settings) (command : Command) : Operation Report := do
  Operation.log .debug "tagged_tables.cli"
    ("Data directory " ++ s.dataFolder ++ ", backup directory " ++ s.backupFolder)
  command.run ⟨s.dataFolder, s.backupFolder⟩

/-- The ending of a run that has done what it could. -/
def ending (threshold : Nat) (log : List LogEntry) : Except Error Report → Ending
  | .error e =>
    if e.kind.isTold then
      .finished 1 [] (LogEntry.linesText threshold log ++ ("Error: " ++ e.message ++ "\n").toList)
    else .failed e
  | .ok report =>
    let output := Display.linesText report.lines
    let errors := LogEntry.linesText threshold log
    match report.problem? with
    | some e => .finished 1 output (errors ++ ("Error: " ++ e.message ++ "\n").toList)
    | none => .finished 0 output errors

/-- Runs the program in a workspace. -/
def run (environment : Fields String) (texts : List String) (w : World) : Ending × World :=
  match read texts with
  | .error e => (.exit e, w)
  | .ok call =>
    let s := Invocation.settings call environment
    match Level.threshold s.logLevel with
    | .error e => (.failed e, w)
    | .ok threshold =>
      let (result, w) := (act s call.command).run.run { w with log := [] }
      (ending threshold w.log result, w)

end CommandLine

end Cabinet
