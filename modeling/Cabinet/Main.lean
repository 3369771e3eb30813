import Cabinet.CommandLine.Run
import Cabinet.CommandLine.Usage
import Cabinet.Workspace.Snapshot
import Std.Time.DateTime.Timestamp

/-!
The program: it takes a workspace up from its snapshot in the current folder, runs one command, and
leaves a snapshot behind.
-/

namespace Cabinet.Main

def snapshotFile : String := "cabinet.json"

/-- The files of the workspace; none if there is no snapshot yet. -/
def load : IO (Option Files) := do
  try
    let s ← IO.FS.readFile snapshotFile
    return Files.ofSnapshot? s.toList
  catch _ =>
    return some []

def save (files : Files) : IO Unit :=
  IO.FS.writeFile snapshotFile (String.ofList files.snapshot)

/-- The variables that settings are read from. -/
def environment : IO (Fields String) := do
  let mut given : Fields String := []
  for name in [Settings.dataVariable, Settings.backupVariable, Settings.levelVariable] do
    if let some value ← IO.getEnv name then
      given := given.put name value
  return given

/-- The time in milliseconds. -/
def now : IO Int := do
  let t ← Std.Time.Timestamp.now
  return t.toMillisecondsSinceUnixEpoch.val

/-- Prints how a run has ended, and tells its code. -/
def conclude : CommandLine.Ending → IO UInt32
  | .exit e => do
    let stream ← if e = .help then IO.getStdout else IO.getStderr
    for line in CommandLine.usage do
      stream.putStrLn line
    return e.status.toUInt32
  | .finished code output errors => do
    (← IO.getStderr).putStr (String.ofList errors)
    (← IO.getStdout).putStr (String.ofList output)
    return code.toUInt32
  | .failed e => do
    (← IO.getStderr).putStrLn ("Error: " ++ e.message)
    return 1

end Cabinet.Main

open Cabinet in
def main (words : List String) : IO UInt32 := do
  match ← Main.load with
  | none =>
    (← IO.getStderr).putStrLn ("Error: '" ++ Main.snapshotFile ++ "' is not a snapshot")
    return 1
  | some files =>
    let (ending, w) :=
      CommandLine.run (← Main.environment) words { files, time := ← Main.now }
    match ending with
    | .exit _ => pure ()
    | _ => Main.save w.files
    Main.conclude ending
