import Cabinet.CommandLine.Command
import Cabinet.Text.Case

/-!
The text that tells how commands are given.
-/

namespace Cabinet.CommandLine

/-- A place as it is written: brackets where it may be left out, dots where it takes many words. -/
def Slot.usage (s : Slot) : String :=
  match s.arity with
  | .one => s.name
  | .any => "[" ++ s.name ++ " ...]"
  | .some => s.name ++ " [" ++ s.name ++ " ...]"
  | .rest => s.name ++ " ..."

/-- A flag as it is written, with the word that it takes. -/
def Flag.usage (f : Flag) : String :=
  let word := if f.kind?.isSome then " " ++ String.ofList (Text.upper f.name.toList) else ""
  "[--" ++ f.name ++ word ++ "]"

def Form.usage (form : Form) : List String :=
  form.name :: form.slots.map Slot.usage ++ form.flags.map Flag.usage

/-- A command with what is written before it. -/
def usageLine (words : List String) (form : Form) : String :=
  " ".intercalate ("tagged-tables" :: words ++ form.usage)

/-- How each command is given, a line for each. -/
def usage : List String :=
  " ".intercalate ("tagged-tables" :: (helpFlag :: mainFlags).map Flag.usage ++ ["command ..."]) ::
    groups.flatMap (fun (name, forms) => forms.map (usageLine [name])) ++
    [usageLine [] searchForm]

end Cabinet.CommandLine
