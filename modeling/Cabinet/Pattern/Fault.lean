import Cabinet.Text.Digit

/-!
Why a text is not a pattern.
-/

namespace Cabinet.Pattern

inductive Fault where
  | invalid (reason : String) (position : Option Nat)
  | repetitionTooLarge
  | numberTooLong
  | flagsAtOdds
  | nestedTooDeep
  deriving DecidableEq, Repr

namespace Fault

/-- The line and the column of a position, both counted from one. -/
def lineColumn (pattern : List Char) (position : Nat) : Nat × Nat :=
  let before := pattern.take position
  let column := (before.reverse.takeWhile (· != '\n')).length
  (before.count '\n' + 1, column + 1)

/-- The reason with the position, and with line and column if the pattern has several lines. -/
def message (pattern : List Char) : Fault → String
  | invalid reason none => reason
  | invalid reason (some position) =>
    let place := reason ++ " at position " ++ toString position
    if pattern.contains '\n' then
      let (line, column) := lineColumn pattern position
      place ++ " (line " ++ toString line ++ ", column " ++ toString column ++ ")"
    else place
  | repetitionTooLarge => "the repetition number is too large"
  | numberTooLong => "the repetition number has too many digits"
  | flagsAtOdds => "ASCII and UNICODE flags are incompatible"
  | nestedTooDeep => "maximum recursion depth exceeded"

end Fault

end Cabinet.Pattern
