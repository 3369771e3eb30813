import Cabinet.Calendar
import Cabinet.Column.Basic
import Cabinet.Number.Reading
import Cabinet.Search.Condition

/-!
What the text of a term says in a column that is not text: truth values, numbers, days, and
comparisons with them.
-/

namespace Cabinet.Search

/-- Splits a comparison off that a text begins with, and the blanks after it. -/
def splitComparison? : List Char → Option (Comparison × List Char)
  | '>' :: '=' :: rest => some (.atLeast, Text.trimLeft rest)
  | '<' :: '=' :: rest => some (.atMost, Text.trimLeft rest)
  | '>' :: rest => some (.greater, Text.trimLeft rest)
  | '<' :: rest => some (.less, Text.trimLeft rest)
  | _ => none

/-- Truth values by word or digit. -/
def truthValue? (s : List Char) : Option Int :=
  match String.ofList (Text.lower (Text.trim s)) with
  | "true" => some 1
  | "1" => some 1
  | "false" => some 0
  | "0" => some 0
  | _ => none

/-- What follows the digits of a number before its exponent; there is at least one digit. -/
def afterSignificand? (s : List Char) : Option (List Char) :=
  let rest := s.dropWhile Text.isDigit
  let whole := (s.head?.map Text.isDigit).getD false
  match rest with
  | '.' :: fraction =>
    if whole || (fraction.head?.map Text.isDigit).getD false then
      some (fraction.dropWhile Text.isDigit)
    else none
  | _ => if whole then some rest else none

/-- Whether a text is nothing or an exponent. -/
def isExponent : List Char → Bool
  | [] => true
  | e :: rest =>
    let digits := (Text.splitSign rest).2
    (e == 'e' || e == 'E') && !digits.isEmpty && digits.all Text.isDigit

/-- Whether a text is a number in decimal. -/
def isNumber (s : List Char) : Bool :=
  ((afterSignificand? (Text.splitSign s).2).map isExponent).getD false

/-- The value of a number: an integer if it is written as one that can be stored. -/
def numberValue (s : List Char) : Value :=
  match Text.integer? s with
  | some n => if isStorable n then .int n else .float ((Binary64.read? s).getD .zero)
  | none => .float ((Binary64.read? s).getD .zero)

/-- A number, or a comparison with one. -/
def numericClause? (column : String) (s : List Char) : Option Clause :=
  let s := Text.trim s
  match splitComparison? s with
  | some (comparison, operand) =>
    if isNumber operand then some (.compare column comparison (numberValue operand)) else none
  | none => if isNumber s then some (.compare column .equal (numberValue s)) else none

/-- One or two digits at the beginning. -/
def shortNumber? : List Char → Option (Int × List Char)
  | a :: b :: rest =>
    if Text.isDigit a then
      if Text.isDigit b then some (Text.numeral [a, b], rest)
      else some (Text.numeral [a], b :: rest)
    else none
  | [a] => if Text.isDigit a then some (Text.numeral [a], []) else none
  | [] => none

/-- What follows a mark between the parts of a date. -/
def afterMark? : List Char → Option (List Char)
  | '/' :: rest => some rest
  | '-' :: rest => some rest
  | _ => none

/-- The day that a text names by year, month and day, if the calendar has it. -/
def dayValue? (s : List Char) : Option Calendar.Day := do
  let year := s.take 4
  if year.length < 4 || !year.all Text.isDigit then none
  let rest ← afterMark? (s.drop 4)
  let (month, rest) ← shortNumber? rest
  let rest ← afterMark? rest
  let (day, rest) ← shortNumber? rest
  if rest.isEmpty then Calendar.day? (Text.numeral year) month day else none

/-- A day, or a comparison with one: a later moment than a day is after its last millisecond. -/
def dayClause? (column : String) (s : List Char) : Option Clause :=
  let s := Text.trim s
  match splitComparison? s with
  | some (comparison, operand) => do
    let (start, finish) := (← dayValue? operand).bounds
    let bound :=
      match comparison with
      | .greater => finish
      | .atMost => finish
      | _ => start
    some (.compare column comparison (.int bound))
  | none => do
    let (start, finish) := (← dayValue? s).bounds
    some (.between column start finish)

/-- A backslash before each character that has a meaning in a pattern. -/
def escapePattern (s : List Char) : List Char :=
  s.flatMap fun c => if c = '\\' ∨ c = '%' ∨ c = '_' then ['\\', c] else [c]

/-- The clause that looks for a part of the text. -/
def partClause (column : String) (s : List Char) : Clause :=
  .like column ('%' :: escapePattern s ++ ['%'])

end Cabinet.Search
