import Cabinet.Number.Binary64
import Cabinet.Text.Blank
import Cabinet.Text.Case
import Cabinet.Text.Digit

/-!
Numbers read from text.
-/

namespace Cabinet

namespace Text

/-- Splits a sign off. -/
def splitSign : List Char → Bool × List Char
  | '-' :: rest => (true, rest)
  | '+' :: rest => (false, rest)
  | s => (false, s)

/-- Digits, in which single underscores may stand between two digits; without the underscores. -/
def groupedDigits? : List Char → Option (List Char)
  | [] => none
  | [c] => if isDigit c then some [c] else none
  | c :: '_' :: rest => if isDigit c then (groupedDigits? rest).map (c :: ·) else none
  | c :: rest => if isDigit c then (groupedDigits? rest).map (c :: ·) else none

/-- The text of digits as an integer, within the limit on their count. -/
def integer? (s : List Char) : Option Int := do
  let (negative, rest) := splitSign (trim s)
  let digits ← groupedDigits? rest
  if maxIntegerDigits < digits.length then none
  else
    let n : Int := numeral digits
    some (if negative then -n else n)

end Text

namespace Binary64

/-- The words for numbers that are not finite, without regard to case. -/
def ofWord? (negative : Bool) (s : List Char) : Option Binary64 :=
  match String.ofList (s.map Char.toLower) with
  | "nan" => some .nan
  | "inf" => some (.infinite negative)
  | "infinity" => some (.infinite negative)
  | _ => none

/-- Splits at the first character that satisfies a test, which goes to neither part. -/
def splitAt? (p : Char → Bool) (s : List Char) : List Char × Option (List Char) :=
  match s.dropWhile (!p ·) with
  | [] => (s, none)
  | _ :: rest => (s.takeWhile (!p ·), some rest)

/-- The exponent that follows an `e`; nothing follows when there is none. -/
def exponent? : Option (List Char) → Option Int
  | none => some 0
  | some s => do
    let (negative, rest) := Text.splitSign s
    let digits ← Text.groupedDigits? rest
    let n : Int := Text.numeral digits
    some (if negative then -n else n)

/-- Digits that may be absent. -/
def optionalDigits? : List Char → Option (List Char)
  | [] => some []
  | s => Text.groupedDigits? s

/-- Reads a number: digits with an optional point, an optional exponent, blanks around them, and
the words for infinity and NaN. -/
def read? (s : List Char) : Option Binary64 :=
  let (negative, rest) := Text.splitSign (Text.trim s)
  match ofWord? negative rest with
  | some x => some x
  | none => do
    let (significand, exponent) := splitAt? (fun c => c == 'e' || c == 'E') rest
    let e ← exponent? exponent
    let (whole, fraction) := splitAt? (· == '.') significand
    let whole ← optionalDigits? whole
    let fraction ← optionalDigits? (fraction.getD [])
    if whole.isEmpty && fraction.isEmpty then none
    else some (ofDecimal negative (Text.numeral (whole ++ fraction)) (e - fraction.length))

end Binary64

end Cabinet
