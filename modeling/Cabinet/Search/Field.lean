import Cabinet.Column.Basic
import Cabinet.Error
import Cabinet.Text.Case

/-!
The column that a reference means: by its name, or by its place as `i` and a number.
-/

namespace Cabinet.Search

/-- The letter `i` of a place, in any case that folds to it. -/
def isPlaceLetter (c : Char) : Bool :=
  c == 'i' || c == 'I' || c.toNat == 0x130 || c.toNat == 0x131

/-- The digits of a place; a line end may follow them. -/
def placeDigits? : List Char → Option (List Char)
  | [] => none
  | c :: rest =>
    let digits := rest.takeWhile Text.isDigit
    let after := rest.dropWhile Text.isDigit
    if isPlaceLetter c ∧ digits ≠ [] ∧ (after = [] ∨ after = ['\n']) then some digits else none

def sameName (reference name : List Char) : Bool :=
  Text.lower name == Text.lower reference

/-- The column that a reference means, if there is one. Names come before places. -/
def resolve (columns : List Column) (reference : List Char) : Except Error (Option Column) :=
  if reference.isEmpty then .ok none
  else
    match columns.find? fun c => sameName reference c.name.toList with
    | some c => .ok (some c)
    | none =>
      match placeDigits? reference with
      | none => .ok none
      | some digits =>
        if Text.maxIntegerDigits < digits.length then .error .unreadable
        else .ok (columns.find? fun c => c.index = (Text.numeral digits : Int))

end Cabinet.Search
