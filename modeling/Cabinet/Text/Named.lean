import Cabinet.Text.Digit
import Cabinet.Text.LatinNames
import Cabinet.Text.PictureNames
import Cabinet.Text.Syllable
import Cabinet.Text.SymbolNames

/-!
Characters found by their names.
-/

namespace Cabinet.Text

/-- The code points of ideographs that are named by their number. -/
def ideographRuns : List (Nat × Nat) :=
  [(0x3400, 0x4DBF), (0x4E00, 0x9FFF), (0x20000, 0x2A6DF), (0x2A700, 0x2B738),
    (0x2B740, 0x2B81D), (0x2B820, 0x2CEA1), (0x2CEB0, 0x2EBE0), (0x30000, 0x3134A)]

/-- An ideograph by the number in its name. -/
def ideographNamed? (name : List Char) : Option Nat :=
  let stem := "CJK UNIFIED IDEOGRAPH-".toList
  let digits := name.drop stem.length
  let code := hexNumeral digits
  if stem.isPrefixOf name && (digits.length == 4 || digits.length == 5) &&
      digits.all (fun c => (hexValue? c).isSome && !c.isLower) &&
      ideographRuns.any (fun (first, last) => first ≤ code && code ≤ last) then some code
  else none

/-- The character of a name. A name that is made by a rule is in capital letters; others may be in
small ones. -/
def codeNamed? (name : List Char) : Option Nat :=
  let key := String.ofList (name.map Char.toUpper)
  (syllableNamed? name).or <| (ideographNamed? name).or <| (latinNames.lookup key).or <|
    (symbolNames.lookup key).or (pictureNames.lookup key)

end Cabinet.Text
