/-!
The names of the syllables of Korean: the names of an initial, a vowel and a final, one after
another.
-/

namespace Cabinet.Text

def initialNames : List String :=
  ["G", "GG", "N", "D", "DD", "R", "M", "B", "BB", "S", "SS", "", "J", "JJ", "C", "K", "T", "P",
    "H"]

def vowelNames : List String :=
  ["A", "AE", "YA", "YAE", "EO", "E", "YEO", "YE", "O", "WA", "WAE", "OE", "YO", "U", "WEO", "WE",
    "WI", "YU", "EU", "YI", "I"]

def finalNames : List String :=
  ["", "G", "GG", "GS", "N", "NJ", "NH", "D", "L", "LG", "LM", "LB", "LS", "LT", "LP", "LH", "M",
    "B", "BS", "S", "SS", "NG", "J", "C", "K", "T", "P", "H"]

/-- The place of the longest of some names that a text begins with, and the text after it. -/
def longestNamed? (names : List String) (s : List Char) : Option (Nat × List Char) :=
  let fitting := names.zipIdx.filter fun (name, _) => name.toList.isPrefixOf s
  let longer (best? : Option (String × Nat)) (entry : String × Nat) : Option (String × Nat) :=
    match best? with
    | some best => if best.1.length < entry.1.length then some entry else some best
    | none => some entry
  (fitting.foldl longer none).map fun (name, i) => (i, s.drop name.length)

/-- The code point of a syllable by its name. -/
def syllableNamed? (name : List Char) : Option Nat := do
  let stem := "HANGUL SYLLABLE ".toList
  if !stem.isPrefixOf name then none
  let (initial, rest) ← longestNamed? initialNames (name.drop stem.length)
  let (vowel, rest) ← longestNamed? vowelNames rest
  let (final, rest) ← longestNamed? finalNames rest
  if rest.isEmpty then some (0xAC00 + (initial * 21 + vowel) * 28 + final) else none

end Cabinet.Text
