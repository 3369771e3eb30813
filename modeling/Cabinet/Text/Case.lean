import Cabinet.Text.CaseTable
import Cabinet.Text.SigmaTable

/-!
Letter case: lower-case and upper-case forms of letters and of texts.
-/

namespace Cabinet.Text

namespace CaseRun

/-- Where a run of letters moves a code point, if it holds it. -/
def move? (run : CaseRun) (c : Nat) : Option Nat :=
  if run.first ≤ c ∧ c ≤ run.last ∧ (c - run.first) % run.step = 0 then
    some (c + run.distance).toNat
  else none

end CaseRun

/-- The letter that some runs put in place of a letter; others stay. -/
def recase (runs : List CaseRun) (c : Char) : Char :=
  match runs.findSome? (·.move? c.toNat) with
  | some n => Char.ofNat n
  | none => c

/-- The lower-case letter of a letter; a capital I with a dot has the plain small i. -/
def lowerLetter (c : Char) : Char :=
  if c.toNat < 128 then c.toLower
  else if c.toNat = 0x130 then 'i'
  else recase lowerRuns c

/-- The upper-case letters of a letter. -/
def upperLetters (c : Char) : List Char :=
  if c.toNat < 128 then [c.toUpper]
  else
    match upperExpansions.lookup c.toNat with
    | some letters => letters.map Char.ofNat
    | none => [recase upperRuns c]

/-- The first upper-case letter of a letter. -/
def upperLetter (c : Char) : Char :=
  (upperLetters c).headD c

/-- Whether the next character that counts is a cased letter. -/
def meetsCased (s : List Char) : Bool :=
  match s.dropWhile caseIgnorableChars.contains with
  | [] => false
  | c :: _ => casedChars.contains c

def capitalSigma : Char := Char.ofNat 0x3A3
def smallSigma : Char := Char.ofNat 0x3C3
def finalSigma : Char := Char.ofNat 0x3C2
def dottedCapitalI : Char := Char.ofNat 0x130
def dotAbove : Char := Char.ofNat 0x307

/-- Lower-cases a text that follows `before`, which is given in reverse. -/
def lowerAfter (before : List Char) : List Char → List Char
  | [] => []
  | c :: rest =>
    let form :=
      if c = capitalSigma then
        [if meetsCased before && !meetsCased rest then finalSigma else smallSigma]
      else if c = dottedCapitalI then ['i', dotAbove]
      else [lowerLetter c]
    form ++ lowerAfter (c :: before) rest

/-- The lower-case form: a capital sigma at the end of a word becomes a final sigma, and a capital
I with a dot keeps its dot as a mark. -/
def lower (s : List Char) : List Char :=
  lowerAfter [] s

/-- The upper-case form, in which one letter may become several. -/
def upper (s : List Char) : List Char :=
  s.flatMap upperLetters

/-- Lower-cases the letters `A` to `Z` alone. -/
def foldAscii (s : List Char) : List Char :=
  s.map Char.toLower

end Cabinet.Text
