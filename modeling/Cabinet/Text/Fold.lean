import Cabinet.Text.Case
import Cabinet.Text.FoldTable

/-!
Letters that are the same up to case.
-/

namespace Cabinet.Text

/-- The lower-case form of a code point. -/
def lowerCode (c : Nat) : Nat :=
  (lowerLetter (Char.ofNat c)).toNat

def upperCode (c : Nat) : Nat :=
  (upperLetter (Char.ofNat c)).toNat

/-- A small letter and the other small letters that share its capital. -/
def caseClass (c : Nat) : List Nat :=
  match sharedCapitals.find? (·.contains c) with
  | some others => others
  | none => [c]

namespace CaseRun

/-- The letter that a run moves to a code point. -/
def source? (run : CaseRun) (target : Nat) : Option Nat :=
  let c : Int := target - run.distance
  if 0 ≤ c ∧ run.move? c.toNat = some target then some c.toNat else none

end CaseRun

/-- The code points with a given lower-case form. -/
def lowerSources (c : Nat) : List Nat :=
  (if lowerCode c = c then [c] else []) ++ (if c = 'i'.toNat then [0x130] else []) ++
    lowerRuns.filterMap (·.source? c)

end Cabinet.Text
