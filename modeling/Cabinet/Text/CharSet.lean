/-!
Sets of characters given by runs of code points.
-/

namespace Cabinet.Text

/-- Ascending runs of code points, each named by its first and last member. -/
structure CharSet where
  runs : List (Nat × Nat)

namespace CharSet

/-- Whether a code point lies in one of some ascending runs. -/
def covers : List (Nat × Nat) → Nat → Bool
  | [], _ => false
  | (first, last) :: rest, c =>
    if c < first then false else if c ≤ last then true else covers rest c

def contains (s : CharSet) (c : Char) : Bool :=
  covers s.runs c.toNat

end CharSet

end Cabinet.Text
