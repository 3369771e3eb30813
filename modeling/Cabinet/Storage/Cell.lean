import Cabinet.Column.Basic
import Cabinet.Number.Reading
import Cabinet.Storage.Fault
import Cabinet.Value

/-!
What a row holds in a column: the classes of stored values, how a column converts what is put into
it, and how stored values compare.
-/

namespace Cabinet.Storage

inductive Cell where
  | null
  | integer (n : Int)
  | real (x : Binary64)
  | text (s : String)
  deriving DecidableEq, Inhabited

/-- The class of values that a column prefers. -/
inductive Affinity where
  | text
  | integer
  | real
  | numeric
  | none
  deriving DecidableEq, Repr

namespace Cell

def toValue : Cell → Value
  | null => .null
  | integer n => .int n
  | real x => .float x
  | text s => .text s

/-- The stored form of the value at a position of a statement, counted from one. -/
def ofValue (position : Nat) : Value → Except Fault Cell
  | .null => .ok null
  | .bool b => .ok (integer (if b then 1 else 0))
  | .int n => if isStorable n then .ok (integer n) else .error .integerTooLarge
  | .float .nan => .ok null
  | .float x => .ok (real x)
  | .text s => .ok (text s)
  | v => .error (.kindNotStored position v.kindName)

/-- The stored forms of the values of a statement; the first from a position on. -/
def ofValuesFrom (position : Nat) : List Value → Except Fault (List Cell)
  | [] => .ok []
  | v :: rest => do
    let cell ← ofValue position v
    let cells ← ofValuesFrom (position + 1) rest
    return cell :: cells

def ofValues : List Value → Except Fault (List Cell) :=
  ofValuesFrom 1

/-- A whole number that an integer column keeps as an integer. -/
def shrink (x : Binary64) : Cell :=
  match x.toInt? with
  | some n => if minInteger < n && n < maxInteger then integer n else real x
  | none => real x

/-- Spaces that may surround a number. -/
def isMargin (c : Char) : Bool :=
  c == ' ' || (9 ≤ c.toNat && c.toNat ≤ 13)

/-- Splits the plain digits off that a text begins with. -/
def digits (s : List Char) : List Char × List Char :=
  (s.takeWhile Text.isAsciiDigit, s.dropWhile Text.isAsciiDigit)

/-- A number after its sign: digits with an optional point and an optional exponent. -/
def unsigned? (negative : Bool) (s : List Char) : Option Cell := do
  let (whole, rest) := digits s
  let (fraction, rest, pointed) :=
    match rest with
    | '.' :: rest => ((digits rest).1, (digits rest).2, true)
    | rest => ([], rest, false)
  if whole.isEmpty && fraction.isEmpty then none
  let read (exponent : Int) : Cell :=
    real (.ofDecimal negative (Text.numeral (whole ++ fraction)) (exponent - fraction.length))
  match rest with
  | [] =>
    let n : Int := Text.numeral whole
    let n := if negative then -n else n
    if !pointed && isStorable n then some (integer n) else some (read 0)
  | e :: rest =>
    let (below, rest) := Text.splitSign rest
    let (exponent, rest) := digits rest
    if (e == 'e' || e == 'E') && !exponent.isEmpty && rest.isEmpty then
      let n : Int := Text.numeral exponent
      some (read (if below then -n else n))
    else none

/-- The number that a text is. -/
def number? (s : List Char) : Option Cell :=
  let s := (s.dropWhile isMargin).reverse.dropWhile isMargin |>.reverse
  let (negative, s) := Text.splitSign s
  unsigned? negative s

/-- The text of a number; other values stay. -/
def asText : Cell → Cell
  | integer n => text (String.ofList (Text.intText n))
  | real x => text (String.ofList x.storedText)
  | c => c

/-- The number that a text is, whole if it can be; other values stay. -/
def asNumber : Cell → Cell
  | text s =>
    match number? s.toList with
    | some (real x) => shrink x
    | some c => c
    | none => text s
  | c => c

/-- A number as an integer if it is whole; other values stay. -/
def shrunk : Cell → Cell
  | real x => shrink x
  | c => c

/-- An integer as a floating-point number; other values stay. -/
def widened : Cell → Cell
  | integer n => real (.ofInt n)
  | c => c

/-- What a column keeps of a value that is put into it. A whole number in a real column loses the
sign of zero. -/
def convert : Affinity → Cell → Cell
  | .text, c => c.asText
  | .integer, c => c.asNumber.shrunk
  | .numeric, c => c.asNumber.shrunk
  | .real, c => c.asNumber.shrunk.widened
  | .none, c => c

/-- The conversion of a value that is compared with a column. -/
def convertForComparison : Affinity → Cell → Cell
  | .text, c => c.asText
  | .none, c => c
  | _, c => c.asNumber

/-- Where a class stands in order: nothing, then numbers, then text. -/
def rank : Cell → Nat
  | null => 0
  | integer _ => 1
  | real _ => 1
  | text _ => 2

def compareText : List Char → List Char → Ordering
  | [], [] => .eq
  | [], _ => .lt
  | _, [] => .gt
  | a :: s, b :: t => if a < b then .lt else if b < a then .gt else compareText s t

/-- The order of stored values: by class, then by value. -/
def order : Cell → Cell → Ordering
  | integer m, integer n => compare m n
  | integer m, real x => ((x.compareInt? m).map Ordering.swap).getD .eq
  | real x, integer n => (x.compareInt? n).getD .eq
  | real x, real y => (x.compare? y).getD .eq
  | text s, text t => compareText s.toList t.toList
  | a, b => compare a.rank b.rank

end Cell

/-- The class of values that a declared type prefers. -/
def Affinity.ofStorage : StorageType → Affinity
  | .text => .text
  | .integer => .integer
  | .real => .real

end Cabinet.Storage
