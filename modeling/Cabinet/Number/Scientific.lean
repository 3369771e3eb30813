import Cabinet.Number.Binary64
import Cabinet.Text.Digit

/-!
Decimal digits of numbers, and the places they are written in.
-/

namespace Cabinet

/-- The decimal `d.ddd * 10 ^ exponent`, by its digits; there is at least one. -/
structure Scientific where
  digits : List Char
  exponent : Int

/-- How a decimal is laid out: which exponents stand without an `e`, and where a whole number
keeps a fraction of zero. -/
structure DecimalLayout where
  lowest : Int
  highest : Int
  zeroFraction : Bool
  zeroFractionBeforeExponent : Bool

namespace Scientific

def zero : Scientific := ⟨['0'], 0⟩

/-- Drops the zeros at the end, down to one digit. -/
def dropTrailingZeros (digits : List Char) : List Char :=
  match digits.reverse.dropWhile (· == '0') with
  | [] => ['0']
  | kept => kept.reverse

/-- The decimal of `n` digits that write a number whose leading digit has the exponent `p`. -/
def ofDigits (n : Nat) (p : Int) (value : Nat) : Scientific :=
  let digits := Text.natText value
  ⟨dropTrailingZeros digits, if n < digits.length then p + 1 else p⟩

/-- The exponent of the leading digit of a positive quotient. -/
def leadingExponent (num den : Nat) : Int :=
  if den ≤ num then ((Text.natText (num / den)).length : Int) - 1
  else -(Text.natText ((den + num - 1) / num - 1)).length

/-- A positive quotient to `n` significant digits. -/
def rounded (round : Nat → Nat → Nat) (n : Nat) (num den : Nat) : Scientific :=
  let p := leadingExponent num den
  let unit : Int := p - n + 1
  ofDigits n p (round (num * Nat.pow 10 (-unit).toNat) (den * Nat.pow 10 unit.toNat))

/-- The nearest natural number to a quotient; a half goes up. -/
def roundHalfUp (num den : Nat) : Nat :=
  (2 * num + den) / (2 * den)

/-- The exponent with its sign and at least two digits. -/
def exponentText (e : Int) : List Char :=
  (if e < 0 then '-' else '+') :: Text.paddedNat 2 e.natAbs

/-- The digits with a decimal point. -/
def positional (s : Scientific) (zeroFraction : Bool) : List Char :=
  if s.exponent < 0 then
    '0' :: '.' :: List.replicate (s.exponent.natAbs - 1) '0' ++ s.digits
  else
    let places := s.exponent.toNat + 1
    let whole := s.digits.take places ++ List.replicate (places - s.digits.length) '0'
    match s.digits.drop places with
    | [] => if zeroFraction then whole ++ ['.', '0'] else whole
    | fraction => whole ++ '.' :: fraction

def text (layout : DecimalLayout) (s : Scientific) : List Char :=
  if layout.lowest ≤ s.exponent ∧ s.exponent ≤ layout.highest then
    s.positional layout.zeroFraction
  else
    ({ s with exponent := 0 } : Scientific).positional layout.zeroFractionBeforeExponent ++
      'e' :: exponentText s.exponent

/-- Whether `c * 10 ^ k` is read back as `m * 2 ^ e`; the ends of the interval of numbers that
round there belong to it when `m` is even. -/
def readsBack (m : Nat) (e k : Int) (c : Nat) : Bool :=
  let low := if m = Nat.pow 2 52 ∧ -1074 < e then 4 * m - 1 else 4 * m - 2
  let scale := Nat.pow 2 (e - 2).toNat * Nat.pow 10 (-k).toNat
  let value := c * (Nat.pow 10 k.toNat * Nat.pow 2 (2 - e).toNat)
  if m % 2 = 0 then low * scale ≤ value && value ≤ (4 * m + 2) * scale
  else low * scale < value && value < (4 * m + 2) * scale

/-- The decimal of `n` digits nearest to `m * 2 ^ e` among the two around it, if one reads back. -/
def ofWidth? (m : Nat) (e p : Int) (n : Nat) : Option Scientific :=
  let k : Int := p - n + 1
  let num := m * Nat.pow 2 e.toNat * Nat.pow 10 (-k).toNat
  let den := Nat.pow 2 (-e).toNat * Nat.pow 10 k.toNat
  let below := num / den
  let nearest := Binary64.roundHalfEven num den
  let other := if nearest = below then below + 1 else below
  if readsBack m e k nearest then some (ofDigits n p nearest)
  else if readsBack m e k other then some (ofDigits n p other)
  else none

/-- The fewest digits that read back as `m * 2 ^ e`, and of those the nearest. -/
def shortest (m : Nat) (e : Int) : Scientific :=
  if m = 0 then zero
  else
    let num := m * Nat.pow 2 e.toNat
    let den := Nat.pow 2 (-e).toNat
    let p := leadingExponent num den
    ((List.range' 1 16).findSome? (ofWidth? m e p)).getD
      (rounded Binary64.roundHalfEven 17 num den)

end Scientific

namespace Binary64

/-- The layout of numbers in documents and messages. -/
def plainLayout : DecimalLayout := ⟨-4, 15, true, false⟩

/-- The layout of numbers in printed tables, where whole numbers have no fraction. -/
def briefLayout : DecimalLayout := ⟨-4, 5, false, false⟩

/-- The layout of numbers that storage compares as text. -/
def storedLayout : DecimalLayout := ⟨-4, 14, true, true⟩

def signed (negative : Bool) (s : List Char) : List Char :=
  if negative then '-' :: s else s

/-- Text of a number, with words for what is not finite and decimal digits for the rest. -/
def textWith (layout : DecimalLayout) (digits : Nat → Int → Scientific) (nan infinity : List Char) :
    Binary64 → List Char
  | .nan => nan
  | .infinite negative => signed negative infinity
  | .finite negative m e _ => signed negative ((digits m e).text layout)

/-- The fewest digits that read back. -/
def text : Binary64 → List Char :=
  textWith plainLayout Scientific.shortest "nan".toList "inf".toList

/-- The digits of `m * 2 ^ e` to a number of significant places. -/
def significant (round : Nat → Nat → Nat) (n m : Nat) (e : Int) : Scientific :=
  if m = 0 then .zero else .rounded round n (m * Nat.pow 2 e.toNat) (Nat.pow 2 (-e).toNat)

/-- Six significant digits. -/
def briefText : Binary64 → List Char :=
  textWith briefLayout (significant roundHalfEven 6) "nan".toList "inf".toList

/-- Fifteen significant digits; zero has no sign. -/
def storedText (x : Binary64) : List Char :=
  textWith storedLayout (significant Scientific.roundHalfUp 15) "NaN".toList "Inf".toList
    (if x.isZero then zero else x)

end Binary64

end Cabinet
