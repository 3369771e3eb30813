import Cabinet.Text.DigitTable

/-!
Decimal digits and the numbers that runs of them write.
-/

namespace Cabinet.Text

/-- The value of a decimal digit of any script. -/
def digitValue? (c : Char) : Option Nat :=
  if c.toNat < 128 then
    if '0' ≤ c ∧ c ≤ '9' then some (c.toNat - 48) else none
  else
    zeroDigits.findSome? fun start =>
      if start ≤ c.toNat ∧ c.toNat < start + 10 then some (c.toNat - start) else none

def isDigit (c : Char) : Bool :=
  (digitValue? c).isSome

/-- Whether the character is one of `0` to `9`. -/
def isAsciiDigit (c : Char) : Bool :=
  '0' ≤ c && c ≤ '9'

/-- The value of a run of digits, most significant first; other characters count as zero. -/
def numeral (s : List Char) : Nat :=
  s.foldl (fun value c => 10 * value + (digitValue? c).getD 0) 0

/-- A natural number in decimal. -/
def natText (n : Nat) : List Char :=
  Nat.toDigits 10 n

/-- An integer in decimal, with a sign when it is negative. -/
def intText (n : Int) : List Char :=
  if n < 0 then '-' :: natText n.natAbs else natText n.natAbs

/-- A natural number in decimal, filled up with zeros to a width. -/
def paddedNat (width n : Nat) : List Char :=
  let digits := natText n
  List.replicate (width - digits.length) '0' ++ digits

/-- Digits beyond this count are not read as an integer. -/
def maxIntegerDigits : Nat := 4300

/-- The value of a character as a digit of base sixteen. -/
def hexValue? (c : Char) : Option Nat :=
  if '0' ≤ c ∧ c ≤ '9' then some (c.toNat - 48)
  else if 'a' ≤ c ∧ c ≤ 'f' then some (c.toNat - 87)
  else if 'A' ≤ c ∧ c ≤ 'F' then some (c.toNat - 55)
  else none

def hexNumeral (s : List Char) : Nat :=
  s.foldl (fun value c => 16 * value + (hexValue? c).getD 0) 0

/-- A natural number in base sixteen with lower-case letters, filled up to a width. -/
def paddedHex (width n : Nat) : List Char :=
  let digits := Nat.toDigits 16 n
  List.replicate (width - digits.length) '0' ++ digits

end Cabinet.Text
