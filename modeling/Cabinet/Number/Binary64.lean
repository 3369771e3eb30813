/-!
Floating-point numbers with a significand of 53 bits, as exact values. Powers are those of natural
numbers by name, not the ones that monoids bring with them.
-/

namespace Cabinet

/-- Whether `mantissa * 2 ^ exponent` is the one way to write its value: full width, or at the
smallest exponent. -/
def IsCanonical (mantissa : Nat) (exponent : Int) : Prop :=
  mantissa < Nat.pow 2 53 ∧ -1074 ≤ exponent ∧ exponent ≤ 971 ∧
    (Nat.pow 2 52 ≤ mantissa ∨ exponent = -1074)

instance (mantissa : Nat) (exponent : Int) : Decidable (IsCanonical mantissa exponent) :=
  inferInstanceAs (Decidable (_ ∧ _))

/-- A binary64 number: a signed zero counts as finite. -/
inductive Binary64 where
  | nan
  | infinite (negative : Bool)
  | finite (negative : Bool) (mantissa : Nat) (exponent : Int)
      (canonical : IsCanonical mantissa exponent)
  deriving DecidableEq

namespace Binary64

def zero : Binary64 := .finite false 0 (-1074) (by decide)

instance : Inhabited Binary64 := ⟨zero⟩

/-- The nearest natural number to a quotient; a half goes to the even neighbour. -/
def roundHalfEven (num den : Nat) : Nat :=
  let q := num / den
  let r := num % den
  if 2 * r < den then q
  else if den < 2 * r then q + 1
  else if q % 2 = 0 then q else q + 1

/-- The exponent at which `num / den` has an integer part of 53 bits, or the smallest one. -/
def unitExponent (num den : Nat) : Int :=
  let guess : Int := (num.log2 : Int) - den.log2 - 52
  let fits (e : Int) : Bool := num * Nat.pow 2 (-e).toNat < den * Nat.pow 2 53 * Nat.pow 2 e.toNat
  max (if fits (guess - 1) then guess - 1 else guess) (-1074)

/-- The number nearest to `num / den`, ties to even; what lies beyond the range is infinite. -/
def ofQuotient (negative : Bool) (num den : Nat) : Binary64 :=
  if num = 0 then .finite negative 0 (-1074) (by decide)
  else
    let e := unitExponent num den
    let m := roundHalfEven (num * Nat.pow 2 (-e).toNat) (den * Nat.pow 2 e.toNat)
    let (m, e) := if m = Nat.pow 2 53 then (Nat.pow 2 52, e + 1) else (m, e)
    if h : IsCanonical m e then .finite negative m e h else .infinite negative

/-- The number nearest to an integer. -/
def ofInt (n : Int) : Binary64 :=
  ofQuotient (n < 0) n.natAbs 1

/-- The number nearest to `digits * 10 ^ exponent`. -/
def ofDecimal (negative : Bool) (digits : Nat) (exponent : Int) : Binary64 :=
  if digits = 0 then .finite negative 0 (-1074) (by decide)
  else
    let magnitude : Int := (Nat.toDigits 10 digits).length + exponent
    if magnitude < -330 then .finite negative 0 (-1074) (by decide)
    else if 310 < magnitude then .infinite negative
    else ofQuotient negative (digits * Nat.pow 10 exponent.toNat) (Nat.pow 10 (-exponent).toNat)

def isFinite : Binary64 → Bool
  | .finite .. => true
  | _ => false

def isZero : Binary64 → Bool
  | .finite _ m _ _ => m == 0
  | _ => false

/-- The value of a finite number as a quotient of an integer by a positive power of two. -/
def quotient? : Binary64 → Option (Int × Nat)
  | .finite negative m e _ =>
    let num : Int := m * Nat.pow 2 e.toNat
    some (if negative then -num else num, Nat.pow 2 (-e).toNat)
  | _ => none

/-- The integer that a number equals, if there is one. -/
def toInt? (x : Binary64) : Option Int :=
  match x.quotient? with
  | some (num, den) => if num % den = 0 then some (num / den) else none
  | none => none

/-- A finite number without its fraction. -/
def truncate? (x : Binary64) : Option Int :=
  x.quotient?.map fun (num, den) => Int.tdiv num den

/-- How a number compares with an integer; nothing for a NaN. -/
def compareInt? : Binary64 → Int → Option Ordering
  | .nan, _ => none
  | .infinite negative, _ => some (if negative then .lt else .gt)
  | .finite negative m e _, n =>
    let num : Int := m * Nat.pow 2 e.toNat
    some (compare (if negative then -num else num) (n * Nat.pow 2 (-e).toNat))

/-- How two numbers compare; nothing if one is a NaN. -/
def compare? : Binary64 → Binary64 → Option Ordering
  | .nan, _ => none
  | _, .nan => none
  | .infinite a, .infinite b => some (if a = b then .eq else if a then .lt else .gt)
  | .infinite a, .finite .. => some (if a then .lt else .gt)
  | .finite .., .infinite b => some (if b then .gt else .lt)
  | .finite n₁ m₁ e₁ _, .finite n₂ m₂ e₂ _ =>
    let x : Int := m₁ * Nat.pow 2 (e₁ + 1074).toNat
    let y : Int := m₂ * Nat.pow 2 (e₂ + 1074).toNat
    some (compare (if n₁ then -x else x) (if n₂ then -y else y))

end Binary64

end Cabinet
