import Cabinet.Proofs.Number.Binary64
import Mathlib.Algebra.Order.Field.Rat
import Mathlib.Algebra.Order.Field.Power
import Mathlib.Data.Int.Cast.Lemmas
import Mathlib.Order.WithBot

/-!
The exact values of floating-point numbers: those of finite ones are rational, and what is infinite
stands at either end of them. Numbers compare as their values do.
-/

namespace Cabinet

/-- Rational numbers, with one end below all of them and one above. -/
abbrev Extended : Type := WithBot (WithTop ℚ)

def Extended.ofRat (q : ℚ) : Extended :=
  ((q : WithTop ℚ) : WithBot (WithTop ℚ))

namespace Extended

theorem ofRat_strictMono : StrictMono ofRat := fun a b h => by simpa [ofRat] using h

theorem compare_ofRat (p q : ℚ) : compare (ofRat p) (ofRat q) = compare p q := by
  rw [← cmp_eq_compare, ← cmp_eq_compare, ofRat_strictMono.cmp_map_eq]

theorem bot_lt_ofRat (q : ℚ) : (⊥ : Extended) < ofRat q :=
  WithBot.bot_lt_coe _

theorem ofRat_lt_top (q : ℚ) : ofRat q < (⊤ : Extended) :=
  WithBot.coe_lt_coe.mpr (WithTop.coe_lt_top q)

end Extended

/-- Whole numbers compare as they do at any positive scale. -/
theorem compare_scaled {a b : Int} {p q c : ℚ} (hc : 0 < c) (hp : (a : ℚ) = p * c)
    (hq : (b : ℚ) = q * c) : compare a b = compare p q := by
  have hscaled : StrictMono fun x : ℚ => x * c := fun _ _ h => mul_lt_mul_of_pos_right h hc
  have hcast : StrictMono fun n : Int => (n : ℚ) := Int.cast_strictMono
  rw [← cmp_eq_compare, ← cmp_eq_compare, ← hcast.cmp_map_eq, hp, hq, hscaled.cmp_map_eq]

namespace Binary64

variable {x y : Binary64} {n : Int} {negative : Bool} {m : Nat} {e : Int}

/-- The rational number that a sign, a significand and an exponent stand for. -/
def exact (negative : Bool) (m : Nat) (e : Int) : ℚ :=
  (if negative then -(m : ℚ) else m) * 2 ^ e

/-- The value of a finite number. -/
def rational? : Binary64 → Option ℚ
  | finite negative m e _ => some (exact negative m e)
  | _ => none

/-- The value of a number among those that have ends; a NaN, which has none, goes below. -/
def extended : Binary64 → Extended
  | nan => ⊥
  | infinite negative => if negative then ⊥ else ⊤
  | finite negative m e _ => .ofRat (exact negative m e)

/-- At a scale that the exponent allows, a value is a whole number. -/
theorem exact_scaled {k : Nat} (hk : 0 ≤ e + k) :
    ((if negative then -((m : Int) * (Nat.pow 2 (e + k).toNat : Nat))
      else (m : Int) * (Nat.pow 2 (e + k).toNat : Nat) : Int) : ℚ) = exact negative m e * 2 ^ k := by
  have hpow : (2 : ℚ) ^ (e + k).toNat = 2 ^ e * 2 ^ k := by
    rw [← zpow_natCast, Int.toNat_of_nonneg hk, zpow_add₀ two_ne_zero, zpow_natCast]
  rw [exact, mul_assoc, ← hpow]
  cases negative <;> simp

theorem compareInt?_eq (hx : x ≠ .nan) (n : Int) :
    x.compareInt? n = some (compare x.extended (.ofRat n)) := by
  cases x with
  | nan => exact absurd rfl hx
  | infinite negative =>
    cases negative with
    | false => exact congrArg some (compare_gt_iff_gt.mpr (Extended.ofRat_lt_top n)).symm
    | true => exact congrArg some (compare_lt_iff_lt.mpr (Extended.bot_lt_ofRat n)).symm
  | finite negative m e h =>
    have hscale : e.toNat = (e + (-e).toNat).toNat := by omega
    rw [compareInt?, extended, Extended.compare_ofRat, hscale]
    refine congrArg some (compare_scaled (c := 2 ^ (-e).toNat) (by positivity) ?_ (by simp))
    exact exact_scaled (by omega)

/-- Numbers compare as their values do. -/
theorem compare?_eq (hx : x ≠ .nan) (hy : y ≠ .nan) :
    x.compare? y = some (compare x.extended y.extended) := by
  cases x with
  | nan => exact absurd rfl hx
  | infinite negative =>
    cases y with
    | nan => exact absurd rfl hy
    | infinite negative' => cases negative <;> cases negative' <;> rfl
    | finite negative' m e h =>
      cases negative with
      | false => exact congrArg some (compare_gt_iff_gt.mpr (Extended.ofRat_lt_top _)).symm
      | true => exact congrArg some (compare_lt_iff_lt.mpr (Extended.bot_lt_ofRat _)).symm
  | finite negative m e h =>
    cases y with
    | nan => exact absurd rfl hy
    | infinite negative' =>
      cases negative' with
      | false => exact congrArg some (compare_lt_iff_lt.mpr (Extended.ofRat_lt_top _)).symm
      | true => exact congrArg some (compare_gt_iff_gt.mpr (Extended.bot_lt_ofRat _)).symm
    | finite negative' m' e' h' =>
      obtain ⟨k, hk⟩ : ∃ k : Nat, (k : Int) = 1074 := ⟨1074, rfl⟩
      have hlow := (isCanonical_iff.mp h).2.1
      have hlow' := (isCanonical_iff.mp h').2.1
      rw [compare?, extended, extended, Extended.compare_ofRat, ← hk]
      exact congrArg some (compare_scaled (c := 2 ^ k) (by positivity) (exact_scaled (by omega))
        (exact_scaled (by omega)))

/-- The integer that a number equals is its value. -/
theorem toInt?_eq_some_iff : x.toInt? = some n ↔ x.rational? = some (n : ℚ) := by
  cases x with
  | nan | infinite => simp [toInt?, quotient?, rational?]
  | finite negative m e h =>
    have hscale : e.toNat = (e + (-e).toNat).toNat := by omega
    have hscaled := @exact_scaled negative m e (-e).toNat (by omega)
    have hpos : (2 : ℚ) ^ (-e).toNat ≠ 0 := by positivity
    rw [toInt?_finite, rational?, Option.some.injEq, ← mul_left_inj' hpos, ← hscaled, ← hscale]
    simp only [Nat.pow_eq]
    exact_mod_cast Iff.rfl

/-- The finite numbers are those that have a value. -/
theorem isFinite_iff : x.isFinite = true ↔ ∃ q, x.rational? = some q := by
  cases x <;> simp [rational?, isFinite]

end Binary64

end Cabinet
