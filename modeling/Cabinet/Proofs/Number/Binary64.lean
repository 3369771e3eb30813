import Cabinet.Number.Binary64
import Mathlib.Tactic.Ring
import Mathlib.Tactic.Linarith

/-!
Integers as floating-point numbers: they are finite as long as they are not too large, and exact as
long as 53 bits hold them. A number between two integers is between them as an integer if it is one.
-/

namespace Cabinet

theorem isCanonical_iff {m : Nat} {e : Int} : IsCanonical m e ↔
    m < 2 ^ 53 ∧ -1074 ≤ e ∧ e ≤ 971 ∧ (2 ^ 52 ≤ m ∨ e = -1074) :=
  Iff.rfl

namespace Binary64

theorem ofQuotient_ne_nan (negative : Bool) (num den : Nat) : ofQuotient negative num den ≠ .nan := by
  fun_cases ofQuotient negative num den
  all_goals simp

theorem ofDecimal_ne_nan (negative : Bool) (digits : Nat) (exponent : Int) :
    ofDecimal negative digits exponent ≠ .nan := by
  fun_cases ofDecimal negative digits exponent
  · simp
  · simp
  · simp
  · exact ofQuotient_ne_nan _ _ _

theorem roundHalfEven_bounds (num den : Nat) :
    num / den ≤ roundHalfEven num den ∧ roundHalfEven num den ≤ num / den + 1 := by
  unfold roundHalfEven
  dsimp only
  split
  · omega
  · split
    · omega
    · split <;> omega

/-- The exponent of a natural number that is not zero lets its significand have 53 bits. -/
theorem unitExponent_one {n : Nat} (hn : n ≠ 0) : unitExponent n 1 = (n.log2 : Int) - 52 := by
  have hle := Nat.log2_self_le hn
  have hone : Nat.log2 1 = 0 := rfl
  unfold unitExponent
  simp only [Nat.pow_eq, -Nat.reducePow]
  generalize n.log2 = k at hle ⊢
  -- With the exponent that is tried first, the significand would have 54 bits.
  have hfits : ¬n * 2 ^ (-((k : Int) - 53)).toNat < 1 * 2 ^ 53 * 2 ^ ((k : Int) - 53).toNat := by
    rcases Nat.le_total k 53 with hk | hk
    · obtain ⟨j, hj⟩ := Nat.exists_eq_add_of_le hk
      have hup : (-((k : Int) - 53)).toNat = j := by omega
      have hdown : ((k : Int) - 53).toNat = 0 := by omega
      rw [hup, hdown, hj, pow_add]
      have := Nat.mul_le_mul_right (2 ^ j) hle
      omega
    · obtain ⟨j, rfl⟩ := Nat.exists_eq_add_of_le hk
      have hup : (-(((53 + j : Nat) : Int) - 53)).toNat = 0 := by omega
      have hdown : (((53 + j : Nat) : Int) - 53).toNat = j := by omega
      rw [hup, hdown]
      rw [pow_add] at hle
      omega
  have hguess : (k : Int) - Nat.log2 1 - 52 - 1 = (k : Int) - 53 := by omega
  simp only [hguess, decide_eq_true_eq, if_neg hfits]
  omega

/-- What is rounded to a significand has 53 bits, or it is the next number above those. -/
theorem roundHalfEven_width {num den : Nat} (hden : 0 < den) (hlow : den * 2 ^ 52 ≤ num)
    (hhigh : num < den * 2 ^ 53) :
    2 ^ 52 ≤ roundHalfEven num den ∧ roundHalfEven num den ≤ 2 ^ 53 := by
  obtain ⟨hdown, hup⟩ := roundHalfEven_bounds num den
  have hq : 2 ^ 52 ≤ num / den := (Nat.le_div_iff_mul_le hden).mpr (by rwa [Nat.mul_comm])
  have hq' : num / den < 2 ^ 53 := (Nat.div_lt_iff_lt_mul hden).mpr (by rwa [Nat.mul_comm])
  omega

/-- At the exponent of a natural number its significand has 53 bits. -/
theorem scaled_bounds {n : Nat} (hn : n ≠ 0) :
    (1 * 2 ^ ((n.log2 : Int) - 52).toNat) * 2 ^ 52 ≤ n * 2 ^ (-((n.log2 : Int) - 52)).toNat ∧
      n * 2 ^ (-((n.log2 : Int) - 52)).toNat < (1 * 2 ^ ((n.log2 : Int) - 52).toNat) * 2 ^ 53 := by
  have hle := Nat.log2_self_le hn
  have hlt := Nat.lt_log2_self (n := n)
  generalize n.log2 = k at hle hlt
  rcases Nat.le_total k 52 with hk | hk
  · obtain ⟨j, hj⟩ := Nat.exists_eq_add_of_le hk
    have hup : (-((k : Int) - 52)).toNat = j := by omega
    have hdown : ((k : Int) - 52).toNat = 0 := by omega
    rw [hup, hdown]
    constructor
    · rw [hj, pow_add]
      have := Nat.mul_le_mul_right (2 ^ j) hle
      omega
    · rw [show 53 = k + 1 + j by omega, pow_add]
      have := Nat.mul_lt_mul_of_pos_right hlt (Nat.two_pow_pos j)
      omega
  · obtain ⟨j, rfl⟩ := Nat.exists_eq_add_of_le hk
    have hup : (-(((52 + j : Nat) : Int) - 52)).toNat = 0 := by omega
    have hdown : (((52 + j : Nat) : Int) - 52).toNat = j := by omega
    rw [hup, hdown]
    constructor
    · rw [pow_add] at hle
      omega
    · rw [show 52 + j + 1 = j + 53 by omega, pow_add] at hlt
      omega

/-- A natural number that is not too large is finite as a floating-point number. -/
theorem isFinite_ofQuotient (negative : Bool) {n : Nat} (hn : n < 2 ^ 64) :
    (ofQuotient negative n 1).isFinite = true := by
  unfold ofQuotient
  split
  · rfl
  next hne =>
  simp only [Nat.pow_eq, -Nat.reducePow]
  have hlog : n.log2 < 64 := (Nat.log2_lt hne).mpr hn
  obtain ⟨hscaled, hscaled'⟩ := scaled_bounds hne
  rw [unitExponent_one hne]
  generalize n.log2 = k at hlog hscaled hscaled'
  obtain ⟨hlow, hhigh⟩ := roundHalfEven_width (by simp) hscaled hscaled'
  generalize roundHalfEven _ _ = m at hlow hhigh
  -- Rounding up may carry into a further bit, which the exponent then takes.
  by_cases hm : m = 2 ^ 53
  · have hcanonical : IsCanonical (2 ^ 52) ((k : Int) - 52 + 1) :=
      isCanonical_iff.mpr ⟨by omega, by omega, by omega, .inl (by omega)⟩
    simp only [if_pos hm, dif_pos hcanonical, isFinite]
  · have hcanonical : IsCanonical m ((k : Int) - 52) :=
      isCanonical_iff.mpr ⟨by omega, by omega, by omega, .inl hlow⟩
    simp only [if_neg hm, dif_pos hcanonical, isFinite]

theorem isFinite_ofInt {n : Int} (hn : n.natAbs < 2 ^ 64) : (ofInt n).isFinite = true :=
  isFinite_ofQuotient _ hn

/-- A number between two integers is between them as an integer, if it is one. -/
theorem toInt?_between {x : Binary64} {n low high : Int} (hx : x.toInt? = some n)
    (hlow : x.compareInt? low ≠ some .lt) (hhigh : x.compareInt? high ≠ some .gt) :
    low ≤ n ∧ n ≤ high := by
  cases x with
  | nan | infinite => simp [toInt?, quotient?] at hx
  | finite negative m e h =>
    simp only [toInt?, quotient?, compareInt?] at hx hlow hhigh
    have hden : (0 : Int) < (Nat.pow 2 (-e).toNat : Nat) := Int.natCast_pos.mpr (Nat.two_pow_pos _)
    generalize (if negative = true then -((m : Int) * (Nat.pow 2 e.toNat : Nat))
      else (m : Int) * (Nat.pow 2 e.toNat : Nat)) = num at hx hlow hhigh
    generalize ((Nat.pow 2 (-e).toNat : Nat) : Int) = den at hx hlow hhigh hden
    split at hx
    swap
    · simp at hx
    next hmod =>
    obtain rfl := Option.some.inj hx
    have hnum : num / den * den = num := Int.ediv_mul_cancel (Int.dvd_of_emod_eq_zero hmod)
    have hlow' : low * den ≤ num := by
      apply Int.not_lt.mp
      intro hlt
      exact hlow (congrArg some (compare_lt_iff_lt.mpr hlt))
    have hhigh' : num ≤ high * den := by
      apply Int.not_lt.mp
      intro hlt
      exact hhigh (congrArg some (compare_gt_iff_gt.mpr hlt))
    rw [← hnum] at hlow' hhigh'
    exact ⟨le_of_mul_le_mul_right hlow' hden, le_of_mul_le_mul_right hhigh' hden⟩

/-! Integers that are exact -/

theorem roundHalfEven_of_dvd {num den : Nat} (hden : 0 < den) (h : den ∣ num) :
    roundHalfEven num den = num / den := by
  simp [roundHalfEven, Nat.mod_eq_zero_of_dvd h, hden]

/-- A natural number is a multiple of the unit of its leading 53 bits. -/
def Fits (n : Nat) : Prop :=
  2 ^ (n.log2 - 52) ∣ n

theorem fits_of_le {n : Nat} (h : n ≤ 2 ^ 53) : Fits n := by
  rcases Nat.lt_or_eq_of_le h with hlt | rfl
  · rcases Nat.eq_zero_or_pos n with rfl | hpos
    · exact Nat.dvd_zero _
    · have hlog : n.log2 < 53 := (Nat.log2_lt (Nat.pos_iff_ne_zero.mp hpos)).mpr hlt
      rw [Fits, Nat.sub_eq_zero_of_le (by omega)]
      exact Nat.one_dvd n
  · rw [Fits, Nat.log2_two_pow]
    exact Nat.pow_dvd_pow 2 (by omega)

/-- A multiple of a power, with a factor of 53 bits, fits. -/
theorem fits_mul_pow {m k : Nat} (h : m < 2 ^ 53) : Fits (m * 2 ^ k) := by
  rcases Nat.eq_zero_or_pos m with rfl | hpos
  · rw [Nat.zero_mul]
    exact Nat.dvd_zero _
  · have hne : m * 2 ^ k ≠ 0 := Nat.mul_ne_zero (Nat.pos_iff_ne_zero.mp hpos) (by simp)
    have hlog : (m * 2 ^ k).log2 < 53 + k := by
      rw [Nat.log2_lt hne, Nat.pow_add]
      exact Nat.mul_lt_mul_of_pos_right h (Nat.two_pow_pos k)
    exact (Nat.pow_dvd_pow 2 (by omega)).trans (Nat.dvd_mul_left _ _)

/-- A number that fits is not rounded. -/
theorem ofQuotient_exact (negative : Bool) {n : Nat} (hn : n < 2 ^ 64) (hfits : Fits n) :
    ∃ m e h, ofQuotient negative n 1 = .finite negative m e h ∧
      m * 2 ^ e.toNat = n * 2 ^ (-e).toNat := by
  unfold ofQuotient
  split
  · next hzero => exact ⟨0, -1074, by decide, rfl, by rw [hzero, Nat.zero_mul, Nat.zero_mul]⟩
  next hne =>
  simp only [Nat.pow_eq, -Nat.reducePow]
  have hlog : n.log2 < 64 := (Nat.log2_lt hne).mpr hn
  obtain ⟨hlow, hhigh⟩ := scaled_bounds hne
  have hden : 0 < 1 * 2 ^ ((n.log2 : Int) - 52).toNat := by simp
  -- The number is a multiple of the unit, so that nothing is left over to be rounded.
  have hdvd : 1 * 2 ^ ((n.log2 : Int) - 52).toNat ∣ n * 2 ^ (-((n.log2 : Int) - 52)).toNat := by
    have hunit : ((n.log2 : Int) - 52).toNat = n.log2 - 52 := by omega
    rw [Nat.one_mul, hunit]
    exact hfits.trans (Nat.dvd_mul_right _ _)
  rw [unitExponent_one hne]
  generalize hround : roundHalfEven _ _ = m
  rw [roundHalfEven_of_dvd hden hdvd] at hround
  have hexact : 1 * 2 ^ ((n.log2 : Int) - 52).toNat * m = n * 2 ^ (-((n.log2 : Int) - 52)).toNat := by
    rw [← hround, Nat.mul_div_cancel' hdvd]
  rw [← hexact] at hlow hhigh
  have hwidth : 2 ^ 52 ≤ m := Nat.le_of_mul_le_mul_left hlow hden
  have hwidth' : m < 2 ^ 53 := Nat.lt_of_mul_lt_mul_left hhigh
  have hcanonical : IsCanonical m ((n.log2 : Int) - 52) :=
    isCanonical_iff.mpr ⟨hwidth', by omega, by omega, .inl hwidth⟩
  have hm : m ≠ 2 ^ 53 := Nat.ne_of_lt hwidth'
  refine ⟨m, (n.log2 : Int) - 52, hcanonical, ?_, ?_⟩
  · simp only [if_neg hm, dif_pos hcanonical]
  · rw [← hexact, Nat.one_mul, Nat.mul_comm]

/-- The value of a finite number is an integer where it is equal to one times a power of two. -/
theorem toInt?_finite {negative : Bool} {m : Nat} {e : Int} {h : IsCanonical m e} {n : Int} :
    (finite negative m e h).toInt? = some n ↔
      (if negative then -((m : Int) * 2 ^ e.toNat) else (m : Int) * 2 ^ e.toNat) =
        n * 2 ^ (-e).toNat := by
  have hpow : ∀ k : Nat, ((Nat.pow 2 k : Nat) : Int) = 2 ^ k := by simp
  have hden : (0 : Int) < 2 ^ (-e).toNat := Int.pow_pos (by decide)
  simp only [toInt?, quotient?, hpow]
  generalize (if negative = true then -((m : Int) * 2 ^ e.toNat) else (m : Int) * 2 ^ e.toNat) = num
  generalize (2 : Int) ^ (-e).toNat = den at hden ⊢
  split
  · next hmod =>
    have hnum : num / den * den = num := Int.ediv_mul_cancel (Int.dvd_of_emod_eq_zero hmod)
    rw [Option.some.injEq]
    constructor
    · rintro rfl
      exact hnum.symm
    · rintro rfl
      exact Int.mul_ediv_cancel n (Int.ne_of_gt hden)
  · next hmod =>
    refine ⟨nofun, fun heq => absurd ?_ hmod⟩
    rw [heq, Int.mul_emod_left]

theorem toInt?_ofInt {n : Int} (hn : n.natAbs < 2 ^ 64) (hfits : Fits n.natAbs) :
    (ofInt n).toInt? = some n := by
  obtain ⟨m, e, h, heq, hvalue⟩ := ofQuotient_exact (decide (n < 0)) hn hfits
  rw [ofInt, heq, toInt?_finite]
  have hvalue' : (m : Int) * 2 ^ e.toNat = n.natAbs * 2 ^ (-e).toNat := by exact_mod_cast hvalue
  rw [hvalue']
  split
  · next hneg =>
    have habs : (n.natAbs : Int) = -n := by simp at hneg; omega
    rw [habs]
    ring
  · next hneg =>
    have habs : (n.natAbs : Int) = n := by simp at hneg; omega
    rw [habs]

/-- The integer that a number equals fits. -/
theorem fits_toInt? {x : Binary64} {n : Int} (h : x.toInt? = some n) : Fits n.natAbs := by
  cases x with
  | nan | infinite => simp [toInt?, quotient?] at h
  | finite negative m e hc =>
    have hm : m < 2 ^ 53 := (isCanonical_iff.mp hc).1
    rw [toInt?_finite] at h
    have habs : m * 2 ^ e.toNat = n.natAbs * 2 ^ (-e).toNat := by
      have := congrArg Int.natAbs h
      split at this <;> simpa [Int.natAbs_mul, Int.natAbs_pow] using this
    rcases Int.le_total 0 e with he | he
    · have hzero : (-e).toNat = 0 := by omega
      rw [hzero, pow_zero, Nat.mul_one] at habs
      rw [← habs]
      exact fits_mul_pow hm
    · have hzero : e.toNat = 0 := by omega
      rw [hzero, pow_zero, Nat.mul_one] at habs
      apply fits_of_le
      have hle := Nat.le_mul_of_pos_right n.natAbs (Nat.two_pow_pos (-e).toNat)
      omega

/-- What equals an integer does so at every scale that the exponent allows. -/
theorem scaled_eq {m n : Int} {e : Int} {k : Nat} (hk : -(k : Int) ≤ e)
    (h : m * 2 ^ e.toNat = n * 2 ^ (-e).toNat) : m * 2 ^ (e + k).toNat = n * 2 ^ k := by
  rcases Int.le_total 0 e with he | he
  · have hzero : (-e).toNat = 0 := by omega
    have hsum : (e + k).toNat = e.toNat + k := by omega
    rw [hzero, pow_zero, Int.mul_one] at h
    rw [hsum, pow_add, ← h]
    ring
  · have hzero : e.toNat = 0 := by omega
    have hsum : (-e).toNat + (e + k).toNat = k := by omega
    rw [hzero, pow_zero, Int.mul_one] at h
    conv_rhs => rw [← hsum]
    rw [h, pow_add]
    ring

/-- Numbers that equal one integer equal each other. -/
theorem compare?_of_toInt? {x y : Binary64} {n : Int} (hx : x.toInt? = some n)
    (hy : y.toInt? = some n) : x.compare? y = some .eq := by
  obtain ⟨k, hk⟩ : ∃ k : Nat, (k : Int) = 1074 := ⟨1074, rfl⟩
  have hscaled : ∀ {negative m e} {h : IsCanonical m e}, (finite negative m e h).toInt? = some n →
      (if negative then -((m : Int) * (Nat.pow 2 (e + 1074).toNat : Nat))
        else (m : Int) * (Nat.pow 2 (e + 1074).toNat : Nat)) = n * 2 ^ k := by
    intro negative m e h hn
    have hlow : -(k : Int) ≤ e := hk ▸ (isCanonical_iff.mp h).2.1
    have hpow : ((Nat.pow 2 (e + 1074).toNat : Nat) : Int) = 2 ^ (e + k).toNat := by simp [hk]
    rw [hpow]
    rw [toInt?_finite] at hn
    cases negative with
    | false => simpa using scaled_eq (m := m) hlow (by simpa using hn)
    | true => simpa using scaled_eq (m := -m) hlow (by simpa using hn)
  cases x with
  | nan | infinite => simp [toInt?, quotient?] at hx
  | finite negative m e h =>
    cases y with
    | nan | infinite => simp [toInt?, quotient?] at hy
    | finite negative' m' e' h' =>
      simp only [compare?, hscaled hx, hscaled hy]
      exact congrArg some (compare_eq_iff_eq.mpr rfl)

end Binary64

end Cabinet
