import Cabinet.Proofs.Number.Binary64

/-!
Integers beyond 64 bits as floating-point numbers: rounding leaves them beyond, but for those next to
the smallest integer of 64 bits, which become that integer.
-/

namespace Cabinet.Binary64

/-- A quotient is rounded down to an even number as long as its fraction is not more than a half. -/
theorem roundHalfEven_eq_iff {num den : Nat} (heven : num / den % 2 = 0) :
    roundHalfEven num den = num / den ↔ 2 * (num % den) ≤ den := by
  unfold roundHalfEven
  dsimp only
  split
  · omega
  · split
    · omega
    · next hle hge =>
      exact ⟨fun _ => Nat.le_of_not_lt hge, fun _ => rfl⟩

/-- The smallest power of two that takes 64 bits is what the numbers right above it are rounded to. -/
theorem rounded_eq_iff {n k : Nat} (hk : 11 ≤ k) (hlow : 2 ^ (52 + k) ≤ n) (hhigh : n < 2 ^ (53 + k)) :
    roundHalfEven n (2 ^ k) * 2 ^ k = 2 ^ 63 ↔ n ≤ 2 ^ 63 + 1024 := by
  obtain ⟨hdown, -⟩ := roundHalfEven_bounds n (2 ^ k)
  have hquotient : 2 ^ 52 ≤ n / 2 ^ k :=
    (Nat.le_div_iff_mul_le (Nat.two_pow_pos k)).mpr (by rwa [← pow_add])
  rcases Nat.lt_or_eq_of_le hk with hlarge | rfl
  · -- One bit more, and the numbers are too large for either side.
    have hpow : 2 ^ 12 ≤ 2 ^ k := Nat.pow_le_pow_right (by decide) hlarge
    have hvalue : 2 ^ 52 * 2 ^ 12 ≤ roundHalfEven n (2 ^ k) * 2 ^ k :=
      Nat.mul_le_mul (hquotient.trans hdown) hpow
    have hn : 2 ^ 52 * 2 ^ 12 ≤ n := by
      refine le_trans ?_ hlow
      rw [pow_add]
      exact Nat.mul_le_mul_left _ hpow
    omega
  · have heven : ∀ q, q = 2 ^ 52 → q % 2 = 0 := by omega
    constructor
    · intro hvalue
      have hq : n / 2 ^ 11 = 2 ^ 52 := by omega
      have hround := (roundHalfEven_eq_iff (heven _ hq)).mp (by omega)
      omega
    · intro hn
      have hq : n / 2 ^ 11 = 2 ^ 52 := by omega
      have hround := (roundHalfEven_eq_iff (heven _ hq)).mpr (by omega)
      omega

/-- A natural number of more than 52 bits is rounded to a multiple of the unit of its leading 53. -/
theorem ofQuotient_whole (negative : Bool) {n k : Nat} (hne : n ≠ 0) (hk : n.log2 = 52 + k) :
    ofQuotient negative n 1 = .infinite negative ∨
      ∃ m, ∃ j : Nat, ∃ h, ofQuotient negative n 1 = .finite negative m j h ∧
        m * 2 ^ j = roundHalfEven n (2 ^ k) * 2 ^ k := by
  have hexponent : unitExponent n 1 = k := by
    rw [unitExponent_one hne]
    omega
  have hscale : (-(k : Int)).toNat = 0 := by omega
  rw [ofQuotient, if_neg hne, hexponent]
  simp only [Nat.pow_eq, hscale, Int.toNat_natCast, Nat.pow_zero, Nat.mul_one, Nat.one_mul,
    -Nat.reducePow]
  by_cases hcarry : roundHalfEven n (2 ^ k) = 2 ^ 53
  · -- The carry goes into the exponent, and the value stays.
    have hvalue : 2 ^ 52 * 2 ^ (k + 1) = roundHalfEven n (2 ^ k) * 2 ^ k := by
      rw [hcarry]
      ring
    simp only [if_pos hcarry]
    split
    · next hc => exact .inr ⟨_, k + 1, hc, rfl, hvalue⟩
    · exact .inl rfl
  · simp only [if_neg hcarry]
    split
    · next hc => exact .inr ⟨_, k, hc, rfl, rfl⟩
    · exact .inl rfl

/-- A natural number of more than 63 bits stays one. -/
theorem ofQuotient_large (negative : Bool) {n : Nat} (hn : 2 ^ 63 ≤ n) :
    ofQuotient negative n 1 = .infinite negative ∨
      ∃ m, ∃ k : Nat, ∃ h, ofQuotient negative n 1 = .finite negative m k h ∧ 2 ^ 63 ≤ m * 2 ^ k ∧
        (m * 2 ^ k = 2 ^ 63 ↔ n ≤ 2 ^ 63 + 1024) := by
  have hne : n ≠ 0 := by omega
  have hlog : 63 ≤ n.log2 := (Nat.le_log2 hne).mpr hn
  obtain ⟨k, hk⟩ : ∃ k, n.log2 = 52 + k := ⟨n.log2 - 52, by omega⟩
  have hlow : 2 ^ (52 + k) ≤ n := hk ▸ Nat.log2_self_le hne
  have hhigh : n < 2 ^ (53 + k) := by
    have hlt := Nat.lt_log2_self (n := n)
    rwa [hk, show 52 + k + 1 = 53 + k by omega] at hlt
  have hquotient : 2 ^ 52 ≤ n / 2 ^ k :=
    (Nat.le_div_iff_mul_le (Nat.two_pow_pos k)).mpr (by rwa [← pow_add])
  have hlarge : 2 ^ 52 * 2 ^ 11 ≤ roundHalfEven n (2 ^ k) * 2 ^ k :=
    Nat.mul_le_mul (hquotient.trans (roundHalfEven_bounds n (2 ^ k)).1)
      (Nat.pow_le_pow_right (by decide) (by omega))
  refine (ofQuotient_whole negative hne hk).imp_right ?_
  rintro ⟨m, j, h, heq, hvalue⟩
  refine ⟨m, j, h, heq, ?_, ?_⟩
  · omega
  · rw [hvalue]
    exact rounded_eq_iff (by omega) hlow hhigh

/-- What an integer is rounded to is one. -/
theorem exists_toInt?_ofInt {n : Int} (hn : n.natAbs < 2 ^ 64) : ∃ m, (ofInt n).toInt? = some m := by
  by_cases hfits : Fits n.natAbs
  · exact ⟨n, toInt?_ofInt hn hfits⟩
  · have hlarge : 2 ^ 53 < n.natAbs := Nat.lt_of_not_le fun hle => hfits (fits_of_le hle)
    have hne : n.natAbs ≠ 0 := by omega
    have hlog : 53 ≤ n.natAbs.log2 := (Nat.le_log2 hne).mpr hlarge.le
    obtain ⟨k, hk⟩ : ∃ k, n.natAbs.log2 = 52 + k := ⟨n.natAbs.log2 - 52, by omega⟩
    obtain heq | ⟨m, j, h, heq, -⟩ := ofQuotient_whole (decide (n < 0)) hne hk
    · have hfinite := isFinite_ofInt hn
      rw [ofInt, heq] at hfinite
      simp [isFinite] at hfinite
    · have hj : (-(j : Int)).toNat = 0 := by omega
      refine ⟨if decide (n < 0) then -((m : Int) * 2 ^ j) else m * 2 ^ j, ?_⟩
      rw [ofInt, heq, toInt?_finite, hj, Int.toNat_natCast, pow_zero, Int.mul_one]

/-- How a number without a fraction compares with an integer. -/
theorem compareInt?_whole {negative : Bool} {m k : Nat} {h : IsCanonical m k} {v : Int} :
    (finite negative m k h).compareInt? v =
      some (compare (if negative then -((m : Int) * 2 ^ k) else (m : Int) * 2 ^ k) v) := by
  have hk : (-(k : Int)).toNat = 0 := by omega
  have hpow : ∀ k : Nat, ((Nat.pow 2 k : Nat) : Int) = 2 ^ k := by simp
  simp only [compareInt?, hk, hpow, Int.toNat_natCast, pow_zero, Int.mul_one]

/-- How an integer of 64 bits compares with what a larger number is rounded to. -/
theorem compareInt?_large {n : Nat} {v : Int} (hn : 2 ^ 63 ≤ n) (hv : v ≤ 2 ^ 63 - 1) :
    (ofQuotient false n 1).compareInt? v = some .gt := by
  obtain heq | ⟨m, k, h, heq, hlarge, -⟩ := ofQuotient_large false hn
  · rw [heq]
    rfl
  · have hvalue : (2 : Int) ^ 63 ≤ m * 2 ^ k := by exact_mod_cast hlarge
    rw [heq, compareInt?_whole]
    exact congrArg some (compare_gt_iff_gt.mpr (by simp only [Bool.false_eq_true, if_false]; omega))

theorem compareInt?_negative_large {n : Nat} {v : Int} (hn : 2 ^ 63 + 1024 < n) (hv : -2 ^ 63 ≤ v) :
    (ofQuotient true n 1).compareInt? v = some .lt := by
  obtain heq | ⟨m, k, h, heq, hlarge, hequal⟩ := ofQuotient_large true (by omega : 2 ^ 63 ≤ n)
  · rw [heq]
    rfl
  · have hvalue : (2 : Int) ^ 63 < m * 2 ^ k := by exact_mod_cast (by omega : 2 ^ 63 < m * 2 ^ k)
    rw [heq, compareInt?_whole]
    exact congrArg some (compare_lt_iff_lt.mpr (by simp only [if_true]; omega))

/-- The integers below the smallest one of 64 bits that are rounded to it. -/
theorem compareInt?_smallest {n : Nat} {v : Int} (hn : 2 ^ 63 ≤ n) (hn' : n ≤ 2 ^ 63 + 1024) :
    (ofQuotient true n 1).compareInt? v = some (compare (-2 ^ 63) v) := by
  obtain heq | ⟨m, k, h, heq, -, hequal⟩ := ofQuotient_large true hn
  · have hfinite := isFinite_ofQuotient true (by omega : n < 2 ^ 64)
    rw [heq] at hfinite
    simp [isFinite] at hfinite
  · have hvalue : (m : Int) * 2 ^ k = 2 ^ 63 := by exact_mod_cast hequal.mpr hn'
    rw [heq, compareInt?_whole, hvalue]
    rfl

/-- A number that is an integer compares with others as the integer. -/
theorem compareInt?_of_toInt? {x : Binary64} {n v : Int} (h : x.toInt? = some n) :
    x.compareInt? v = some (compare n v) := by
  cases x with
  | nan | infinite => simp [toInt?, quotient?] at h
  | finite negative m e hc =>
    have hpow : ∀ k : Nat, ((Nat.pow 2 k : Nat) : Int) = 2 ^ k := by simp
    have hden : (0 : Int) < 2 ^ (-e).toNat := Int.pow_pos (by decide)
    rw [toInt?_finite] at h
    simp only [compareInt?, hpow, h]
    congr 1
    rcases Int.lt_trichotomy n v with hlt | rfl | hgt
    · rw [compare_lt_iff_lt.mpr hlt, compare_lt_iff_lt.mpr (Int.mul_lt_mul_of_pos_right hlt hden)]
    · rw [compare_eq_iff_eq.mpr rfl, compare_eq_iff_eq.mpr rfl]
    · rw [compare_gt_iff_gt.mpr hgt, compare_gt_iff_gt.mpr (Int.mul_lt_mul_of_pos_right hgt hden)]

/-! Integers that are read from their digits -/

/-- Digits without an exponent are rounded as the integer that they are, unless they are too many. -/
theorem ofDecimal_whole (negative : Bool) {digits : Nat} (hne : digits ≠ 0) :
    (ofDecimal negative digits 0 = .infinite negative ∧ 2 ^ 64 ≤ digits) ∨
      ofDecimal negative digits 0 = ofQuotient negative digits 1 := by
  have hlength := @Nat.length_toDigits_le_iff 10 digits 20 (by decide) (by decide)
  unfold ofDecimal
  rw [if_neg hne]
  dsimp only
  split
  · omega
  · split
    · exact .inl ⟨rfl, by omega⟩
    · refine .inr ?_
      simp

theorem compareInt?_positive {digits : Nat} {v : Int} (h : 2 ^ 63 ≤ digits) (hv : v ≤ 2 ^ 63 - 1) :
    (ofDecimal false digits 0).compareInt? v = some .gt := by
  obtain ⟨heq, -⟩ | heq := ofDecimal_whole false (by omega : digits ≠ 0)
  · rw [heq]
    rfl
  · rw [heq, compareInt?_large h hv]

theorem compareInt?_negative {digits : Nat} {v : Int} (h : 2 ^ 63 + 1024 < digits) (hv : -2 ^ 63 ≤ v) :
    (ofDecimal true digits 0).compareInt? v = some .lt := by
  obtain ⟨heq, -⟩ | heq := ofDecimal_whole true (by omega : digits ≠ 0)
  · rw [heq]
    rfl
  · rw [heq, compareInt?_negative_large h hv]

theorem compareInt?_next {digits : Nat} {v : Int} (h : 2 ^ 63 ≤ digits) (h' : digits ≤ 2 ^ 63 + 1024) :
    (ofDecimal true digits 0).compareInt? v = some (compare (-2 ^ 63) v) := by
  obtain ⟨-, hlarge⟩ | heq := ofDecimal_whole true (by omega : digits ≠ 0)
  · omega
  · rw [heq, compareInt?_smallest h h']

/-- Digits are the integer nearest to them that the number equals. -/
theorem toInt?_ofDecimal (negative : Bool) {digits : Nat} (h : digits < 2 ^ 64) :
    (ofDecimal negative digits 0).toInt? =
      (ofInt (if negative then -(digits : Int) else digits)).toInt? := by
  by_cases hzero : digits = 0
  · subst hzero
    cases negative <;> rfl
  obtain ⟨-, hlarge⟩ | heq := ofDecimal_whole negative hzero
  · omega
  rw [heq, ofInt]
  cases negative with
  | false =>
    have hsign : ¬(digits : Int) < 0 := by omega
    simp [decide_eq_false hsign]
  | true =>
    have hsign : 0 < digits := by omega
    simp [decide_eq_true hsign]

end Cabinet.Binary64
