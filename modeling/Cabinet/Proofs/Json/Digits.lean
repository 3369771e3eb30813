import Cabinet.Json.Reader
import Cabinet.Json.Writer

/-!
Digits that are written and read: decimal integers, and the four hexadecimal digits of a code unit.
-/

namespace Cabinet

namespace Text

theorem isAsciiDigit_of_isDigit {c : Char} (h : c.isDigit) : isAsciiDigit c = true := by
  simpa [isAsciiDigit, Char.isDigit, Char.le_def, UInt32.le_iff_toNat_le] using h

theorem isAsciiDigit_of_mem_natText {n : Nat} {c : Char} (h : c ∈ natText n) :
    isAsciiDigit c = true :=
  isAsciiDigit_of_isDigit (Nat.isDigit_of_mem_toDigits (by decide) (by decide) h)

theorem natText_ne_nil (n : Nat) : natText n ≠ [] :=
  Nat.toDigits_ne_nil

theorem digitValue?_digitChar : ∀ d < 10, digitValue? d.digitChar = some d := by
  decide

theorem numeral_append (s : List Char) (c : Char) :
    numeral (s ++ [c]) = 10 * numeral s + (digitValue? c).getD 0 := by
  simp [numeral]

theorem numeral_natText (n : Nat) : numeral (natText n) = n := by
  induction n using Nat.strongRecOn with
  | ind n ih =>
    by_cases h : n < 10
    · rw [natText, Nat.toDigits_of_lt_base h]
      change numeral ([] ++ [n.digitChar]) = n
      rw [numeral_append, digitValue?_digitChar n h]
      simp [numeral]
    · have ih' := ih (n / 10) (by omega)
      rw [natText] at ih' ⊢
      rw [Nat.toDigits_of_base_le (by decide) (by omega), numeral_append, ih',
        digitValue?_digitChar _ (by omega)]
      simp only [Option.getD_some]
      omega

/-- Only zero is written with a zero in front. -/
theorem natText_of_head_zero {n : Nat} {s : List Char} (h : natText n = '0' :: s) :
    n = 0 ∧ s = [] := by
  induction n using Nat.strongRecOn generalizing s with
  | ind n ih =>
    by_cases hn : n < 10
    · rw [natText, Nat.toDigits_of_lt_base hn] at h
      have hall : ∀ d < 10, d.digitChar = '0' → d = 0 := by decide
      simp only [List.cons.injEq] at h
      exact ⟨hall n hn h.1, h.2.symm⟩
    · rw [natText, Nat.toDigits_of_base_le (by decide) (by omega)] at h
      cases ht : natText (n / 10) with
      | nil => exact absurd ht (natText_ne_nil _)
      | cons c t =>
        rw [← natText, ht] at h
        rw [(List.cons.inj h).1] at ht
        have := (ih (n / 10) (by omega) ht).1
        omega

theorem hexValue?_digitChar : ∀ d < 16, hexValue? d.digitChar = some d := by
  decide

/-- The digits of base sixteen that a width leaves no room to exceed. -/
theorem paddedHex_four {n : Nat} (h : n < 0x10000) :
    paddedHex 4 n = [(n / 4096).digitChar, (n / 256 % 16).digitChar, (n / 16 % 16).digitChar,
      (n % 16).digitChar] := by
  have zero : Nat.digitChar 0 = '0' := rfl
  unfold paddedHex
  by_cases h1 : n < 16
  · rw [Nat.toDigits_of_lt_base h1]
    simp [List.replicate, Nat.div_eq_of_lt h1, Nat.mod_eq_of_lt h1, zero,
      Nat.div_eq_of_lt (by omega : n < 4096), Nat.div_eq_of_lt (by omega : n < 256)]
  · by_cases h2 : n < 256
    · rw [Nat.toDigits_of_base_le (by decide) (by omega), Nat.toDigits_of_lt_base (by omega)]
      simp [List.replicate, zero, Nat.div_eq_of_lt (by omega : n < 4096), Nat.div_eq_of_lt h2,
        Nat.mod_eq_of_lt (by omega : n / 16 < 16)]
    · by_cases h3 : n < 4096
      · rw [Nat.toDigits_of_base_le (by decide) (by omega),
          Nat.toDigits_of_base_le (by decide) (by omega), Nat.toDigits_of_lt_base (by omega)]
        simp [zero, Nat.div_eq_of_lt h3, Nat.div_div_eq_div_mul,
          Nat.mod_eq_of_lt (by omega : n / 256 < 16)]
      · rw [Nat.toDigits_of_base_le (by decide) (by omega),
          Nat.toDigits_of_base_le (by decide) (by omega),
          Nat.toDigits_of_base_le (by decide) (by omega), Nat.toDigits_of_lt_base (by omega)]
        simp [Nat.div_div_eq_div_mul]

end Text

namespace Json

theorem codeUnit?_paddedHex {n : Nat} (h : n < 0x10000) (rest : List Char) :
    codeUnit? (Text.paddedHex 4 n ++ rest) = some (n, rest) := by
  rw [Text.paddedHex_four h]
  simp only [List.cons_append, List.nil_append, codeUnit?,
    Text.hexValue?_digitChar _ (by omega : n / 4096 < 16),
    Text.hexValue?_digitChar _ (by omega : n / 256 % 16 < 16),
    Text.hexValue?_digitChar _ (by omega : n / 16 % 16 < 16),
    Text.hexValue?_digitChar _ (by omega : n % 16 < 16)]
  simp only [Option.bind_eq_bind, Option.bind_some, Option.some.injEq, Prod.mk.injEq, and_true]
  omega

end Json

end Cabinet
