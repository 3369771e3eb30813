import Cabinet.Proofs.Json.Digits
import Cabinet.Proofs.Name
import Cabinet.Proofs.Search.Comparison

/-!
Integers as they are written in decimal, with a sign or without, and the numbers that they are read
as. What writes one may stand after a comparison.
-/

namespace Cabinet

namespace Text

/-- Whether a text is a run of digits. -/
def AreDigits (digits : List Char) : Prop :=
  digits ≠ [] ∧ ∀ c ∈ digits, isDigit c = true

theorem areDigits_iff {digits : List Char} :
    AreDigits digits ↔ (digits != [] && digits.all isDigit) = true := by
  simp [AreDigits]

instance (digits : List Char) : Decidable (AreDigits digits) :=
  decidable_of_iff _ areDigits_iff.symm

/-- Whether a text writes an integer: digits, with a sign before them or without one. -/
inductive WritesInteger : List Char → Int → Prop
  | plain {digits : List Char} (h : AreDigits digits) : WritesInteger digits (numeral digits)
  | plus {digits : List Char} (h : AreDigits digits) : WritesInteger ('+' :: digits) (numeral digits)
  | minus {digits : List Char} (h : AreDigits digits) :
    WritesInteger ('-' :: digits) (-numeral digits)

variable {c : Char} {s digits : List Char} {n : Int}

/-- No digit is blank. -/
theorem isBlank_of_isDigit (h : isDigit c = true) : isBlank c = false := by
  have hall : ∀ n ∈ blankCodes, isDigit (Char.ofNat n) = false := by decide +kernel
  refine Bool.eq_false_iff.mpr fun hblank => ?_
  have hno := hall c.toNat (isBlank_iff.mp hblank)
  rw [Char.ofNat_toNat, h] at hno
  cases hno

theorem ne_of_isDigit {d : Char} (hd : isDigit d = false) (h : isDigit c = true) : c ≠ d := by
  rintro rfl
  simp [hd] at h

theorem splitSign_of_isDigit (h : isDigit c = true) : splitSign (c :: s) = (false, c :: s) := by
  have hminus : c ≠ '-' := ne_of_isDigit (by decide) h
  have hplus : c ≠ '+' := ne_of_isDigit (by decide) h
  simp [splitSign, hminus, hplus]

theorem splitSign_of_areDigits (h : AreDigits digits) : splitSign digits = (false, digits) := by
  cases digits with
  | nil => rfl
  | cons c rest => exact splitSign_of_isDigit (h.2 c List.mem_cons_self)

/-- The sign of an integer and its digits. -/
theorem WritesInteger.splitSign (h : WritesInteger s n) :
    ∃ negative digits, Text.splitSign s = (negative, digits) ∧ AreDigits digits ∧
      n = if negative then -(numeral digits : Int) else numeral digits := by
  cases h with
  | plain h => exact ⟨false, s, splitSign_of_areDigits h, h, rfl⟩
  | plus h => exact ⟨false, _, rfl, h, rfl⟩
  | minus h => exact ⟨true, _, rfl, h, rfl⟩

theorem WritesInteger.mem (h : WritesInteger s n) (hc : c ∈ s) :
    isDigit c = true ∨ c = '+' ∨ c = '-' := by
  cases h with
  | plain h => exact .inl (h.2 c hc)
  | plus h | minus h =>
    rcases List.mem_cons.mp hc with rfl | hc
    · simp
    · exact .inl (h.2 c hc)

theorem WritesInteger.isBlank (h : WritesInteger s n) (hc : c ∈ s) : isBlank c = false := by
  rcases h.mem hc with hdigit | rfl | rfl
  · exact isBlank_of_isDigit hdigit
  · rfl
  · rfl

theorem WritesInteger.trim (h : WritesInteger s n) : trim s = s :=
  trim_eq_self fun _ => h.isBlank

theorem isDigit_of_isAsciiDigit (h : isAsciiDigit c = true) : isDigit c = true := by
  simp only [isAsciiDigit, Bool.and_eq_true, decide_eq_true_eq] at h
  have hsmall : c.toNat < 128 := Nat.lt_of_le_of_lt (UInt32.le_iff_toNat_le.mp h.2) (by decide)
  simp [isDigit, digitValue?, hsmall, h]

theorem areDigits_natText (n : Nat) : AreDigits (natText n) :=
  ⟨natText_ne_nil n, fun _ hc => isDigit_of_isAsciiDigit (isAsciiDigit_of_mem_natText hc)⟩

theorem groupedDigits?_eq (h : AreDigits digits) : groupedDigits? digits = some digits := by
  obtain ⟨hne, hdigits⟩ := h
  induction digits with
  | nil => exact absurd rfl hne
  | cons c rest ih =>
    rw [List.forall_mem_cons] at hdigits
    cases rest with
    | nil => simp [groupedDigits?, hdigits]
    | cons d rest =>
      have hd : d ≠ '_' := ne_of_isDigit (by decide) (hdigits.2 d List.mem_cons_self)
      simp [groupedDigits?, hdigits.1, hd, ih (by simp) hdigits.2]

/-- An integer is read as it is written, as long as the digits are not too many. -/
theorem WritesInteger.integer? (h : WritesInteger s n) :
    Text.integer? s = if maxIntegerDigits < (Text.splitSign s).2.length then none else some n := by
  obtain ⟨negative, digits, hsplit, hdigits, hn⟩ := h.splitSign
  simp [Text.integer?, h.trim, hsplit, groupedDigits?_eq hdigits, ← hn]

theorem dropWhile_isDigit (h : AreDigits digits) : digits.dropWhile isDigit = [] := by
  rw [List.dropWhile_eq_nil_iff]
  exact h.2

theorem numeral_zeros (k : Nat) (s : List Char) :
    numeral (List.replicate k '0' ++ s) = numeral s := by
  induction k with
  | zero => rfl
  | succ k ih => exact ih

/-- Zeros before the digits make no difference to the integer. -/
theorem areDigits_zeros (k : Nat) (h : AreDigits digits) :
    AreDigits (List.replicate k '0' ++ digits) := by
  refine ⟨List.append_ne_nil_of_right_ne_nil _ h.1, List.forall_mem_append.mpr ⟨fun c hc => ?_, h.2⟩⟩
  rw [List.eq_of_mem_replicate hc]
  decide

end Text

namespace Binary64

variable {s digits : List Char} {n : Int}

/-- No word is made of digits. -/
theorem ofWord?_eq_none (negative : Bool) (h : Text.AreDigits digits) :
    ofWord? negative digits = none := by
  refine Option.eq_none_iff_forall_ne_some.mpr fun x hx => ?_
  obtain ⟨c, hc, hletter⟩ := exists_letter_of_ofWord? hx
  exact Search.IsNumeral.toLower_ne (.inl (h.2 c hc)) hletter

theorem splitAt?_eq {p : Char → Bool} (h : ∀ c ∈ s, p c = false) :
    splitAt? p s = (s, none) := by
  have hdrop : s.dropWhile (!p ·) = [] := by
    rw [List.dropWhile_eq_nil_iff]
    simpa using h
  rw [splitAt?, hdrop]

theorem optionalDigits?_eq (h : Text.AreDigits digits) :
    optionalDigits? digits = some digits := by
  cases digits with
  | nil => rfl
  | cons c rest => exact Text.groupedDigits?_eq h

/-- An integer is read as the number nearest to it. -/
theorem read?_of_writesInteger (h : Text.WritesInteger s n) :
    read? s = some (ofDecimal (Text.splitSign s).1 (Text.numeral (Text.splitSign s).2) 0) := by
  obtain ⟨negative, digits, hsplit, hdigits, -⟩ := h.splitSign
  have hexponent := splitAt?_eq (p := fun c => c == 'e' || c == 'E') (s := digits) fun c hc => by
    have he := Text.ne_of_isDigit (d := 'e') (by decide) (hdigits.2 c hc)
    have hE := Text.ne_of_isDigit (d := 'E') (by decide) (hdigits.2 c hc)
    simp [he, hE]
  have hpoint := splitAt?_eq (p := (· == '.')) (s := digits) fun c hc => by
    simpa using Text.ne_of_isDigit (by decide) (hdigits.2 c hc)
  have hnone : optionalDigits? [] = some [] := rfl
  simp [read?, h.trim, hsplit, ofWord?_eq_none negative hdigits, hexponent, hpoint, exponent?, hnone,
    optionalDigits?_eq hdigits, hdigits.1]

end Binary64

namespace Search

variable {s : List Char} {n : Int}

/-- What writes an integer is a number. -/
theorem isNumber_of_writesInteger (h : Text.WritesInteger s n) : isNumber s = true := by
  obtain ⟨negative, digits, hsplit, hdigits, -⟩ := h.splitSign
  have hhead : (digits.head?.map Text.isDigit).getD false = true := by
    cases digits with
    | nil => exact absurd rfl hdigits.1
    | cons c rest => exact hdigits.2 c List.mem_cons_self
  simp [isNumber, hsplit, afterSignificand?, Text.dropWhile_isDigit hdigits, hhead, isExponent]

/-- Digits, signs and slashes may stand after a comparison, unless a slash is the first of them. -/
theorem isOperand_of_mem (hne : s ≠ []) (hhead : s.head? ≠ some '/')
    (h : ∀ c ∈ s, Text.isDigit c = true ∨ c ∈ ['+', '-', '/']) : isOperand s = true := by
  have hchars : ∀ c ∈ s, Query.endsWord c = false ∧ c ≠ '<' ∧ c ≠ '=' ∧ c ≠ '>' := by
    intro c hc
    rcases h c hc with hdigit | hmark
    · have hne : ∀ d, Text.isDigit d = false → c ≠ d := fun d hd => Text.ne_of_isDigit hd hdigit
      refine ⟨?_, hne _ (by decide), hne _ (by decide), hne _ (by decide)⟩
      simp [Query.endsWord, Text.isBlank_of_isDigit hdigit, hne '(' (by decide), hne ')' (by decide),
        hne '"' (by decide)]
    · obtain rfl | rfl | rfl : c = '+' ∨ c = '-' ∨ c = '/' := by simpa using hmark
      all_goals decide
  have hword := Query.isBareWord_iff.mpr ⟨hne, hhead, fun c hc => (hchars c hc).1⟩
  refine Bool.and_eq_true_iff.mpr ⟨hword, List.all_eq_true.mpr fun c hc => ?_⟩
  obtain ⟨-, hmarks⟩ := hchars c hc
  simp [hmarks]

theorem isOperand_of_writesInteger (h : Text.WritesInteger s n) : isOperand s = true := by
  have hne : s ≠ [] := by
    cases h with
    | plain h => exact h.1
    | plus h | minus h => simp
  refine isOperand_of_mem hne (fun hhead => ?_) fun c hc => ?_
  · exact absurd (h.mem (List.mem_of_head? hhead)) (by decide)
  · exact (h.mem hc).imp_right fun hsign => by rcases hsign with rfl | rfl <;> simp

end Search

end Cabinet
