import Cabinet.Proofs.Name
import Cabinet.Proofs.Number.Binary64
import Cabinet.Search.Compile
import Cabinet.Storage.Evaluate
import Mathlib.Data.List.TakeWhile

/-!
What the text of a term becomes. Whatever it is compared with can be stored, and is something.
-/

namespace Cabinet

open Storage

namespace Text

variable {c : Char} {s : List Char}

theorem mem_of_mem_trim (h : c ∈ trim s) : c ∈ s := by
  have hright := List.mem_reverse.mp ((List.dropWhile_sublist _).mem (List.mem_reverse.mp h))
  exact (List.dropWhile_sublist _).mem hright

theorem mem_of_mem_splitSign (h : c ∈ (splitSign s).2) : c ∈ s := by
  unfold splitSign at h
  split at h
  · exact List.mem_cons_of_mem _ h
  · exact List.mem_cons_of_mem _ h
  · exact h

theorem mem_splitSign (h : c ∈ s) : c = '-' ∨ c = '+' ∨ c ∈ (splitSign s).2 := by
  unfold splitSign
  split <;> grind

end Text

namespace Binary64

/-- The words for what is not finite have the letter `n` in them. -/
theorem exists_letter_of_ofWord? {negative : Bool} {s : List Char} {x : Binary64}
    (h : ofWord? negative s = some x) : ∃ c ∈ s, c.toLower = 'n' := by
  have hletter : ∀ {word : List Char}, 'n' ∈ word →
      String.ofList (s.map Char.toLower) = String.ofList word → ∃ c ∈ s, c.toLower = 'n' := by
    intro word hmem hword
    rw [← String.ofList_injective hword] at hmem
    exact List.mem_map.mp hmem
  unfold ofWord? at h
  split at h
  · next hword => exact hletter (by simp : 'n' ∈ ['n', 'a', 'n']) hword
  · next hword => exact hletter (by simp : 'n' ∈ ['i', 'n', 'f']) hword
  · next hword => exact hletter (by simp : 'n' ∈ ['i', 'n', 'f', 'i', 'n', 'i', 't', 'y']) hword
  · simp at h

theorem read?_eq_nan {s : List Char} (h : read? s = some .nan) : ∃ c ∈ s, c.toLower = 'n' := by
  unfold read? at h
  dsimp only at h
  split at h
  · next x hword =>
    obtain rfl := Option.some.inj h
    obtain ⟨c, hc, hlower⟩ := exists_letter_of_ofWord? hword
    exact ⟨c, Text.mem_of_mem_trim (Text.mem_of_mem_splitSign hc), hlower⟩
  · simp only [Option.bind_eq_bind, Option.bind_eq_some_iff] at h
    obtain ⟨e, -, whole, -, fraction, -, h⟩ := h
    split at h
    · simp at h
    · exact absurd (Option.some.inj h) (ofDecimal_ne_nan _ _ _)

end Binary64

namespace Search

/-- The characters of numbers. -/
def IsNumeral (c : Char) : Prop :=
  Text.isDigit c = true ∨ c ∈ ['.', 'e', 'E', '+', '-']

variable {c : Char} {s rest : List Char}

theorem isNumeral_of_isExponent (h : isExponent s = true) (hc : c ∈ s) : IsNumeral c := by
  cases s with
  | nil => simp at hc
  | cons e rest =>
    simp only [isExponent, Bool.and_eq_true, Bool.or_eq_true, beq_iff_eq, List.all_eq_true] at h
    obtain ⟨⟨he, -⟩, hdigits⟩ := h
    rcases List.mem_cons.mp hc with rfl | hc
    · rcases he with rfl | rfl <;> simp [IsNumeral]
    · rcases Text.mem_splitSign hc with rfl | rfl | hc
      · simp [IsNumeral]
      · simp [IsNumeral]
      · exact .inl (hdigits c hc)

/-- Digits at the beginning of a text, and what follows them. -/
theorem isDigit_or_mem (hc : c ∈ s) : Text.isDigit c = true ∨ c ∈ s.dropWhile Text.isDigit := by
  rw [← List.takeWhile_append_dropWhile (p := Text.isDigit) (l := s), List.mem_append] at hc
  exact hc.imp_left List.mem_takeWhile_imp

theorem isNumeral_of_afterSignificand? (h : afterSignificand? s = some rest) (hc : c ∈ s) :
    IsNumeral c ∨ c ∈ rest := by
  rcases isDigit_or_mem hc with hdigit | hc
  · exact .inl (.inl hdigit)
  unfold afterSignificand? at h
  dsimp only at h
  split at h
  · next fraction hpoint =>
    rw [hpoint] at hc
    split at h
    · obtain rfl := Option.some.inj h
      rcases List.mem_cons.mp hc with rfl | hc
      · exact .inl (.inr (by simp))
      · exact (isDigit_or_mem hc).imp_left .inl
    · simp at h
  · split at h
    · obtain rfl := Option.some.inj h
      exact .inr hc
    · simp at h

theorem isNumeral_of_isNumber (h : isNumber s = true) (hc : c ∈ s) : IsNumeral c := by
  rw [isNumber, Option.getD_eq_iff] at h
  simp only [Option.map_eq_some_iff] at h
  obtain ⟨rest, hrest, hexponent⟩ | h := h
  · rcases Text.mem_splitSign hc with rfl | rfl | hc
    · exact .inr (by simp)
    · exact .inr (by simp)
    · rcases isNumeral_of_afterSignificand? hrest hc with hc | hc
      · exact hc
      · exact isNumeral_of_isExponent hexponent hc
  · simp at h

theorem IsNumeral.toLower_ne (h : IsNumeral c) : c.toLower ≠ 'n' := by
  have hsmall : ∀ n < 97, Text.isDigit (Char.ofNat n) = true ∨
      Char.ofNat n ∈ ['.', 'e', 'E', '+', '-'] → (Char.ofNat n).toLower ≠ 'n' := by decide
  by_cases hc : 97 ≤ c.toNat
  · rw [Text.toLower_of_small hc]
    rintro rfl
    exact absurd h (by decide : ¬(Text.isDigit 'n' = true ∨ 'n' ∈ ['.', 'e', 'E', '+', '-']))
  · have hlower := hsmall c.toNat (by omega)
    rw [Char.ofNat_toNat] at hlower
    exact hlower h

theorem given_int {n : Int} (h : isStorable n = true) : given (.int n) = .integer n := by
  simp [given, Cell.ofValue, h, Except.toOption]

theorem given_float {x : Binary64} (h : x ≠ .nan) : given (.float x) = .real x := by
  cases x with
  | nan => exact absurd rfl h
  | infinite negative => rfl
  | finite negative m e hm => rfl

/-- What is written as a number is something. -/
theorem given_numberValue (h : isNumber s = true) : given (numberValue s) ≠ .null := by
  have hread : (Binary64.read? s).getD .zero ≠ .nan := by
    intro hnan
    rw [Option.getD_eq_iff] at hnan
    obtain hnan | ⟨-, hzero⟩ := hnan
    · obtain ⟨c, hc, hlower⟩ := Binary64.read?_eq_nan hnan
      exact (isNumeral_of_isNumber h hc).toLower_ne hlower
    · simp [Binary64.zero] at hzero
  unfold numberValue
  split
  · split
    · next hstorable =>
      rw [given_int hstorable]
      simp
    · rw [given_float hread]
      simp
  · rw [given_float hread]
    simp

theorem isStorable_truthValue? {b : Int} (h : truthValue? s = some b) : isStorable b = true := by
  unfold truthValue? at h
  split at h
  all_goals first | (obtain rfl := Option.some.inj h; decide) | simp at h

end Search

namespace Calendar

theorem daysBeforeMonth_le (year month : Nat) : daysBeforeMonth year month ≤ 366 := by
  have hsum : (monthLengths year).sum ≤ 366 := by
    unfold monthLengths
    split <;> simp
  have hsplit := congrArg List.sum (List.take_append_drop (month - 1) (monthLengths year))
  rw [List.sum_append] at hsplit
  have hbefore : daysBeforeMonth year month = ((monthLengths year).take (month - 1)).sum := rfl
  rw [hbefore]
  omega

theorem monthLength_le (year i : Nat) : ((monthLengths year)[i]?).getD 0 ≤ 31 := by
  have hall : ∀ length ∈ monthLengths year, length ≤ 31 := by
    unfold monthLengths
    split <;> decide
  cases hi : (monthLengths year)[i]? with
  | none => simp
  | some length => exact hall length (List.mem_of_getElem? hi)

/-- The days of the calendar have numbers of seven figures. -/
theorem number_le_of_day? {year month day : Int} {d : Day} (h : day? year month day = some d) :
    d.number ≤ 4000000 := by
  unfold day? at h
  split at h
  · next hrange =>
    dsimp only at h
    split at h
    · next hday =>
      obtain rfl := Option.some.inj h
      have hmonth := daysBeforeMonth_le year.toNat month.toNat
      have hlength := monthLength_le year.toNat (month.toNat - 1)
      simp only [Day.number, daysBeforeYear]
      omega
    · simp at h
  · simp at h

theorem isStorable_bounds {d : Day} (h : d.number ≤ 4000000) :
    isStorable d.bounds.1 = true ∧ isStorable d.bounds.2 = true := by
  have hmin : minInteger = -9223372036854775808 := rfl
  have hmax : maxInteger = 9223372036854775807 := rfl
  simp only [Day.bounds, Day.sinceEpoch, epochDay, millisecondsPerDay, isStorable, hmin, hmax,
    Bool.and_eq_true, decide_eq_true_eq]
  omega

end Calendar

namespace Search

variable {column text : String} {type : ColumnType} {s : List Char} {c : Clause}

theorem number_le_of_dayValue? {d : Calendar.Day} (h : dayValue? s = some d) : d.number ≤ 4000000 := by
  simp only [dayValue?, Option.bind_eq_bind] at h
  split at h
  · simp at h
  · simp only [Option.bind_eq_some_iff] at h
    obtain ⟨_, -, ⟨month, rest⟩, -, _, -, ⟨day, after⟩, -, h⟩ := h
    dsimp only at h
    split at h
    · exact Calendar.number_le_of_day? h
    · simp at h

/-- What terms that are no regular expressions become in a column. -/
inductive Lowered (column : String) : Clause → Prop
  | like (pattern : List Char) : Lowered column (.like column pattern)
  | compare (comparison : Comparison) {v : Value} (h : given v ≠ .null) :
    Lowered column (.compare column comparison v)
  | between (low high : Int) : Lowered column (.between column low high)

theorem Lowered.int {n : Int} (comparison : Comparison) (h : isStorable n = true) :
    Lowered column (.compare column comparison (.int n)) :=
  .compare comparison (by simp [given_int h])

/-- A number that is written in a column is compared with what the column holds. -/
theorem numericClause?_eq_some (h : numericClause? column s = some c) :
    ∃ comparison operand, isNumber operand = true ∧
      c = .compare column comparison (numberValue operand) := by
  unfold numericClause? at h
  dsimp only at h
  split at h
  · split at h
    · next hnumber => exact ⟨_, _, hnumber, (Option.some.inj h).symm⟩
    · simp at h
  · split at h
    · next hnumber => exact ⟨_, _, hnumber, (Option.some.inj h).symm⟩
    · simp at h

/-- A day that is written in a column is compared by its first or its last millisecond, or by both. -/
theorem dayClause?_eq_some (h : dayClause? column s = some c) :
    ∃ start finish, isStorable start = true ∧ isStorable finish = true ∧
      (c = .between column start finish ∨
        ∃ comparison bound, (bound = start ∨ bound = finish) ∧
          c = .compare column comparison (.int bound)) := by
  unfold dayClause? at h
  dsimp only at h
  split at h
  · next comparison operand hsplit =>
    simp only [Option.bind_eq_bind, Option.bind_eq_some_iff] at h
    obtain ⟨d, hd, h⟩ := h
    obtain ⟨hstart, hfinish⟩ := Calendar.isStorable_bounds (number_le_of_dayValue? hd)
    refine ⟨_, _, hstart, hfinish, .inr ⟨comparison, _, ?_, (Option.some.inj h).symm⟩⟩
    split
    · exact .inr rfl
    · exact .inr rfl
    · exact .inl rfl
  · simp only [Option.bind_eq_bind, Option.bind_eq_some_iff] at h
    obtain ⟨d, hd, h⟩ := h
    obtain ⟨hstart, hfinish⟩ := Calendar.isStorable_bounds (number_le_of_dayValue? hd)
    exact ⟨_, _, hstart, hfinish, .inl (Option.some.inj h).symm⟩

theorem lowered_numericClause? (h : numericClause? column s = some c) : Lowered column c := by
  obtain ⟨comparison, operand, hnumber, rfl⟩ := numericClause?_eq_some h
  exact .compare comparison (given_numberValue hnumber)

theorem lowered_dayClause? (h : dayClause? column s = some c) : Lowered column c := by
  obtain ⟨start, finish, hstart, hfinish, rfl | ⟨comparison, bound, hbound, rfl⟩⟩ := dayClause?_eq_some h
  · exact .between _ _
  · refine .int comparison ?_
    rcases hbound with rfl | rfl
    · exact hstart
    · exact hfinish

/-- What a term becomes: a regular expression if it is one, and otherwise the truth value, the day or the
number that its text says in the column, or a part of the text to look for. -/
theorem termClause_eq_ok {regex : Bool} (h : termClause column type text regex = .ok c) :
    (regex = true ∧ c = .regexp column text) ∨ (regex = false ∧
      ((∃ b, truthValue? text.toList = some b ∧ c = .compare column .equal (.int b)) ∨
        dayClause? column text.toList = some c ∨ numericClause? column text.toList = some c ∨
          c = partClause column text.toList)) := by
  -- Whatever the type asks for, a part of the text is what is left.
  have hgetD : ∀ {c? : Option Clause},
      c?.getD (partClause column text.toList) = c → c? = some c ∨ c = partClause column text.toList := by
    intro c? hc
    cases c? with
    | none => exact .inr hc.symm
    | some d => exact .inl (congrArg some hc)
  unfold termClause at h
  dsimp only at h
  split at h
  · next hregex => exact .inl ⟨hregex, (Except.ok.inj h).symm⟩
  · next hregex =>
    refine .inr ⟨by simpa using hregex, ?_⟩
    split at h
    · simp at h
    · split at h
      · next b htruth => exact .inl ⟨b, htruth, (Except.ok.inj h).symm⟩
      · exact .inr (.inr (hgetD (Except.ok.inj h)))
    · rcases hgetD (Except.ok.inj h) with hclause | hpart
      · rcases Option.or_eq_some_iff.mp hclause with hday | ⟨-, hnumeric⟩
        · exact .inr (.inl hday)
        · exact .inr (.inr (.inl hnumeric))
      · exact .inr (.inr (.inr hpart))
    · split at h
      · exact .inr (.inr (hgetD (Except.ok.inj h)))
      · exact .inr (.inr (.inr (Except.ok.inj h).symm))

/-- A term becomes a regular expression if it is one, and nothing else does. -/
theorem termClause_cases {regex : Bool} (h : termClause column type text regex = .ok c) :
    (regex = true ∧ c = .regexp column text) ∨ (regex = false ∧ Lowered column c) := by
  refine (termClause_eq_ok h).imp_right fun ⟨hregex, hc⟩ => ⟨hregex, ?_⟩
  obtain ⟨b, htruth, rfl⟩ | hday | hnumeric | rfl := hc
  · exact .int _ (isStorable_truthValue? htruth)
  · exact lowered_dayClause? hday
  · exact lowered_numericClause? hnumeric
  · exact .like _

theorem termClause_column {regex : Bool} (h : termClause column type text regex = .ok c) :
    c.column = column := by
  obtain ⟨-, rfl⟩ | ⟨-, hc⟩ := termClause_cases h
  · rfl
  · cases hc <;> rfl

end Search

end Cabinet
