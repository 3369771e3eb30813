import Cabinet.Proofs.Calendar
import Cabinet.Proofs.Search.Comparison
import Cabinet.Proofs.Search.Decimal
import Cabinet.Proofs.Search.Truth

/-!
Searches for days. However a day is written, the search compares moments with its first and its last
millisecond, so that the days part the moments among them.
-/

namespace Cabinet

open Storage

namespace Search

/-- The marks between the parts of a day. -/
def dayMarks : List Char :=
  ['/', '-']

/-- Whether a text writes a day: four digits, and one or two for the month and the day, with marks
between them. -/
inductive WritesDay : List Char → Calendar.Day → Prop
  | intro {year month day : List Char} {mark mark' : Char}
    (year_digits : Text.AreDigits year) (year_length : year.length = 4)
    (month_digits : Text.AreDigits month) (month_length : month.length ≤ 2)
    (day_digits : Text.AreDigits day) (day_length : day.length ≤ 2)
    (mark_mem : mark ∈ dayMarks) (mark_mem' : mark' ∈ dayMarks) :
    WritesDay (year ++ mark :: (month ++ mark' :: day))
      ⟨Text.numeral year, Text.numeral month, Text.numeral day⟩

variable {columns : List Column} {column name text : String} {row : Lookup} {comparison : Comparison}
  {s digits : List Char} {mark : Char} {d : Calendar.Day} {v : Int}

theorem mem_dayMarks : mark ∈ dayMarks ↔ mark = '/' ∨ mark = '-' := by
  simp [dayMarks]

theorem isDigit_mark (h : mark ∈ dayMarks) : Text.isDigit mark = false := by
  rcases mem_dayMarks.mp h with rfl | rfl <;> decide

theorem afterMark?_eq (h : mark ∈ dayMarks) (rest : List Char) :
    afterMark? (mark :: rest) = some rest := by
  rcases mem_dayMarks.mp h with rfl | rfl <;> rfl

/-- One or two digits are read up to what is none. -/
theorem shortNumber?_eq {rest : List Char} (h : Text.AreDigits digits) (hshort : digits.length ≤ 2)
    (hrest : ∀ c ∈ rest.head?, Text.isDigit c = false) :
    shortNumber? (digits ++ rest) = some ((Text.numeral digits : Int), rest) := by
  obtain ⟨hne, hdigits⟩ := h
  match digits with
  | [] => exact absurd rfl hne
  | [a] =>
    cases rest with
    | nil => simp [shortNumber?, hdigits a]
    | cons b rest => simp [shortNumber?, hdigits a, hrest b rfl]
  | [a, b] => simp [shortNumber?, hdigits a, hdigits b]
  | _ :: _ :: _ :: _ => simp at hshort

theorem WritesDay.dayValue? (h : WritesDay s d) :
    Search.dayValue? s = Calendar.day? d.year d.month d.day := by
  cases h with
  | @intro year month day mark mark' hyear hlength hmonth hmonth' hday hday' hmark hmark' =>
    have hshort : shortNumber? (month ++ mark' :: day) = some (↑(Text.numeral month), mark' :: day) :=
      shortNumber?_eq hmonth hmonth' fun c hc => Option.some.inj hc ▸ isDigit_mark hmark'
    have hshort' : shortNumber? (day ++ []) = some (↑(Text.numeral day), []) :=
      shortNumber?_eq hday hday' nofun
    rw [List.append_nil] at hshort'
    have hall : year.all Text.isDigit = true := List.all_eq_true.mpr hyear.2
    simp [Search.dayValue?, List.take_left' hlength, List.drop_left' hlength, hlength, hall,
      afterMark?_eq hmark, afterMark?_eq hmark', hshort, hshort']

/-- A day is no number: what follows its year is neither a fraction nor an exponent. -/
theorem WritesDay.isNumber (h : WritesDay s d) : Search.isNumber s = false := by
  cases h with
  | @intro year month day mark mark' hyear hlength hmonth hmonth' hday hday' hmark hmark' =>
    have hdrop : (year ++ mark :: (month ++ mark' :: day)).dropWhile Text.isDigit =
        mark :: (month ++ mark' :: day) := by
      rw [List.dropWhile_append_of_pos hyear.2]
      simp [isDigit_mark hmark]
    obtain ⟨hpoint, he, hE⟩ : mark ≠ '.' ∧ mark ≠ 'e' ∧ mark ≠ 'E' := by
      rcases mem_dayMarks.mp hmark with rfl | rfl <;> decide
    cases year with
    | nil => exact absurd rfl hyear.1
    | cons c rest =>
      have hc : Text.isDigit c = true := hyear.2 c List.mem_cons_self
      rw [List.cons_append] at hdrop ⊢
      simp [Search.isNumber, Text.splitSign_of_isDigit hc, afterSignificand?, hdrop, hpoint, hc,
        isExponent, he, hE]

theorem WritesDay.isOperand (h : WritesDay s d) : isOperand s = true := by
  cases h with
  | @intro year month day mark mark' hyear hlength hmonth hmonth' hday hday' hmark hmark' =>
    have hmarks : ∀ mark ∈ dayMarks, Text.isDigit mark = true ∨ mark ∈ ['+', '-', '/'] :=
      fun mark hmark => .inr (by rcases mem_dayMarks.mp hmark with rfl | rfl <;> simp)
    have hchars : ∀ c ∈ year ++ mark :: (month ++ mark' :: day),
        Text.isDigit c = true ∨ c ∈ ['+', '-', '/'] := by
      simp only [List.forall_mem_append, List.forall_mem_cons]
      exact ⟨fun c hc => .inl (hyear.2 c hc), hmarks _ hmark, fun c hc => .inl (hmonth.2 c hc),
        hmarks _ hmark', fun c hc => .inl (hday.2 c hc)⟩
    refine isOperand_of_mem (by simp) ?_ hchars
    cases year with
    | nil => exact absurd rfl hyear.1
    | cons c rest =>
      have hslash := Text.ne_of_isDigit (d := '/') (by decide) (hyear.2 c List.mem_cons_self)
      simpa using hslash

/-- Every day can be written. -/
theorem exists_writesDay (h : d.Exists) : ∃ s, WritesDay s d := by
  obtain ⟨⟨-, hyear⟩, ⟨-, hmonth⟩, ⟨-, hday⟩, -⟩ := h
  have hlength : d.day ≤ 31 := hday.trans (Calendar.monthLength_le d.year (d.month - 1))
  have hshort : ∀ n, n ≤ 31 → (Text.natText n).length ≤ 2 := by decide
  have hyear' : (Text.natText d.year).length ≤ 4 :=
    (Nat.length_toDigits_le_iff (by decide) (by decide)).mpr (by omega)
  have hzeros := Text.areDigits_zeros (4 - (Text.natText d.year).length) (Text.areDigits_natText d.year)
  have hslash : '/' ∈ dayMarks := List.mem_cons_self
  have hwrites := WritesDay.intro hzeros (by simp; omega) (Text.areDigits_natText d.month)
    (hshort _ (by omega)) (Text.areDigits_natText d.day) (hshort _ hlength) hslash hslash
  simp only [Text.numeral_zeros, Text.numeral_natText] at hwrites
  exact ⟨_, hwrites⟩

/-- A text about a day is lowered to a comparison with the day if the calendar has it. -/
theorem lower_day {c : Column} (hcolumn : resolve columns name.toList = .ok (some c))
    (htype : c.type = .date) (hs : WritesDay s d) (htext : Compares text.toList comparison s) :
    lower columns (.field name text false) = .ok (.clause
      (((Calendar.day? d.year d.month d.day).map (dayClause c.name comparison)).getD
        (partClause c.name text.toList))) := by
  have hday : dayClause? c.name text.toList = _ := htext.dayClause? hs.isOperand
  have hnumeric : numericClause? c.name text.toList = _ := htext.numericClause? hs.isOperand
  rw [hs.dayValue?] at hday
  rw [hs.isNumber] at hnumeric
  exact lower_of_resolve hcolumn (by simp [termClause, htype, hday, hnumeric])

end Search

namespace Comparison

/-- Whether a moment is to a day as a comparison says. -/
def RelatesToDay (v : Int) (d : Calendar.Day) : Comparison → Prop
  | equal => d.bounds.1 ≤ v ∧ v ≤ d.bounds.2
  | less => v < d.bounds.1
  | atMost => v ≤ d.bounds.2
  | greater => d.bounds.2 < v
  | atLeast => d.bounds.1 ≤ v

instance (v : Int) (d : Calendar.Day) :
    (comparison : Comparison) → Decidable (comparison.RelatesToDay v d)
  | equal => inferInstanceAs (Decidable (_ ∧ _))
  | less => inferInstanceAs (Decidable (v < _))
  | atMost => inferInstanceAs (Decidable (v ≤ _))
  | greater => inferInstanceAs (Decidable (_ < v))
  | atLeast => inferInstanceAs (Decidable (_ ≤ v))

variable {v : Int} {d : Calendar.Day}

/-- A moment is either before a day or on it or after it. -/
theorem relatesToDay_trichotomy : (decide (less.RelatesToDay v d)).toNat +
    (decide (equal.RelatesToDay v d)).toNat + (decide (greater.RelatesToDay v d)).toNat = 1 := by
  have horder := d.bounds_le
  simp only [RelatesToDay]
  by_cases hbefore : v < d.bounds.1
  · have hstart : ¬d.bounds.1 ≤ v := by omega
    have hafter : ¬d.bounds.2 < v := by omega
    simp [hbefore, hstart, hafter]
  · by_cases hafter : d.bounds.2 < v
    · have hfinish : ¬v ≤ d.bounds.2 := by omega
      simp [hbefore, hafter, hfinish]
    · simp [hbefore, hafter, Int.not_lt.mp hbefore, Int.not_lt.mp hafter]

theorem relatesToDay_atLeast : atLeast.RelatesToDay v d ↔ ¬less.RelatesToDay v d :=
  Int.not_lt.symm

theorem relatesToDay_atMost : atMost.RelatesToDay v d ↔ ¬greater.RelatesToDay v d :=
  Int.not_lt.symm

end Comparison

namespace Search

/-- A comparison with a bound of a day. -/
theorem holds_bound (hrow : row column = (.integer, .integer v)) {bound : Int}
    (hbound : isStorable bound = true) :
    holds row (.clause (.compare column comparison (.int bound))) =
      .ok (some (decide (comparison.Relates v bound))) := by
  rw [holds_number hrow (.inl ⟨bound, given_int hbound⟩), given_int hbound, Cell.order,
    Comparison.admits_compare]

/-- What a comparison with a day says of a moment. -/
theorem holds_day (hd : d.Exists) (hrow : row column = (.integer, .integer v)) :
    holds row (.clause (dayClause column comparison d)) =
      .ok (some (decide (comparison.RelatesToDay v d))) := by
  obtain ⟨hstart, hfinish⟩ :=
    Calendar.isStorable_bounds (Calendar.number_le_of_day? (Calendar.Day.day?_of_exists hd))
  cases comparison with
  | equal =>
    have hclause : holds row (.clause (dayClause column .equal d)) = .ok (Truth.and
        (some (Comparison.atLeast.admits (compare v d.bounds.1)))
        (some (Comparison.atMost.admits (compare v d.bounds.2)))) := by
      rw [dayClause, holds, holdsClause, hrow]
      rfl
    rw [hclause, Comparison.admits_compare, Comparison.admits_compare, Truth.and_some,
      ← Bool.decide_and]
    rfl
  | less | atLeast => exact holds_bound hrow hstart
  | greater | atMost => exact holds_bound hrow hfinish

/-- What searches for a comparison with a day say of a row, however the day is written. -/
structure Says (columns : List Column) (name : String) (row : Lookup) (comparison : Comparison)
    (d : Calendar.Day) (answer : Bool) : Prop where
  writable : ∃ s, WritesDay s d
  answers : ∀ s text, WritesDay s d → Compares text.toList comparison s →
    ∃ c, lower columns (.field name text false) = .ok c ∧ holds row c = .ok (some answer)

theorem says_relatesToDay {c : Column} (hcolumn : resolve columns name.toList = .ok (some c))
    (htype : c.type = .date) (hrow : row c.name = (.integer, .integer v)) (hd : d.Exists)
    (comparison : Comparison) :
    Says columns name row comparison d (decide (comparison.RelatesToDay v d)) where
  writable := exists_writesDay hd
  answers s text hs htext := by
    refine ⟨_, lower_day hcolumn htype hs htext, ?_⟩
    rw [Calendar.Day.day?_of_exists hd]
    exact holds_day hd hrow

/-- There is one answer only. -/
theorem Says.unique {answer answer' : Bool} (h : Says columns name row comparison d answer)
    (h' : Says columns name row comparison d answer') : answer = answer' := by
  obtain ⟨⟨s, hs⟩, hanswers⟩ := h
  have htext := compares_typed comparison hs.isOperand
  rw [← String.toList_ofList (l := comparison.typed ++ s)] at htext
  obtain ⟨c, hc, hholds⟩ := hanswers s _ hs htext
  obtain ⟨c', hc', hholds'⟩ := h'.answers s _ hs htext
  obtain rfl := Except.ok.inj (hc.symm.trans hc')
  exact Option.some.inj (Except.ok.inj (hholds.symm.trans hholds'))

/-- A search of a column of dates for a day compares the moments with the first and the last
millisecond of the day, and parts them into those before, on and after it. Each day ends right before
the next one begins, so that every moment is found by exactly one day. What has the form of a day but is
none is looked for as a part of the text. -/
theorem days_part_moments {c : Column} (hcolumn : resolve columns name.toList = .ok (some c))
    (htype : c.type = .date) :
    (∀ d : Calendar.Day, d.Exists → ∀ row v, row c.name = (.integer, .integer v) →
      (∀ comparison, Says columns name row comparison d (decide (comparison.RelatesToDay v d))) ∧
      ∃ before during after : Bool,
        Says columns name row .less d before ∧ Says columns name row .equal d during ∧
          Says columns name row .greater d after ∧
        before.toNat + during.toNat + after.toNat = 1 ∧
        Says columns name row .atLeast d (!before) ∧ Says columns name row .atMost d (!after)) ∧
    (∀ d : Calendar.Day, d.Exists → d ≠ .last → d.next.Exists ∧ d.bounds.2 + 1 = d.next.bounds.1) ∧
    (∀ row v, row c.name = (.integer, .integer v) → Calendar.Day.first.bounds.1 ≤ v →
      v ≤ Calendar.Day.last.bounds.2 →
      ∃! d : Calendar.Day, d.Exists ∧ Says columns name row .equal d true) ∧
    (∀ d s comparison text, ¬d.Exists → WritesDay s d → Compares text.toList comparison s →
      lower columns (.field name text false) = .ok (.clause (partClause c.name text.toList))) ∧
    (Query.isFieldName name.toList = true → ∀ d s (comparison : Comparison), WritesDay s d →
      compile columns (.text (name ++ ":" ++ String.ofList (comparison.typed ++ s))) =
        lower columns (.field name (String.ofList (comparison.typed ++ s)) false)) := by
  refine ⟨fun d hd row v hrow => ?_, fun d hd hlast => ⟨hd.next hlast, Calendar.Day.bounds_next hd⟩,
    fun row v hrow hlow hhigh => ?_, fun d s comparison text hd hs htext => ?_,
    fun hname d s comparison hs => ?_⟩
  · have hanswer := says_relatesToDay hcolumn htype hrow hd
    refine ⟨hanswer, _, _, _, hanswer .less, hanswer .equal, hanswer .greater,
      Comparison.relatesToDay_trichotomy, ?_, ?_⟩
    · rw [← decide_not, ← decide_eq_decide.mpr Comparison.relatesToDay_atLeast]
      exact hanswer .atLeast
    · rw [← decide_not, ← decide_eq_decide.mpr Comparison.relatesToDay_atMost]
      exact hanswer .atMost
  · -- A search answers in one way only, so that a day that finds the moment has it within its
    -- bounds.
    obtain ⟨d, ⟨hd, hmem⟩, hunique⟩ := Calendar.Day.existsUnique_mem_bounds hlow hhigh
    have hanswer := says_relatesToDay hcolumn htype hrow hd .equal
    rw [decide_eq_true (show Comparison.equal.RelatesToDay v d from hmem)] at hanswer
    refine ⟨d, ⟨hd, hanswer⟩, fun d' ⟨hd', hanswer'⟩ => hunique d' ⟨hd', ?_⟩⟩
    exact of_decide_eq_true ((says_relatesToDay hcolumn htype hrow hd' .equal).unique hanswer')
  · rw [lower_day hcolumn htype hs htext, Calendar.Day.day?_of_not_exists hd]
    rfl
  · have hword := isBareWord_typed comparison hs.isOperand
    rw [← String.toList_ofList (l := comparison.typed ++ s)] at hword
    exact compile_bareWord hname hword

/-- The last millisecond before 1970, and a day that no calendar has. -/
theorem days_part_moments_before_epoch :
    let columns : List Column := [{ name := "due", type := .date, index := 6 }]
    let row : Lookup := fun _ => (.integer, .integer (-1))
    resolve columns "due".toList = .ok columns.head? ∧
      Says columns "due" row .equal ⟨1969, 12, 31⟩ true ∧
      Says columns "due" row .less ⟨1970, 1, 1⟩ true ∧
      (∃! d : Calendar.Day, d.Exists ∧ Says columns "due" row .equal d true) ∧
      WritesDay "2023-2-29".toList ⟨2023, 2, 29⟩ ∧
      compile columns (.text "due:<2023-2-29") =
        .ok (.clause (partClause "due" "<2023-2-29".toList)) := by
  intro columns row
  have hcolumn : resolve columns "due".toList = .ok columns.head? := rfl
  have hlast : Calendar.Day.Exists ⟨1969, 12, 31⟩ := ⟨by decide, by decide, by decide, by decide⟩
  have hfirst : Calendar.Day.Exists ⟨1970, 1, 1⟩ := ⟨by decide, by decide, by decide, by decide⟩
  have hs : WritesDay "2023-2-29".toList ⟨2023, 2, 29⟩ :=
    @WritesDay.intro ['2', '0', '2', '3'] ['2'] ['2', '9'] '-' '-' (by decide) rfl (by decide)
      (by decide) (by decide) (by decide) (by decide) (by decide)
  have hnone : ¬Calendar.Day.Exists ⟨2023, 2, 29⟩ := fun h => absurd h.day.2 (by decide)
  obtain ⟨hparts, -, hcovers, hpart, htyped⟩ := days_part_moments hcolumn rfl
  refine ⟨hcolumn, (hparts _ hlast row (-1) rfl).1 .equal, (hparts _ hfirst row (-1) rfl).1 .less,
    hcovers row (-1) rfl (by decide) (by decide), hs, ?_⟩
  exact (htyped (by decide) _ _ .less hs).trans
    (hpart _ _ .less _ hnone hs (compares_typed .less hs.isOperand))

end Search

end Cabinet
