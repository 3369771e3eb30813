import Cabinet.Proofs.Search.Literal
import Mathlib.Logic.ExistsUnique
import Mathlib.Order.Basic

/-!
The days of the calendar: their numbers are consecutive, and their milliseconds cover all of time
from the first day to the last.
-/

namespace Cabinet.Calendar

/-- The number of days of a month, which is counted from one. -/
def monthLength (year month : Nat) : Nat :=
  ((monthLengths year)[month - 1]?).getD 0

attribute [ext] Day

namespace Day

/-- Whether the calendar has a day. The very first day is left out. -/
structure Exists (d : Day) : Prop where
  year : 1 ≤ d.year ∧ d.year ≤ 9999
  month : 1 ≤ d.month ∧ d.month ≤ 12
  day : 1 ≤ d.day ∧ d.day ≤ monthLength d.year d.month
  later : d ≠ ⟨1, 1, 1⟩

/-- The day after a day. -/
def next (d : Day) : Day :=
  if d.day < monthLength d.year d.month then { d with day := d.day + 1 }
  else if d.month < 12 then ⟨d.year, d.month + 1, 1⟩
  else ⟨d.year + 1, 1, 1⟩

def first : Day := ⟨1, 1, 2⟩

def last : Day := ⟨9999, 12, 31⟩

end Day

variable {year year' month month' : Nat} {d d' : Day} {v : Int}

theorem monthLength_pos (hmonth : 1 ≤ month ∧ month ≤ 12) : 1 ≤ monthLength year month := by
  obtain ⟨hlow, hhigh⟩ := hmonth
  have hlength : (monthLengths year).length = 12 := rfl
  have hall : ∀ length ∈ monthLengths year, 1 ≤ length := by
    unfold monthLengths
    split <;> decide
  rw [monthLength, List.getElem?_eq_getElem (by omega)]
  exact hall _ (List.getElem_mem _)

theorem daysBeforeMonth_succ (hmonth : 1 ≤ month) :
    daysBeforeMonth year (month + 1) = daysBeforeMonth year month + monthLength year month := by
  obtain ⟨i, rfl⟩ := Nat.exists_eq_add_of_le' hmonth
  have hsum : ∀ lengths : List Nat,
      (lengths.take (i + 1)).sum = (lengths.take i).sum + (lengths[i]?).getD 0 := by
    intro lengths
    rw [List.take_add_one, List.sum_append]
    cases lengths[i]? <;> simp
  exact hsum (monthLengths year)

/-- A month begins after the months before it. -/
theorem daysBeforeMonth_lt (hmonth : 1 ≤ month) (hlt : month < month') :
    daysBeforeMonth year month + monthLength year month ≤ daysBeforeMonth year month' := by
  induction month', hlt using Nat.le_induction with
  | base => exact (daysBeforeMonth_succ hmonth).ge
  | succ later hlt ih =>
    rw [daysBeforeMonth_succ (by omega)]
    omega

/-- A year is as long as its months together. -/
theorem daysBeforeYear_succ (hyear : 1 ≤ year) :
    daysBeforeYear (year + 1) = daysBeforeYear year + daysBeforeMonth year 13 := by
  obtain ⟨past, rfl⟩ := Nat.exists_eq_add_of_le' hyear
  have hlength : daysBeforeMonth (past + 1) 13 = if isLeapYear (past + 1) then 366 else 365 := by
    cases hleap : isLeapYear (past + 1) <;> simp [daysBeforeMonth, monthLengths, hleap]
  have hquotient : ∀ n, 0 < n → (past + 1) / n = past / n + if (past + 1) % n = 0 then 1 else 0 :=
    fun n _ => by simp only [Nat.succ_div, Nat.dvd_iff_mod_eq_zero]
  have hcentury : past / 100 ≤ past / 4 := Nat.div_le_div_left (by decide) (by decide)
  have hfour : (past + 1) % 100 = 0 → (past + 1) % 4 = 0 := by omega
  have hhundred : (past + 1) % 400 = 0 → (past + 1) % 100 = 0 := by omega
  rw [hlength]
  simp only [daysBeforeYear, Nat.add_sub_cancel, hquotient 4 (by decide), hquotient 100 (by decide),
    hquotient 400 (by decide), isLeapYear]
  generalize past / 100 = hundreds, past / 4 = fours at hcentury
  by_cases h4 : (past + 1) % 4 = 0 <;> by_cases h100 : (past + 1) % 100 = 0 <;>
    by_cases h400 : (past + 1) % 400 = 0 <;> simp [h4, h100, h400] <;> omega

/-- A year begins after the years before it. -/
theorem daysBeforeYear_lt (hyear : 1 ≤ year) (hlt : year < year') :
    daysBeforeYear year + daysBeforeMonth year 13 ≤ daysBeforeYear year' := by
  induction year', hlt using Nat.le_induction with
  | base => exact (daysBeforeYear_succ hyear).ge
  | succ later hlt ih =>
    rw [daysBeforeYear_succ (by omega)]
    omega

namespace Day

theorem day?_of_exists (h : d.Exists) : day? d.year d.month d.day = some d := by
  obtain ⟨hyear, hmonth, hday, hlater⟩ := h
  have hrange : 1 ≤ (d.year : Int) ∧ (d.year : Int) ≤ 9999 ∧ 1 ≤ (d.month : Int) ∧ (d.month : Int) ≤ 12 ∧
      1 ≤ (d.day : Int) := by omega
  have hlater' : ¬((d.year : Int) = 1 ∧ (d.month : Int) = 1 ∧ (d.day : Int) = 1) := fun hfirst =>
    hlater (Day.ext (Int.ofNat.inj hfirst.1) (Int.ofNat.inj hfirst.2.1) (Int.ofNat.inj hfirst.2.2))
  rw [day?, if_pos hrange]
  exact if_pos ⟨hday.2, hlater'⟩

/-- What is no day of the calendar is not found in it. -/
theorem day?_of_not_exists (h : ¬d.Exists) : day? d.year d.month d.day = none := by
  unfold day?
  split
  · next hrange =>
    refine if_neg fun hday => h ⟨by omega, by omega, ⟨by omega, hday.1⟩, ?_⟩
    rintro rfl
    exact hday.2 (by decide)
  · rfl

/-- The numbers of days in a row are in a row. -/
theorem number_next (h : d.Exists) : d.next.number = d.number + 1 := by
  obtain ⟨hyear, hmonth, hday, -⟩ := h
  have hsucc : daysBeforeMonth d.year (d.month + 1) = _ := daysBeforeMonth_succ hmonth.1
  unfold next
  split
  · simp only [number]
    omega
  · split
    · simp only [number, hsucc]
      omega
    · have hyear' := daysBeforeYear_succ hyear.1
      have hdecember : d.month + 1 = 13 := by omega
      have hjanuary : daysBeforeMonth (d.year + 1) 1 = 0 := rfl
      rw [← hdecember, hsucc] at hyear'
      simp only [number, hjanuary, hyear']
      omega

theorem Exists.next (h : d.Exists) (hlast : d ≠ last) : d.next.Exists := by
  obtain ⟨hyear, hmonth, hday, -⟩ := h
  unfold Day.next
  split
  · next hlt =>
    refine ⟨hyear, hmonth, ⟨Nat.le_add_left 1 d.day, hlt⟩, fun heq => ?_⟩
    have hsecond : d.day + 1 = 1 := congrArg Day.day heq
    omega
  · split
    · next hlt =>
      have hmonth' : 1 ≤ d.month + 1 ∧ d.month + 1 ≤ 12 := by omega
      refine ⟨hyear, hmonth', ⟨le_rfl, monthLength_pos hmonth'⟩, fun heq => ?_⟩
      have hjanuary : d.month + 1 = 1 := congrArg Day.month heq
      omega
    · next hend hlt =>
      have hdecember : d.month = 12 := by omega
      have hlength : monthLength d.year d.month = 31 := by
        rw [hdecember]
        rfl
      have hyear' : d.year + 1 ≤ 9999 := by
        by_contra hbeyond
        exact hlast (Day.ext (by simp only [last]; omega) hdecember (by simp only [last]; omega))
      refine ⟨⟨Nat.le_add_left 1 d.year, hyear'⟩, ⟨le_rfl, Nat.le_add_left 1 11⟩,
        ⟨le_rfl, monthLength_pos ⟨le_rfl, Nat.le_add_left 1 11⟩⟩, fun heq => ?_⟩
      have hfirst : d.year + 1 = 1 := congrArg Day.year heq
      omega

/-- Later days have larger numbers. -/
theorem number_lt (h : d.Exists) (h' : d'.Exists) (hlt : d.year < d'.year ∨
      d.year = d'.year ∧ (d.month < d'.month ∨ d.month = d'.month ∧ d.day < d'.day)) :
    d.number < d'.number := by
  obtain ⟨hyear, hmonth, hday, -⟩ := h
  obtain ⟨-, -, hday', -⟩ := h'
  rcases hlt with hearlier | ⟨hsame, hearlier | ⟨hsame', hearlier⟩⟩
  · have hmonths : _ ≤ daysBeforeMonth d.year 13 := daysBeforeMonth_lt hmonth.1 (by omega)
    have hyears := daysBeforeYear_lt hyear.1 hearlier
    simp only [number]
    omega
  · have hmonths : _ ≤ daysBeforeMonth d.year d'.month := daysBeforeMonth_lt hmonth.1 hearlier
    simp only [number, ← hsame]
    omega
  · simp only [number, ← hsame, ← hsame']
    omega

/-- Days with one number are one day. -/
theorem eq_of_number_eq (h : d.Exists) (h' : d'.Exists) (heq : d.number = d'.number) : d = d' := by
  have hlt := mt (number_lt h h') heq.not_lt
  have hgt := mt (number_lt h' h) heq.not_gt
  exact Day.ext (by omega) (by omega) (by omega)

/-- Every number from the first day's to the last day's is the number of a day. -/
theorem exists_number {number : Nat} (hlow : first.number ≤ number) (hhigh : number ≤ last.number) :
    ∃ d : Day, d.Exists ∧ d.number = number := by
  induction number, hlow using Nat.le_induction with
  | base => exact ⟨first, ⟨by decide, by decide, by decide, by decide⟩, rfl⟩
  | succ number hlow ih =>
    obtain ⟨d, hd, rfl⟩ := ih (by omega)
    have hlast : d ≠ last := by
      rintro rfl
      omega
    exact ⟨d.next, hd.next hlast, number_next hd⟩

theorem bounds_le (d : Day) : d.bounds.1 ≤ d.bounds.2 := by
  simp only [bounds, millisecondsPerDay]
  omega

/-- A moment is on the day whose number is that of its day. -/
theorem mem_bounds_iff : d.bounds.1 ≤ v ∧ v ≤ d.bounds.2 ↔
    v / millisecondsPerDay + epochDay = d.number := by
  simp only [bounds, sinceEpoch, millisecondsPerDay]
  omega

/-- Every moment from the first day to the last is on one day. -/
theorem existsUnique_mem_bounds (hlow : first.bounds.1 ≤ v) (hhigh : v ≤ last.bounds.2) :
    ∃! d : Day, d.Exists ∧ d.bounds.1 ≤ v ∧ v ≤ d.bounds.2 := by
  simp only [mem_bounds_iff]
  have hnumber : (v / millisecondsPerDay + epochDay).toNat = v / millisecondsPerDay + epochDay ∧
      first.number ≤ (v / millisecondsPerDay + epochDay).toNat ∧
      (v / millisecondsPerDay + epochDay).toNat ≤ last.number := by
    simp only [bounds, sinceEpoch, millisecondsPerDay, epochDay] at hlow hhigh ⊢
    omega
  obtain ⟨d, hd, hmem⟩ := exists_number hnumber.2.1 hnumber.2.2
  refine ⟨d, ⟨hd, by omega⟩, fun d' hd' => eq_of_number_eq hd'.1 hd (by omega)⟩

/-- The day after a day begins where that ends. -/
theorem bounds_next (h : d.Exists) : d.bounds.2 + 1 = d.next.bounds.1 := by
  simp only [bounds, sinceEpoch, number_next h, millisecondsPerDay]
  omega

end Day

end Cabinet.Calendar
