import Cabinet.Text.Digit

/-!
Calendar days, and moments in milliseconds since the first day of 1970.
-/

namespace Cabinet.Calendar

/-- A day of the calendar that is in use since 1582, carried back to the year 1. -/
structure Day where
  year : Nat
  month : Nat
  day : Nat
  deriving DecidableEq, Repr

def isLeapYear (year : Nat) : Bool :=
  year % 4 == 0 && (year % 100 != 0 || year % 400 == 0)

def monthLengths (year : Nat) : List Nat :=
  [31, if isLeapYear year then 29 else 28, 31, 30, 31, 30, 31, 31, 30, 31, 30, 31]

/-- The days of the years before a year. -/
def daysBeforeYear (year : Nat) : Nat :=
  let past := year - 1
  365 * past + past / 4 - past / 100 + past / 400

/-- The days of a year before a month, which is counted from one. -/
def daysBeforeMonth (year month : Nat) : Nat :=
  ((monthLengths year).take (month - 1)).foldr (· + ·) 0

/-- The number of the first day of 1970, where the first day of the year 1 has number 0. -/
def epochDay : Nat := 719162

namespace Day

/-- Days since the first day of the year 1. -/
def number (d : Day) : Nat :=
  daysBeforeYear d.year + daysBeforeMonth d.year d.month + (d.day - 1)

/-- Days since the first day of 1970. -/
def sinceEpoch (d : Day) : Int :=
  (d.number : Int) - epochDay

end Day

/-- A day by its numbers, if the calendar has it. The very first day is left out, because the day
before it is none. -/
def day? (year month day : Int) : Option Day :=
  if 1 ≤ year ∧ year ≤ 9999 ∧ 1 ≤ month ∧ month ≤ 12 ∧ 1 ≤ day then
    let lengths := monthLengths year.toNat
    if day.toNat ≤ (lengths[month.toNat - 1]?).getD 0 ∧ ¬(year = 1 ∧ month = 1 ∧ day = 1) then
      some ⟨year.toNat, month.toNat, day.toNat⟩
    else none
  else none

def millisecondsPerDay : Int := 86400000

/-- The first and the last millisecond of a day. -/
def Day.bounds (d : Day) : Int × Int :=
  let start := d.sinceEpoch * millisecondsPerDay
  (start, start + millisecondsPerDay - 1)

/-- The year that a day falls in, by the number of the day: of the years that can be meant, the last
that begins no later. -/
def yearOf (number : Nat) : Nat :=
  let guess := number / 366 + 1
  let later := (List.range 30).filter fun k => daysBeforeYear (guess + k) ≤ number
  guess + later.getLast?.getD 0

/-- The month and the day of the month, by the day's place in the year, which is counted from
zero. -/
def monthAndDay : List Nat → Nat → Nat × Nat
  | [], place => (1, place + 1)
  | length :: rest, place =>
    if place < length then (1, place + 1)
    else
      let (month, day) := monthAndDay rest (place - length)
      (month + 1, day)

/-- The day with a number. -/
def dayOf (number : Nat) : Day :=
  let year := yearOf number
  let (month, day) := monthAndDay (monthLengths year) (number - daysBeforeYear year)
  ⟨year, month, day⟩

/-- A moment as date and time with milliseconds. -/
def momentText (ms : Int) : List Char :=
  let d := dayOf (ms / millisecondsPerDay + epochDay).toNat
  let time := (ms % millisecondsPerDay).toNat
  let two := Text.paddedNat 2
  Text.paddedNat 4 d.year ++ '-' :: two d.month ++ '-' :: two d.day ++ 'T' ::
    two (time / 3600000) ++ ':' :: two (time / 60000 % 60) ++ ':' :: two (time / 1000 % 60) ++
    '.' :: Text.paddedNat 3 (time % 1000) ++ ['Z']

end Cabinet.Calendar
