/-!
# Timestamps

Points in time on the calendar, in UTC, to the nanosecond. A minute may have a second 60, the leap
second. Days are counted by the Gregorian calendar for all years.
-/

namespace Switchboard

/-! ## Days -/

def isLeapYear (year : Int) : Bool := year % 4 = 0 && (year % 100 ≠ 0 || year % 400 = 0)

def daysInMonth (year : Int) (month : Nat) : Nat :=
  if month = 2 then (if isLeapYear year then 29 else 28)
  else if month = 4 ∨ month = 6 ∨ month = 9 ∨ month = 11 then 30
  else 31

theorem daysInMonth_pos (year : Int) (month : Nat) : 0 < daysInMonth year month := by
  unfold daysInMonth
  split
  · split <;> decide
  · split <;> decide

theorem daysInMonth_le (year : Int) (month : Nat) : daysInMonth year month ≤ 31 := by
  unfold daysInMonth
  split
  · split <;> decide
  · split <;> decide

structure Date where
  year : Int
  month : Nat
  day : Nat
  valid : 1 ≤ month ∧ month ≤ 12 ∧ 1 ≤ day ∧ day ≤ daysInMonth year month
  deriving DecidableEq, Repr

namespace Date

def ofCivil? (year : Int) (month day : Nat) : Option Date :=
  if h : 1 ≤ month ∧ month ≤ 12 ∧ 1 ≤ day ∧ day ≤ daysInMonth year month then
    some ⟨year, month, day, h⟩
  else none

theorem ofCivil?_self (date : Date) : ofCivil? date.year date.month date.day = some date := by
  simp [ofCivil?, date.valid]

def next (date : Date) : Date :=
  if h : date.day < daysInMonth date.year date.month then
    ⟨date.year, date.month, date.day + 1, by have := date.valid; omega⟩
  else if h : date.month < 12 then
    ⟨date.year, date.month + 1, 1, by
      have := daysInMonth_pos date.year (date.month + 1); omega⟩
  else ⟨date.year + 1, 1, 1, by have := daysInMonth_pos (date.year + 1) 1; omega⟩

def previous (date : Date) : Date :=
  if h : 1 < date.day then
    ⟨date.year, date.month, date.day - 1, by have := date.valid; omega⟩
  else if h : 1 < date.month then
    ⟨date.year, date.month - 1, daysInMonth date.year (date.month - 1), by
      have := daysInMonth_pos date.year (date.month - 1)
      have := date.valid
      omega⟩
  else ⟨date.year - 1, 12, 31, by simp [daysInMonth]⟩

end Date

/-! ## Points in time -/

structure Timestamp where
  date : Date
  hour : Nat
  minute : Nat
  second : Nat
  nanosecond : Nat
  valid : hour < 24 ∧ minute < 60 ∧ second ≤ 60 ∧ nanosecond < 1000000000
  deriving DecidableEq, Repr

namespace Timestamp

def epoch : Timestamp :=
  ⟨⟨1970, 1, 1, by decide⟩, 0, 0, 0, 0, by decide⟩

/-- The point in time at which clocks that are `offset` minutes ahead of UTC, by less than a day,
show this date and time of day. -/
def ofLocal? (date : Date) (hour minute second nanosecond : Nat) (offset : Int) :
    Option Timestamp :=
  let minutes : Int := (hour * 60 + minute : Nat) - offset
  let day := if minutes < 0 then date.previous else if 1440 ≤ minutes then date.next else date
  let time := (minutes % 1440).toNat
  if h : hour < 24 ∧ minute < 60 ∧ second ≤ 60 ∧ nanosecond < 1000000000 then
    some ⟨day, time / 60, time % 60, second, nanosecond, by omega⟩
  else none

end Timestamp

end Switchboard
