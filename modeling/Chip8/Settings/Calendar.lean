import Chip8.Settings.Datum

/-!
# The calendar

Which days and points in time there are, by the rule of leap years that leaves out three of four full
centuries, and when two points in time are the same instant.
-/

namespace Chip8

def isLeapYear (year : Nat) : Bool := year % 4 = 0 && (year % 100 ≠ 0 || year % 400 = 0)

/-- The days of a month, counted from one. -/
def daysIn (year month : Nat) : Nat :=
  if month = 2 then if isLeapYear year then 29 else 28
  else if month ∈ [4, 6, 9, 11] then 30
  else 31

/-- The days from the first day of year one to a day. -/
def Date.dayNumber (d : Date) : Nat :=
  let before := d.year - 1
  before * 365 + before / 4 - before / 100 + before / 400
    + (List.range (d.month - 1)).foldl (fun (n m : Nat) => n + daysIn d.year (m + 1)) 0 + (d.day - 1)

/-- The microseconds from the first day of year one, by the clock on the wall. -/
def Moment.onClock (m : Moment) : Int :=
  (((m.date.dayNumber * 24 + m.hour) * 60 + m.minute) * 60 + m.second) * 1000000 + m.microsecond

/-- Whether two points in time are the same: those with an offset by their instants, those without one by the
clock on the wall. -/
def Moment.same (m n : Moment) : Bool :=
  match m.offset, n.offset with
  | none, none => m.onClock = n.onClock
  | some a, some b => m.onClock - a * 60000000 = n.onClock - b * 60000000
  | _, _ => false

example : daysIn 1900 2 = 28 ∧ daysIn 2000 2 = 29 ∧ (Date.mk 1 1 1).dayNumber = 0
    ∧ (Date.mk 2001 1 1).dayNumber = 730485 := by decide +kernel

end Chip8
