/-!
Points in time of the calendar, to the nanosecond and without a time zone. The second 59 of a minute
may be a leap second: its nanoseconds then run on from one to two billion, and it is written as
second 60.
-/
namespace SchemaChange

namespace Calendar

def isLeapYear (year : Int) : Bool := year % 4 == 0 && (year % 100 != 0 || year % 400 == 0)

def daysInMonth (year : Int) (month : Nat) : Nat :=
  if month = 2 then if isLeapYear year then 29 else 28
  else if month ∈ [4, 6, 9, 11] then 30
  else 31

def leastYear : Int := -262143

def greatestYear : Int := 262142

end Calendar

open Calendar

/-- The date is one of the calendar, and a leap second stands at second 59. -/
def IsTimestamp (year : Int) (month day hour minute second nanosecond : Nat) : Prop :=
  (leastYear ≤ year ∧ year ≤ greatestYear) ∧ (1 ≤ month ∧ month ≤ 12) ∧
    (1 ≤ day ∧ day ≤ daysInMonth year month) ∧ hour < 24 ∧ minute < 60 ∧ second < 60 ∧
    nanosecond < 2000000000 ∧ (1000000000 ≤ nanosecond → second = 59)

instance (year : Int) (month day hour minute second nanosecond : Nat) :
    Decidable (IsTimestamp year month day hour minute second nanosecond) := by
  unfold IsTimestamp
  infer_instance

structure Timestamp where
  year : Int
  month : Nat
  day : Nat
  hour : Nat
  minute : Nat
  second : Nat
  nanosecond : Nat := 0
  valid : IsTimestamp year month day hour minute second nanosecond
deriving DecidableEq

namespace Timestamp

def of? (year : Int) (month day hour minute second nanosecond : Nat) : Option Timestamp :=
  if h : IsTimestamp year month day hour minute second nanosecond then
    some ⟨year, month, day, hour, minute, second, nanosecond, h⟩
  else none

def isLeapSecond (t : Timestamp) : Bool := 1000000000 ≤ t.nanosecond

/-- The time without its fraction of a second; a leap second stays one. -/
def truncated (t : Timestamp) : Timestamp :=
  { t with
    nanosecond := if t.isLeapSecond then 1000000000 else 0
    valid := by
      obtain ⟨hy, hm, hd, hh, hmin, hs, _, hleap⟩ := t.valid
      refine ⟨hy, hm, hd, hh, hmin, hs, ?_, ?_⟩
      · split <;> decide
      · intro h
        by_cases hl : t.isLeapSecond = true
        · exact hleap (by simpa [isLeapSecond] using hl)
        · simp [hl] at h }

end Timestamp

end SchemaChange
