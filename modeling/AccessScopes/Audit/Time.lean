/-!
# Days and times of audit records

Decisions are stamped with the time in UTC to the second, as `YYYY-MM-DDThh:mm:ssZ`. Times are given
as seconds since the start of 1970. Years are counted from the first of March, so that the leap day
is the last day of a year, in cycles of four hundred years of 146097 days.
-/

namespace AccessScopes

/-- A number in decimal with at least the given number of digits. -/
def padded (width n : Nat) : String :=
  let digits := Nat.toDigits 10 n
  .ofList (List.replicate (width - digits.length) '0' ++ digits)

structure CalendarDay where
  year : Nat
  month : Nat
  day : Nat
  deriving DecidableEq

namespace CalendarDay

/-- The calendar day that comes a number of days after the start of 1970. -/
def ofDays (days : Nat) : CalendarDay :=
  let shifted := days + 719468
  let cycle := shifted / 146097
  let dayOfCycle := shifted % 146097
  let yearOfCycle := (dayOfCycle - dayOfCycle / 1460 + dayOfCycle / 36524 - dayOfCycle / 146096) / 365
  let dayOfYear := dayOfCycle - (365 * yearOfCycle + yearOfCycle / 4 - yearOfCycle / 100)
  let monthFromMarch := (5 * dayOfYear + 2) / 153
  let month := if monthFromMarch < 10 then monthFromMarch + 3 else monthFromMarch - 9
  { year := yearOfCycle + cycle * 400 + (if month ≤ 2 then 1 else 0)
    month
    day := dayOfYear - (153 * monthFromMarch + 2) / 5 + 1 }

/-- Writes a day as `YYYY-MM-DD`. -/
def render (date : CalendarDay) : String :=
  padded 4 date.year ++ "-" ++ padded 2 date.month ++ "-" ++ padded 2 date.day

example : ofDays 0 = ⟨1970, 1, 1⟩ := by decide

example : ofDays 11016 = ⟨2000, 2, 29⟩ := by decide

example : ofDays 47540 = ⟨2100, 2, 28⟩ ∧ ofDays 47541 = ⟨2100, 3, 1⟩ := by decide

end CalendarDay

/-- The stamp of a time in seconds since the start of 1970. -/
def timeStamp (seconds : Nat) : String :=
  let time := seconds % 86400
  (CalendarDay.ofDays (seconds / 86400)).render ++ "T" ++
    padded 2 (time / 3600) ++ ":" ++ padded 2 (time / 60 % 60) ++ ":" ++ padded 2 (time % 60) ++ "Z"

end AccessScopes
