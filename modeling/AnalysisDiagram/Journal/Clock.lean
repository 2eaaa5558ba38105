/-
  AnalysisDiagram.Journal.Clock
  ─────────────────────────────
  Points in time as a log shows them: `YYYY-MM-DD HH:MM:SS`, in UTC.

  Years are counted from the first of March, so that the leap day comes last;
  146097 days make up four centuries.  Points in time that are too far away are
  not shown.
-/
import AnalysisDiagram.Number.Decimal

namespace AnalysisDiagram.Journal

/-- Year, month and day of a day counted from the first of January 1970. -/
def civil (day : Int) : Int × Nat × Nat :=
  let shifted := day + 719468
  let era := shifted.fdiv 146097
  let dayOfEra := (shifted.fmod 146097).toNat
  let yearOfEra :=
    (dayOfEra - dayOfEra / 1460 + dayOfEra / 36524 - dayOfEra / 146096) / 365
  let dayOfYear := dayOfEra - (365 * yearOfEra + yearOfEra / 4 - yearOfEra / 100)
  let monthFromMarch := (5 * dayOfYear + 2) / 153
  let dayOfMonth := dayOfYear - (153 * monthFromMarch + 2) / 5 + 1
  let month := if monthFromMarch < 10 then monthFromMarch + 3 else monthFromMarch - 9
  let year := (yearOfEra : Int) + era * 400 + (if month ≤ 2 then 1 else 0)
  (year, month, dayOfMonth)

/-- A number below one hundred in two digits. -/
def twoDigits (n : Nat) : String := String.ofList (Number.paddedDigits 2 n)

/-- A point in time, in seconds since the beginning of 1970. -/
def timestamp (seconds : Int) : String :=
  let (year, month, day) := civil (seconds.fdiv 86400)
  let second := (seconds.fmod 86400).toNat
  Number.intText year ++ "-" ++ twoDigits month ++ "-" ++ twoDigits day ++ " "
    ++ twoDigits (second / 3600) ++ ":" ++ twoDigits (second / 60 % 60) ++ ":"
    ++ twoDigits (second % 60)

/-- Why a point in time is not shown. -/
inductive ClockFault where
  /-- Its seconds, or its year, have no machine number. -/
  | tooFar
  /-- Its year has no machine number even when counted from 1900. -/
  | noDate
  /-- Its seconds are not a number. -/
  | notNumber
  /-- It is no point in time at all. -/
  | notTime
  deriving Repr, DecidableEq

/-- What is wrong with a point in time. -/
def clockFault? (seconds : Int) : Option ClockFault :=
  let year := (civil (seconds.fdiv 86400)).1
  if seconds < -0x8000000000000000 ∨ 0x8000000000000000 ≤ seconds then some .tooFar
  else if year - 1900 < -0x80000000 ∨ 0x80000000 ≤ year - 1900 then some .noDate
  else if 0x80000000 ≤ year then some .tooFar
  else none

end AnalysisDiagram.Journal
