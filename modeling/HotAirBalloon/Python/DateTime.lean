import Mathlib.Tactic

/-!
# UTC datetimes

A timezone-aware `datetime` in UTC is its number of microseconds since 1970-01-01, and a
`timedelta` a number of microseconds. `isoformat` writes it as Python does, the fraction only
when there is one.
-/

namespace HotAirBalloon.Python

abbrev DateTime := Int

namespace DateTime

def secondMicros : Int := 1000000
def dayMicros : Int := 86400 * secondMicros

/-- `timedelta(days=n)`. -/
def days (n : Int) : Int := n * dayMicros

/-- Year, month and day of a day number, by eras of 400 years that start in March. -/
def civil (day : Int) : Int × Int × Int :=
  let z := day + 719468
  let era := z / 146097
  let doe := z % 146097
  let yoe := (doe - doe / 1460 + doe / 36524 - doe / 146096) / 365
  let doy := doe - (365 * yoe + yoe / 4 - yoe / 100)
  let mp := (5 * doy + 2) / 153
  let month := if mp < 10 then mp + 3 else mp - 9
  let year := yoe + era * 400 + if month ≤ 2 then 1 else 0
  (year, month, doy - (153 * mp + 2) / 5 + 1)

/-- The decimal digits of `n`, padded with zeros to a width. -/
def padded (width : Nat) (n : Int) : String :=
  let digits := toString n.toNat
  String.ofList (List.replicate (width - digits.length) '0') ++ digits

/-- `d.isoformat()`. -/
def isoformat (d : DateTime) : String :=
  let (year, month, day) := civil (d / dayMicros)
  let micros := d % dayMicros
  let seconds := micros / secondMicros
  let fraction := micros % secondMicros
  padded 4 year ++ "-" ++ padded 2 month ++ "-" ++ padded 2 day ++ "T" ++
    padded 2 (seconds / 3600) ++ ":" ++ padded 2 (seconds / 60 % 60) ++ ":" ++
    padded 2 (seconds % 60) ++
    (if fraction = 0 then "" else "." ++ padded 6 fraction) ++ "+00:00"

end DateTime

example : DateTime.isoformat 1787904000000000 = "2026-08-28T08:00:00+00:00" := by decide

end HotAirBalloon.Python
