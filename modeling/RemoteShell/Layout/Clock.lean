import RemoteShell.Text.Numeral

/-!
# Points in time

Times come from the service as milliseconds since the beginning of 1970 in universal time and are shown in local time,
by the Gregorian calendar in both directions without end. Years outside 0 to 9999 carry a sign. A time whose day in
universal time lies outside the years -262143 to 262142 is not shown at all.

Main statements:

* `monthLength_pos`: every month has a day.
-/

namespace RemoteShell.Clock

/-- A day of the calendar. -/
structure Date where
  year : Int
  month : Nat
  day : Nat
deriving DecidableEq, Repr

/-- Whether a year has a leap day. -/
def isLeap (year : Int) : Bool :=
  year % 4 == 0 && (year % 100 != 0 || year % 400 == 0)

/-- How many days a month has; the months are counted from one. -/
def monthLength (year : Int) (month : Nat) : Nat :=
  match month with
  | 2 => if isLeap year then 29 else 28
  | 4 | 6 | 9 | 11 => 30
  | _ => 31

/-- How many days of the calendar lie before the first of January of a year, counted from that of the year zero. -/
def daysBeforeYear (year : Int) : Int :=
  let before := year - 1
  365 * year + before / 4 - before / 100 + before / 400 + 1

/-- How many days lie between the first of January of the year zero and that of 1970. -/
def epochDay : Int := daysBeforeYear 1970

/-- The month and the day of the month of a day of the year, counted from zero, starting at a month. -/
def monthDay (year : Int) : Nat → Nat → Nat → Nat × Nat
  | 0, month, day => (month, day + 1)
  | left + 1, month, day =>
    if day < monthLength year month then (month, day + 1)
    else monthDay year left (month + 1) (day - monthLength year month)

/-- The year of a day that is counted from the first of January of the year zero. -/
def yearOf (day : Int) : Int :=
  let guess := day * 400 / 146097
  if daysBeforeYear (guess + 1) ≤ day then guess + 1
  else if day < daysBeforeYear guess then guess - 1
  else guess

/-- The date of a day that is counted from the first of January 1970. -/
def dateOf (sinceEpoch : Int) : Date :=
  let day := sinceEpoch + epochDay
  let year := yearOf day
  let (month, dayOfMonth) := monthDay year 11 1 (day - daysBeforeYear year).toNat
  { year, month, day := dayOfMonth }

/-- The days of the week, from the first day of 1970. -/
def weekdays : List String := ["Thu", "Fri", "Sat", "Sun", "Mon", "Tue", "Wed"]

/-- The months of the year. -/
def months : List String :=
  ["Jan", "Feb", "Mar", "Apr", "May", "Jun", "Jul", "Aug", "Sep", "Oct", "Nov", "Dec"]

/-- A number with at least two digits. -/
def twoDigits (n : Nat) : String :=
  String.ofList (Text.padZeros 2 (Text.writeNat n))

/-- A year with at least four digits, signed outside 0 to 9999. -/
def renderYear (year : Int) : String :=
  let digits := String.ofList (Text.padZeros 4 (Text.writeNat year.natAbs))
  if year < 0 then "-" ++ digits else if 9999 < year then "+" ++ digits else digits

/-- The distance of local from universal time, in hours and minutes. -/
def renderZone (zone : Int) : String :=
  (if zone < 0 then "-" else "+") ++ twoDigits (zone.natAbs / 60) ++ ":" ++ twoDigits (zone.natAbs % 60)

/-- The milliseconds of a day. -/
def dayMillis : Int := 86400000

/-- Whether the day of a time in universal time can be shown. -/
def isShown (millis : Int) : Bool :=
  let day := millis / dayMillis + epochDay
  daysBeforeYear (-262143) ≤ day && day < daysBeforeYear 262143

/-- A time as it is shown, for instance `Tue, Mar 05, 2024, 06:45:09 PM +05:30`; nothing if it cannot be shown. The
zone is given in minutes ahead of universal time. -/
def render (zone : Int) (millis : Int) : String :=
  if !isShown millis then ""
  else
    let seconds := millis / 1000 + zone * 60
    let day := seconds / 86400
    let second := (seconds % 86400).toNat
    let date := dateOf day
    let hour := second / 3600
    let half := if hour % 12 = 0 then 12 else hour % 12
    weekdays.getD (day % 7).toNat "" ++ ", " ++ months.getD (date.month - 1) "" ++ " " ++ twoDigits date.day ++ ", " ++
      renderYear date.year ++ ", " ++ twoDigits half ++ ":" ++ twoDigits (second / 60 % 60) ++ ":" ++
      twoDigits (second % 60) ++ " " ++ (if hour < 12 then "AM" else "PM") ++ " " ++ renderZone zone

/-- Every month has a day. -/
theorem monthLength_pos (year : Int) (month : Nat) : 0 < monthLength year month := by
  unfold monthLength
  split
  · split <;> decide
  · decide
  · decide
  · decide
  · decide
  · decide

end RemoteShell.Clock
