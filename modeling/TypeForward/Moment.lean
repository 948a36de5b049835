/-! Calendar dates and times of day, as configuration documents hold them. -/
namespace TypeForward

structure Date where
  year : Nat
  month : Nat
  day : Nat
  deriving DecidableEq

structure ClockTime where
  hour : Nat
  minute : Nat
  second : Nat
  microsecond : Nat
  deriving DecidableEq

/-- The offset from universal time is in minutes. -/
inductive Moment where
  | date (day : Date)
  | time (clock : ClockTime)
  | dateTime (day : Date) (clock : ClockTime) (offset : Option Int)
  deriving DecidableEq

namespace Date

def isLeap (year : Nat) : Bool :=
  year % 4 == 0 && (year % 100 != 0 || year % 400 == 0)

def daysIn (year month : Nat) : Nat :=
  if month = 2 then (if isLeap year then 29 else 28)
  else if month = 4 ∨ month = 6 ∨ month = 9 ∨ month = 11 then 30 else 31

/-- A day of the calendar, which starts with year one. -/
def isValid (d : Date) : Bool :=
  decide (1 ≤ d.year ∧ 1 ≤ d.month ∧ d.month ≤ 12 ∧ 1 ≤ d.day ∧ d.day ≤ daysIn d.year d.month)

/-- The number of the day, counted from the start of the calendar. -/
def ordinal (d : Date) : Nat :=
  let years := d.year - 1
  (List.range' 1 (d.month - 1)).foldl (fun days month => days + daysIn d.year month)
    (365 * years + years / 4 - years / 100 + years / 400 + d.day)

end Date

namespace Moment

/-- The microsecond in universal time, for those that know their offset from it. -/
def instant? : Moment → Option Int
  | dateTime d t (some offset) =>
    some (((((d.ordinal : Int) * 24 + t.hour) * 60 + t.minute - offset) * 60 + t.second) * 1000000 + t.microsecond)
  | _ => none

/-- A number in decimal, filled up with zeros in front. -/
def padded (width n : Nat) : String :=
  let digits := Nat.toDigits 10 n
  String.ofList (List.replicate (width - digits.length) '0' ++ digits)

def dateText (d : Date) : String :=
  padded 4 d.year ++ "-" ++ padded 2 d.month ++ "-" ++ padded 2 d.day

/-- Microseconds are written only if there are any. -/
def clockText (t : ClockTime) : String :=
  padded 2 t.hour ++ ":" ++ padded 2 t.minute ++ ":" ++ padded 2 t.second
    ++ (if t.microsecond = 0 then "" else "." ++ padded 6 t.microsecond)

def offsetText (offset : Int) : String :=
  (if offset < 0 then "-" else "+") ++ padded 2 (offset.natAbs / 60) ++ ":" ++ padded 2 (offset.natAbs % 60)

/-- The text of a moment, with a sign between the day and the time of day. -/
def textWith (sign : String) : Moment → String
  | date d => dateText d
  | time t => clockText t
  | dateTime d t offset => dateText d ++ sign ++ clockText t ++ (offset.map offsetText).getD ""

def text (m : Moment) : String :=
  m.textWith "T"

def joined (numbers : List Nat) : String :=
  String.intercalate ", " (numbers.map toString)

/-- The numbers of a time of day. Seconds are left out if they are zero and nothing comes after them. -/
def clockNumbers (t : ClockTime) : List Nat :=
  [t.hour, t.minute] ++
    (if t.microsecond ≠ 0 then [t.second, t.microsecond] else if t.second ≠ 0 then [t.second] else [])

/-- An offset in seconds, after whole days. No offset comes to a day. -/
def printedOffset (offset : Int) : String :=
  if offset = 0 then "datetime.timezone.utc"
  else
    "datetime.timezone(datetime.timedelta(" ++ (if offset < 0 then "days=-1, " else "")
      ++ "seconds=" ++ toString (60 * offset % 86400) ++ "))"

/-- The printed form of a moment: its parts as numbers. -/
def printed : Moment → String
  | date d => "datetime.date(" ++ joined [d.year, d.month, d.day] ++ ")"
  | time t => "datetime.time(" ++ joined (clockNumbers t) ++ ")"
  | dateTime d t offset =>
    "datetime.datetime(" ++ joined ([d.year, d.month, d.day] ++ clockNumbers t)
      ++ (offset.map fun minutes => ", tzinfo=" ++ printedOffset minutes).getD "" ++ ")"

end Moment

end TypeForward
