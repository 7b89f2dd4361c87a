import CiWorkflow.Text.Quoted

set_option autoImplicit false

namespace CiWorkflow

structure Date where
  year : Nat
  month : Nat
  day : Nat
  deriving DecidableEq, Repr

/-- A date with a time of day; `offset` is the distance from universal time in minutes. -/
structure Moment where
  date : Date
  hour : Nat
  minute : Nat
  second : Nat
  micro : Nat
  offset : Option Int
  deriving DecidableEq, Repr

inductive CalendarFault where
  | year (given : Nat)
  | month
  | day
  | hour
  | minute
  | second
  | offset (minutes : Int)
  deriving DecidableEq, Repr

namespace Date

def isLeap (year : Nat) : Bool := year % 4 == 0 && (year % 100 != 0 || year % 400 == 0)

def daysIn (year month : Nat) : Nat :=
  if month == 2 then (if isLeap year then 29 else 28)
  else if [4, 6, 9, 11].contains month then 30
  else 31

def check (d : Date) : Except CalendarFault Unit :=
  if d.year == 0 then .error (.year d.year)
  else if d.month == 0 || 12 < d.month then .error .month
  else if d.day == 0 || daysIn d.year d.month < d.day then .error .day
  else .ok ()

/-- Days since the first day of year 1. -/
def ordinal (d : Date) : Nat :=
  let y := d.year - 1
  let before := (List.range (d.month - 1)).foldr (fun m n => daysIn d.year (m + 1) + n) 0
  y * 365 + y / 4 - y / 100 + y / 400 + before + (d.day - 1)

end Date

def padded (width n : Nat) : String :=
  let ds := Nat.toDigits 10 n
  String.ofList (List.replicate (width - ds.length) '0' ++ ds)

def Date.iso (d : Date) : String := s!"{padded 4 d.year}-{padded 2 d.month}-{padded 2 d.day}"

namespace Moment

def check (t : Moment) : Except CalendarFault Unit := do
  match t.offset with
  | some m => if 1440 ≤ m.natAbs then throw (.offset m)
  | none => pure ()
  t.date.check
  if 24 ≤ t.hour then throw .hour
  if 60 ≤ t.minute then throw .minute
  if 60 ≤ t.second then throw .second

/-- Microseconds of universal time since the first moment of year 1. -/
def instant (t : Moment) : Int :=
  let minutes : Int := ((t.date.ordinal * 24 + t.hour) * 60 + t.minute : Nat)
  ((minutes - t.offset.getD 0) * 60 + t.second) * 1000000 + t.micro

def isoOffset (m : Int) : String :=
  (if m < 0 then "-" else "+") ++ padded 2 (m.natAbs / 60) ++ ":" ++ padded 2 (m.natAbs % 60)

def iso (t : Moment) : String :=
  let clock := s!"{padded 2 t.hour}:{padded 2 t.minute}:{padded 2 t.second}"
  let fraction := if t.micro == 0 then "" else "." ++ padded 6 t.micro
  t.date.iso ++ "T" ++ clock ++ fraction ++ (t.offset.map isoOffset).getD ""

end Moment

/-- A span of minutes as whole days and the seconds left, the days rounded down. -/
def spanText (minutes : Int) : String :=
  let days := minutes / 1440
  let seconds := minutes % 1440 * 60
  let parts := (if days == 0 then [] else [s!"days={days}"])
    ++ (if seconds == 0 then [] else [s!"seconds={seconds}"])
  "datetime.timedelta(" ++ (if parts.isEmpty then "0" else ", ".intercalate parts) ++ ")"

def Date.quoted (d : Date) : String := s!"datetime.date({d.year}, {d.month}, {d.day})"

def Moment.quoted (t : Moment) : String :=
  let clock := [t.hour, t.minute] ++
    (if t.second == 0 && t.micro == 0 then [] else [t.second]) ++
    (if t.micro == 0 then [] else [t.micro])
  let zone := match t.offset with
    | none => []
    | some m =>
      [if m == 0 then "tzinfo=datetime.timezone.utc"
       else "tzinfo=datetime.timezone(" ++ spanText m ++ ")"]
  let fields := [t.date.year, t.date.month, t.date.day] ++ clock
  "datetime.datetime(" ++ ", ".intercalate (fields.map toString ++ zone) ++ ")"

def CalendarFault.message : CalendarFault → String
  | .year given => s!"year {given} is out of range"
  | .month => "month must be in 1..12"
  | .day => "day is out of range for month"
  | .hour => "hour must be in 0..23"
  | .minute => "minute must be in 0..59"
  | .second => "second must be in 0..59"
  | .offset m =>
    "offset must be a timedelta strictly between -timedelta(hours=24) and timedelta(hours=24), not "
      ++ spanText m ++ "."

end CiWorkflow
