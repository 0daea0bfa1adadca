import Amalgam.Number.Total
import Amalgam.Text.Slice
/-!
# Dates and moments

Days of the Gregorian calendar from the year one on, and moments of a day with an optional offset from universal time.
Two moments with offsets are the same when they name one instant; one with and one without an offset never are.
-/

namespace Amalgam

open Amalgam.Text

/-- A day. -/
structure Date where
  year : Nat
  month : Nat
  day : Nat
deriving DecidableEq, Repr

/-- A time of a day, to the microsecond, with the offset of its time zone in minutes if it has one. -/
structure Moment where
  date : Date
  hour : Nat
  minute : Nat
  second : Nat
  micro : Nat
  zone : Option Int := none
deriving DecidableEq, Repr

/-! ### The calendar -/

namespace Date

def isLeap (year : Nat) : Bool :=
  year % 4 = 0 && (year % 100 != 0 || year % 400 = 0)

def daysIn (year month : Nat) : Nat :=
  if month = 2 then (if isLeap year then 29 else 28) else if [4, 6, 9, 11].contains month then 30 else 31

/-- The days of all years before a year. -/
def daysBefore (year : Nat) : Nat :=
  let past := year - 1
  past * 365 + past / 4 - past / 100 + past / 400

/-- The number of a day, counted from the first day of the year one. -/
def number (d : Date) : Nat :=
  daysBefore d.year + Number.total ((List.range (d.month - 1)).map fun m => daysIn d.year (m + 1)) + d.day

end Date

/-- The microseconds from the start of the calendar to a moment, in universal time when its offset is known. -/
def Moment.instant (m : Moment) : Int :=
  (((m.date.number * 24 + m.hour : Nat) * 60 + m.minute - m.zone.getD 0) * 60 + m.second) * 1000000 + m.micro

/-- Whether two moments are one instant, or read the same on a clock when neither has an offset. -/
def Moment.same (a b : Moment) : Bool :=
  a.zone.isSome = b.zone.isSome && a.instant = b.instant

/-! ### Faults -/

/-- What is out of range in a date or moment. -/
inductive CalendarFault
  | offset (minutes : Int)
  | year (n : Nat)
  | month
  | day
  | hour
  | minute
  | second
deriving DecidableEq, Repr

/-- A span of minutes in days and seconds, the seconds never negative; a part that is zero is left out. -/
def spanLiteral (minutes : Int) : String :=
  let days := Int.fdiv minutes 1440
  let seconds := (minutes - days * 1440) * 60
  let parts := (if days = 0 then [] else ["days=" ++ numeral days]) ++
    if seconds = 0 then [] else ["seconds=" ++ numeral seconds]
  "datetime.timedelta(" ++ (if parts.isEmpty then "0" else joined ", " parts) ++ ")"

def CalendarFault.message : CalendarFault → String
  | offset minutes =>
    "offset must be a timedelta strictly between -timedelta(hours=24) and timedelta(hours=24), not " ++
      spanLiteral minutes ++ "."
  | year n => "year " ++ numeral n ++ " is out of range"
  | month => "month must be in 1..12"
  | day => "day is out of range for month"
  | hour => "hour must be in 0..23"
  | minute => "minute must be in 0..59"
  | second => "second must be in 0..59"

/-- A day that is in the calendar. -/
def Date.check (d : Date) : Except CalendarFault Date :=
  if d.year = 0 then .error (.year d.year)
  else if d.month = 0 || 12 < d.month then .error .month
  else if d.day = 0 || Date.daysIn d.year d.month < d.day then .error .day
  else .ok d

/-- A moment that is in the calendar; its offset is looked at first. -/
def Moment.check (m : Moment) : Except CalendarFault Moment := do
  if let some offset := m.zone then
    if 1440 ≤ offset.natAbs then throw (.offset offset)
  let _ ← m.date.check
  if 23 < m.hour then throw .hour
  if 59 < m.minute then throw .minute
  if 59 < m.second then throw .second
  return m

/-! ### Text -/

def zeroPadded (width n : Nat) : String :=
  String.ofList (padStart width '0' (Nat.toDigits 10 n))

def Date.shown (d : Date) : String :=
  zeroPadded 4 d.year ++ "-" ++ zeroPadded 2 d.month ++ "-" ++ zeroPadded 2 d.day

def Date.parts (d : Date) : List String :=
  [numeral d.year, numeral d.month, numeral d.day]

def Date.literal (d : Date) : String :=
  "datetime.date(" ++ joined ", " d.parts ++ ")"

def zoneShown (offset : Int) : String :=
  (if offset < 0 then "-" else "+") ++ zeroPadded 2 (offset.natAbs / 60) ++ ":" ++ zeroPadded 2 (offset.natAbs % 60)

def zoneLiteral (offset : Int) : String :=
  if offset = 0 then "datetime.timezone.utc" else "datetime.timezone(" ++ spanLiteral offset ++ ")"

def Moment.shown (m : Moment) : String :=
  m.date.shown ++ " " ++ zeroPadded 2 m.hour ++ ":" ++ zeroPadded 2 m.minute ++ ":" ++ zeroPadded 2 m.second ++
    (if m.micro = 0 then "" else "." ++ zeroPadded 6 m.micro) ++ (m.zone.map zoneShown).getD ""

/-- A literal leaves out the seconds and microseconds when nothing follows that is not zero. -/
def Moment.literal (m : Moment) : String :=
  let clock := [numeral m.hour, numeral m.minute] ++
    (if m.second = 0 && m.micro = 0 then [] else [numeral m.second]) ++ (if m.micro = 0 then [] else [numeral m.micro])
  "datetime.datetime(" ++ joined ", " (m.date.parts ++ clock) ++
    ((m.zone.map fun z => ", tzinfo=" ++ zoneLiteral z).getD "") ++ ")"

example : spanLiteral (-6039) = "datetime.timedelta(days=-5, seconds=69660)" := by decide
example : (Moment.mk ⟨2020, 1, 1⟩ 1 0 0 0 (some 60)).same (Moment.mk ⟨2020, 1, 1⟩ 0 0 0 0 (some 0)) = true := by decide

end Amalgam
