import FlashBench.Text.Layout

/-!
# Dates and times

A moment is a date, a time of day, or both with or without an offset. Days are checked against the
calendar; a minute may have a leap second.
-/

namespace FlashBench.Toml

/-- A day of the calendar. -/
structure Date where
  year : Nat
  month : Nat
  day : Nat
deriving DecidableEq, Repr, Inhabited

namespace Date

/-- A year of 366 days. -/
def isLeapYear (year : Nat) : Bool := year % 4 == 0 && (year % 100 != 0 || year % 400 == 0)

/-- The days of a month. -/
def daysIn (year month : Nat) : Nat :=
  if month = 2 then (if isLeapYear year then 29 else 28)
  else if month ∈ [4, 6, 9, 11] then 30
  else 31

/-- The date is a day of the calendar. -/
def isValid (date : Date) : Bool :=
  1 ≤ date.month && date.month ≤ 12 && 1 ≤ date.day && date.day ≤ daysIn date.year date.month

/-- The date as `1979-05-27`. -/
def text (date : Date) : String :=
  s!"{Text.decimalWide 4 date.year}-{Text.decimalWide 2 date.month}-{Text.decimalWide 2 date.day}"

end Date

/-- A time of day. -/
structure TimeOfDay where
  hour : Nat
  minute : Nat
  second : Nat
  nanosecond : Nat := 0
deriving DecidableEq, Repr, Inhabited

namespace TimeOfDay

/-- The time is one a clock can show, leap seconds included. -/
def isValid (time : TimeOfDay) : Bool := time.hour ≤ 23 && time.minute ≤ 59 && time.second ≤ 60

/-- The fraction of a second behind a point, without zeros at its end; nothing for a whole
second. -/
def fractionText (time : TimeOfDay) : String :=
  if time.nanosecond = 0 then ""
  else
    let digits := (Text.decimalWide 9 time.nanosecond).toList.reverse.dropWhile (· == '0')
    String.ofList ('.' :: digits.reverse)

/-- The time as `07:32:00.25`. -/
def text (time : TimeOfDay) : String :=
  s!"{Text.decimalWide 2 time.hour}:{Text.decimalWide 2 time.minute}:"
    ++ Text.decimalWide 2 time.second ++ time.fractionText

end TimeOfDay

/-- How far local time is from universal time. -/
inductive Offset where
  | universal
  /-- Local time is ahead by some minutes. -/
  | ahead (minutes : Int)
deriving DecidableEq, Repr, Inhabited

/-- The offset as `Z` or `-07:00`. -/
def Offset.text : Offset → String
  | universal => "Z"
  | ahead minutes =>
    let sign := if minutes < 0 then "-" else "+"
    let size := minutes.natAbs
    sign ++ s!"{Text.decimalWide 2 (size / 60)}:{Text.decimalWide 2 (size % 60)}"

/-- A date, a time of day, or both. -/
structure Moment where
  date : Option Date := none
  time : Option TimeOfDay := none
  offset : Option Offset := none
deriving DecidableEq, Repr, Inhabited

/-- The moment as it is written in a document. -/
def Moment.text (moment : Moment) : String :=
  let date := (moment.date.map Date.text).getD ""
  let time := (moment.time.map TimeOfDay.text).getD ""
  let between := if moment.date.isSome && moment.time.isSome then "T" else ""
  date ++ between ++ time ++ (moment.offset.map Offset.text).getD ""

/-- The key of the table that a moment is where it has to be a table: the moment is its only value,
as a text. -/
def momentKey : String := "$__toml_private_datetime"

end FlashBench.Toml
