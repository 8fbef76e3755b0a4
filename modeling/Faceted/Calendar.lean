import Faceted.Text.Blank

/-!
# Dates

A date is a number of milliseconds since the start of 1970 in UTC. Texts are read in the forms of
ISO 8601 and some relaxations of them: a full date and time with an offset, a date and time without
one (taken as UTC), a date, a year and month, or a year. Writing always gives a full date and time in
UTC.

The calendar is the proleptic Gregorian one, over the years `minYear` to `maxYear`.

Dates belong to the package `chrono` (version 0.4), whose documented behaviour this file follows: the
range of its years, its strict form after RFC 3339, and its format specifiers. For these a number may
have blanks before it and fewer digits than it has room for, a fraction is cut after nine digits, a blank
in a format stands for any number of blanks, and the sixtieth second of a minute is read as a leap
second. The last two forms, a year and month and a year, are patterns of this library's own.
-/

namespace Faceted.Calendar

open Faceted.Text

/-! ## 1. Days -/

def minYear : Int := -262143
def maxYear : Int := 262142

def isLeapYear (y : Int) : Bool := y % 4 == 0 && (y % 100 != 0 || y % 400 == 0)

/-- The number of days of a month; zero for no month. -/
def monthLength (y : Int) (m : Nat) : Nat :=
  match m with
  | 1 | 3 | 5 | 7 | 8 | 10 | 12 => 31
  | 4 | 6 | 9 | 11 => 30
  | 2 => if isLeapYear y then 29 else 28
  | _ => 0

/-- Is there such a day in the calendar? -/
def isDay (y : Int) (m d : Nat) : Bool :=
  minYear ≤ y && y ≤ maxYear && 1 ≤ d && d ≤ monthLength y m

/-- Days from the first of January 1970. Years are counted from March, so that a leap day is the last
    day of its year; `146097` is the number of days of four hundred years. -/
def dayNumber (y : Int) (m d : Nat) : Int :=
  let marchYear := if m ≤ 2 then y - 1 else y
  let marchMonth : Int := if m ≤ 2 then (m : Int) + 9 else (m : Int) - 3
  let era := marchYear / 400
  let yearOfEra := marchYear % 400
  let dayOfYear := (153 * marchMonth + 2) / 5 + d - 1
  era * 146097 + yearOfEra * 365 + yearOfEra / 4 - yearOfEra / 100 + dayOfYear - 719468

/-- Year, month and day of a day number. -/
def dayOf (days : Int) : Int × Nat × Nat :=
  let shifted := days + 719468
  let era := shifted / 146097
  let dayOfEra := shifted % 146097
  let yearOfEra := (dayOfEra - dayOfEra / 1460 + dayOfEra / 36524 - dayOfEra / 146096) / 365
  let dayOfYear := dayOfEra - (365 * yearOfEra + yearOfEra / 4 - yearOfEra / 100)
  let marchMonth := (5 * dayOfYear + 2) / 153
  let day := dayOfYear - (153 * marchMonth + 2) / 5 + 1
  let month := if marchMonth < 10 then marchMonth + 3 else marchMonth - 9
  let year := yearOfEra + era * 400 + (if month ≤ 2 then 1 else 0)
  (year, month.toNat, day.toNat)

/-- Milliseconds of a day. -/
def dayMillis : Int := 86400000

/-- The first and the last millisecond of the calendar. -/
def minMillis : Int := dayNumber minYear 1 1 * dayMillis
def maxMillis : Int := (dayNumber maxYear 12 31 + 1) * dayMillis - 1

/-! ## 2. Reading pieces -/

/-- A reader of one piece of a text: what it read and what follows, or nothing. -/
abbrev Reader := StateT (List Char) Option

namespace Reader

/-- Reads the given character. -/
def char (c : Char) : Reader Unit := fun cs =>
  match cs with
  | x :: rest => if x = c then some ((), rest) else none
  | [] => none

def skipBlanks : Reader Unit := fun cs => some ((), trimStart cs)

/-- Reads at least `least` and at most `most` ASCII digits. -/
def digits (least most : Nat) : Reader (List Char) := fun cs =>
  let ds := (cs.take most).takeWhile Char.isDigit
  if least ≤ ds.length then some (ds, cs.drop ds.length) else none

/-- The value of ASCII digits. -/
def value (ds : List Char) : Nat := ds.foldl (fun n c => 10 * n + (c.toNat - 0x30)) 0

def number (least most : Nat) : Reader Nat := do return value (← digits least most)

/-- A number of up to `most` digits, blanks before it allowed. -/
def field (most : Nat) : Reader Nat := do
  skipBlanks
  number 1 most

/-- A year: up to four digits, or a sign and any number of digits. -/
def year : Reader Int := do
  skipBlanks
  match ← get with
  | '-' :: rest =>
    set rest
    let n ← number 1 rest.length
    return -(n : Int)
  | '+' :: rest =>
    set rest
    let n ← number 1 rest.length
    return (n : Int)
  | _ => return (← number 1 4 : Nat)

/-- The digits after a point as milliseconds. From the tenth digit on they are read and ignored. -/
def fraction : Reader Nat := do
  match ← get with
  | '.' :: rest =>
    set rest
    let ds ← digits 1 9
    modify (·.dropWhile Char.isDigit)
    return value ((ds ++ ['0', '0', '0']).take 3)
  | _ => return 0

/-- Nothing may follow. -/
def done : Reader Unit := fun cs => if cs.isEmpty then some ((), []) else none

end Reader

open Reader

/-! ## 3. Reading dates and times -/

/-- A day read from a text, as a day number. -/
def day? (y : Int) (m d : Nat) : Option Int :=
  if isDay y m d then some (dayNumber y m d) else none

/-- The milliseconds of a time of day. The sixtieth second of a minute is a leap second. -/
def time? (hour minute second milli : Nat) : Option Int :=
  if hour < 24 ∧ minute < 60 ∧ second ≤ 60 then
    some (((hour * 60 + minute) * 60 + second) * 1000 + milli : Nat)
  else none

/-- `year-month-day`. -/
def date : Reader Int := do
  let y ← year
  char '-'
  let m ← field 2
  char '-'
  let d ← field 2
  day? y m d

/-- What stands between a date and a time: the letter, or any blanks. -/
def separator (letter : Bool) : Reader Unit := if letter then char 'T' else skipBlanks

/-- `hour:minute`. -/
def shortTime : Reader Int := do
  let h ← field 2
  char ':'
  let m ← field 2
  time? h m 0 0

/-- `hour:minute:second` with a fraction if `withFraction`. -/
def longTime (withFraction : Bool) : Reader Int := do
  let h ← field 2
  char ':'
  let m ← field 2
  char ':'
  let s ← field 2
  let f ← if withFraction then fraction else pure 0
  time? h m s f

/-- The sign of an offset; the minus may also be the mathematical one. -/
def offsetSign : Reader Int := fun cs =>
  match cs with
  | '+' :: rest => some (1, rest)
  | '-' :: rest => some (-1, rest)
  | '−' :: rest => some (-1, rest)
  | _ => none

/-- An offset in milliseconds; `between` reads what may stand between its hours and minutes. -/
def offset (between : Reader Unit) : Reader Int := do
  let sign ← offsetSign
  let h ← number 2 2
  between
  let m ← number 2 2
  if m < 60 ∧ h < 24 then return sign * ((h * 60 + m) * 60000 : Nat) else failure

/-- Colons and blanks. -/
def colonsAndBlanks : Reader Unit := fun cs =>
  some ((), cs.dropWhile fun c => c == ':' || isBlank c)

/-- Fixed-width date, time and offset, the strict form. -/
def strictMoment : Reader Int := do
  let y ← number 4 4
  char '-'
  let m ← number 2 2
  char '-'
  let d ← number 2 2
  let days ← day? y m d
  match ← get with
  | c :: rest => if c = 'T' ∨ c = 't' ∨ c = ' ' then set rest else failure
  | [] => failure
  let h ← number 2 2
  char ':'
  let min ← number 2 2
  char ':'
  let s ← number 2 2
  let f ← fraction
  let time ← time? h min s f
  let zone ←
    match ← get with
    | c :: rest =>
      if c = 'Z' ∨ c = 'z' then do
        set rest
        pure 0
      else offset (char ':')
    | [] => failure
  return days * dayMillis + time - zone

/-- Date and time without an offset, taken as UTC. -/
def localMoment (letter : Bool) (time : Reader Int) : Reader Int := do
  let days ← date
  separator letter
  let millis ← time
  return days * dayMillis + millis

/-- Date and time with an offset in a relaxed form. -/
def zonedMoment (withFraction : Bool) : Reader Int := do
  let millis ← localMoment true (longTime withFraction)
  skipBlanks
  let zone ← offset colonsAndBlanks
  let moment := millis - zone
  if minMillis ≤ moment ∧ moment ≤ maxMillis then return moment else failure

/-- A day alone stands for its first millisecond. -/
def dayMoment : Reader Int := do return (← date) * dayMillis

/-- A year of up to four digits, perhaps negative, without blanks before it. -/
def plainYear : Reader Int := do
  match ← get with
  | '-' :: rest =>
    set rest
    return -((← number 1 4 : Nat) : Int)
  | _ => return (← number 1 4 : Nat)

/-- `year-month` stands for the first day of the month. -/
def monthMoment : Reader Int := do
  let y ← plainYear
  char '-'
  let m ← number 1 2
  let days ← day? y m 1
  return days * dayMillis

/-- A year stands for its first day. -/
def yearMoment : Reader Int := do
  let y ← plainYear
  let days ← day? y 1 1
  return days * dayMillis

/-- The accepted forms, the first that fits the whole text wins. -/
def forms : List (Reader Int) :=
  [strictMoment, localMoment true (longTime true), localMoment false (longTime true),
    localMoment true shortTime, localMoment false shortTime, zonedMoment true, zonedMoment false,
    dayMoment, monthMoment, yearMoment]

/-- The moment a text denotes, blanks around it ignored. -/
def parse? (s : String) : Option Int :=
  let cs := trim s.toList
  forms.findSome? fun form => (do let moment ← form; done; return moment : Reader Int).run' cs

/-! ## 4. Writing -/

/-- A number with at least `width` digits. -/
def padded (width n : Nat) : String :=
  let ds := Nat.toDigits 10 n
  String.ofList (List.replicate (width - ds.length) '0' ++ ds)

/-- A year has four digits, and a sign if it has more or is negative. -/
def yearText (y : Int) : String :=
  if 0 ≤ y ∧ y ≤ 9999 then padded 4 y.toNat
  else (if y < 0 then "-" else "+") ++ padded 4 y.natAbs

/-- The moment as a date and time in UTC, to the second; `none` outside the calendar. -/
def format? (millis : Int) : Option String :=
  if minMillis ≤ millis ∧ millis ≤ maxMillis then
    let (y, m, d) := dayOf (millis / dayMillis)
    let seconds := (millis % dayMillis / 1000).toNat
    some (yearText y ++ "-" ++ padded 2 m ++ "-" ++ padded 2 d ++ "T" ++
      padded 2 (seconds / 3600) ++ ":" ++ padded 2 (seconds / 60 % 60) ++ ":" ++
      padded 2 (seconds % 60) ++ "Z")
  else none

end Faceted.Calendar
