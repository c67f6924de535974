import PodTraffic.Text

/-!
# Timestamps

A date and a time of day at an offset from universal time. Reading takes numbers without leading
zeros, white space before any of them and before marks, and fractions of a second, which it drops.
Writing is in universal time, to the second. A reader yields what it found and the rest of the text.
-/
namespace PodTraffic

/-- A day of the calendar, which is extended to years before the first. -/
structure Date where
  year : Int
  month : Nat
  day : Nat
  deriving DecidableEq, Repr

namespace Date

def daysIn (year : Int) (month : Nat) : Nat :=
  if month == 2 then
    if year % 4 == 0 && (year % 100 != 0 || year % 400 == 0) then 29 else 28
  else if [4, 6, 9, 11].contains month then 30 else 31

def firstYear : Int := -262143

def lastYear : Int := 262142

def isKnown (d : Date) : Bool :=
  firstYear ≤ d.year && d.year ≤ lastYear && 1 ≤ d.month && d.month ≤ 12 && 1 ≤ d.day &&
    d.day ≤ daysIn d.year d.month

def next (d : Date) : Date :=
  if d.day < daysIn d.year d.month then { d with day := d.day + 1 }
  else if d.month < 12 then ⟨d.year, d.month + 1, 1⟩
  else ⟨d.year + 1, 1, 1⟩

def previous (d : Date) : Date :=
  if 1 < d.day then { d with day := d.day - 1 }
  else if 1 < d.month then ⟨d.year, d.month - 1, daysIn d.year (d.month - 1)⟩
  else ⟨d.year - 1, 12, 31⟩

/-- Years that do not have four digits take a sign. -/
def yearText (year : Int) : String :=
  if year < 0 then "-" ++ Text.padded '0' 4 year.natAbs
  else if 9999 < year then "+" ++ toString year.natAbs
  else Text.padded '0' 4 year.natAbs

def text (d : Date) : String :=
  yearText d.year ++ "-" ++ Text.padded '0' 2 d.month ++ "-" ++ Text.padded '0' 2 d.day

end Date

/-- A minute may have a second numbered 60. -/
structure Clock where
  hour : Nat
  minute : Nat
  second : Nat
  deriving DecidableEq, Repr

def Clock.text (c : Clock) : String :=
  Text.padded '0' 2 c.hour ++ ":" ++ Text.padded '0' 2 c.minute ++ ":" ++ Text.padded '0' 2 c.second

/-- In universal time. -/
structure Timestamp where
  date : Date
  clock : Clock
  deriving DecidableEq, Repr

namespace Timestamp

/-- An offset is shorter than a day, so the date moves by at most one. -/
def ofLocal (d : Date) (c : Clock) (ahead : Int) : Timestamp :=
  let minutes := c.hour * 60 + c.minute - ahead
  let ofDay := (minutes % 1440).toNat
  { date := if minutes < 0 then d.previous else if minutes < 1440 then d else d.next
    clock := { c with hour := ofDay / 60, minute := ofDay % 60 } }

/-- Blanks, then a number of at most `width` digits between `low` and `high`. -/
def number? (width low high : Nat) (cs : List Char) : Option (Nat × List Char) := do
  let cs := Text.dropBlankStart cs
  let digits := (cs.take width).takeWhile Char.isDigit
  let n ← (Text.digits? 10 digits).filter fun n => low ≤ n && n ≤ high
  return (n, cs.drop digits.length)

/-- Blanks, then the mark. -/
def mark? (mark : Char) (cs : List Char) : Option (List Char) :=
  match Text.dropBlankStart cs with
  | c :: rest => if c == mark then some rest else none
  | [] => none

/-- After a sign a year has any number of digits, without one at most four. -/
def year? (cs : List Char) : Option (Int × List Char) :=
  let signed (rest : List Char) : Option (Int × List Char) := do
    let digits := rest.takeWhile Char.isDigit
    return (← Text.digits? 10 digits, rest.drop digits.length)
  match Text.dropBlankStart cs with
  | '+' :: rest => signed rest
  | '-' :: rest => (signed rest).map fun (year, rest) => (-year, rest)
  | cs => (number? 4 0 9999 cs).map fun (year, rest) => (Int.ofNat year, rest)

def date? (cs : List Char) : Option (Date × List Char) := do
  let (year, cs) ← year? cs
  let (month, cs) ← number? 2 1 12 (← mark? '-' cs)
  let (day, cs) ← number? 2 1 31 (← mark? '-' cs)
  return (⟨year, month, day⟩, cs)

/-- After a point there is a digit at least. -/
def afterFraction? : List Char → Option (List Char)
  | '.' :: rest =>
    if rest.head?.any Char.isDigit then some (rest.dropWhile Char.isDigit) else none
  | cs => some cs

def clock? (cs : List Char) : Option (Clock × List Char) := do
  let (hour, cs) ← number? 2 0 23 cs
  let (minute, cs) ← number? 2 0 59 (← mark? ':' cs)
  let (second, cs) ← number? 2 0 60 (← mark? ':' cs)
  return (⟨hour, minute, second⟩, ← afterFraction? cs)

/-- The hours and minutes of an offset shorter than a day, with colons and blanks between them. -/
def distance? (cs : List Char) : Option (Nat × List Char) := do
  let (hours, cs) ← Text.field? 2 0 23 cs
  let (minutes, cs) ← Text.field? 2 0 59 (cs.dropWhile fun c => c == ':' || Text.isBlank c)
  return (hours * 60 + minutes, cs)

/-- How many minutes local time is ahead of universal time. -/
def offset? (cs : List Char) : Option (Int × List Char) :=
  match Text.dropBlankStart cs with
  | 'Z' :: rest | 'z' :: rest => some (0, rest)
  | '+' :: rest => (distance? rest).map fun (minutes, rest) => (Int.ofNat minutes, rest)
  | '-' :: rest | '\u2212' :: rest =>
    (distance? rest).map fun (minutes, rest) => (-Int.ofNat minutes, rest)
  | cs => if (cs.take 3).map Char.toUpper == ['U', 'T', 'C'] then some (0, cs.drop 3) else none

/-- The mark between a date and a time of day. -/
def isJoint (c : Char) : Bool := c == 'T' || c == 't' || c == ' '

/-- The date must be known at both ends of the offset. -/
def parse? (s : String) : Option Timestamp := do
  let (date, cs) ← date? s.toList
  let (clock, cs) ← clock? (← (if cs.head?.any isJoint then some (cs.drop 1) else none))
  let (ahead, cs) ← offset? cs
  let t := ofLocal date clock ahead
  if (Text.dropBlankStart cs).isEmpty && date.isKnown && t.date.isKnown then some t else none

def text (t : Timestamp) : String := t.date.text ++ "T" ++ t.clock.text ++ "Z"

end Timestamp
end PodTraffic
