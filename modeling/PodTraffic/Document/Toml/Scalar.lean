import PodTraffic.Decimal
import PodTraffic.Document
import PodTraffic.Text
import PodTraffic.Timestamp

/-!
# Scalars of TOML

Strings of four kinds, numbers, and dates with times of day. A reader yields what it found and the
rest of the text. Every number of a date or time has its fixed width. A time is yielded in its
common form: a `T` between date and time of day, at most nine places of a second and no zero at
their end, and no minus sign before an offset of zero.
-/
namespace PodTraffic.Toml

namespace Time

abbrev Reader := List Char → Option (List Char × List Char)

/-- One of the marks. -/
def mark? (marks : List Char) : List Char → Option (List Char)
  | c :: rest => if marks.contains c then some rest else none
  | [] => none

/-- The characters before the rest. -/
def consumed (cs rest : List Char) : List Char := cs.take (cs.length - rest.length)

def date? : Reader := fun cs => do
  let (year, rest) ← Text.field? 4 0 9999 cs
  let (month, rest) ← Text.field? 2 1 12 (← mark? ['-'] rest)
  let (_, rest) ← Text.field? 2 1 (Date.daysIn year month) (← mark? ['-'] rest)
  return (consumed cs rest, rest)

/-- The places of a second. -/
def fraction (digits : List Char) : List Char :=
  match ((digits.take 9).reverse.dropWhile (· == '0')).reverse with
  | [] => []
  | places => '.' :: places

def clock? : Reader := fun cs => do
  let (_, rest) ← Text.field? 2 0 23 cs
  let (_, rest) ← Text.field? 2 0 59 (← mark? [':'] rest)
  let (_, rest) ← Text.field? 2 0 60 (← mark? [':'] rest)
  let time := consumed cs rest
  return match rest with
    | '.' :: digits =>
      let places := digits.takeWhile Char.isDigit
      if places.isEmpty then (time, rest) else (time ++ fraction places, digits.drop places.length)
    | _ => (time, rest)

def offset? : Reader := fun cs =>
  (mark? ['Z', 'z'] cs).map (['Z'], ·) <|> do
    let (hours, rest) ← Text.field? 2 0 23 (← mark? ['+', '-'] cs)
    let (minutes, rest) ← Text.field? 2 0 59 (← mark? [':'] rest)
    let isZero := hours == 0 && minutes == 0
    return (if isZero then "+00:00".toList else consumed cs rest, rest)

def read? : Reader := fun cs =>
  match date? cs with
  | none => clock? cs
  | some (date, rest) =>
    match mark? ['T', 't', ' '] rest >>= clock? with
    | none => some (date, rest)
    | some (clock, rest) =>
      let (offset, rest) := (offset? rest).getD ([], rest)
      some (date ++ 'T' :: clock ++ offset, rest)

end Time

abbrev Reader := StateT (List Char) Option

def isBlank (c : Char) : Bool := c == ' ' || c == '\t'

/-- Any character but control characters; a tab is no control character. -/
def isPrinting (c : Char) : Bool := c == '\t' || (' ' ≤ c && c != '\x7f')

/-- A line feed, alone or after a carriage return. -/
def afterLineEnd? : List Char → Option (List Char)
  | '\n' :: rest => some rest
  | '\r' :: '\n' :: rest => some rest
  | _ => none

def escape? : Char → Option Char
  | 'b' => some '\x08'
  | 't' => some '\t'
  | 'n' => some '\n'
  | 'f' => some '\x0c'
  | 'r' => some '\r'
  | '"' => some '"'
  | '\\' => some '\\'
  | _ => none

def hexChar? (digits : List Char) : Option Char := do
  let n ← Text.digits? 16 digits
  if n < 0xD800 || (0xDFFF < n && n < 0x110000) then some (Char.ofNat n) else none

/-- The rest of a string of one line with escapes. -/
def basicString : List Char → Option (List Char × List Char)
  | '"' :: rest => some ([], rest)
  | '\\' :: 'u' :: a :: b :: c :: d :: rest => do
    let x ← hexChar? [a, b, c, d]
    let (text, rest) ← basicString rest
    return (x :: text, rest)
  | '\\' :: 'U' :: a :: b :: c :: d :: e :: f :: g :: h :: rest => do
    let x ← hexChar? [a, b, c, d, e, f, g, h]
    let (text, rest) ← basicString rest
    return (x :: text, rest)
  | '\\' :: c :: rest => do
    let x ← escape? c
    let (text, rest) ← basicString rest
    return (x :: text, rest)
  | c :: rest => do
    if !isPrinting c then none
    let (text, rest) ← basicString rest
    return (c :: text, rest)
  | [] => none

/-- The rest of a string of one line without escapes. -/
def literalString : List Char → Option (List Char × List Char)
  | '\x27' :: rest => some ([], rest)
  | c :: rest => do
    if !isPrinting c then none
    let (text, rest) ← literalString rest
    return (c :: text, rest)
  | [] => none

/-- At three or more quotes a long string ends: the last three close it, and up to two before
them belong to it. -/
def longEnd? (quote : Char) (cs : List Char) : Option (List Char × List Char) :=
  let run := min 5 (cs.takeWhile (· == quote)).length
  if run < 3 then none else some (List.replicate (run - 3) quote, cs.drop run)

/-- A backslash with only blanks after it on its line. -/
def joinsLines (cs : List Char) : Bool := (afterLineEnd? (cs.dropWhile isBlank)).isSome

/-- The rest of a string of several lines with escapes; while `joining`, blanks and line ends are
left out. -/
def longBasicString (joining : Bool) : List Char → Option (List Char × List Char)
  | [] => none
  | '"' :: rest =>
    match longEnd? '"' ('"' :: rest) with
    | some done => some done
    | none => keep '"' rest
  | '\\' :: 'u' :: a :: b :: c :: d :: rest => do keep (← hexChar? [a, b, c, d]) rest
  | '\\' :: 'U' :: a :: b :: c :: d :: e :: f :: g :: h :: rest => do
    keep (← hexChar? [a, b, c, d, e, f, g, h]) rest
  | '\\' :: c :: rest =>
    if joinsLines (c :: rest) then longBasicString true rest
    else do keep (← escape? c) rest
  | '\r' :: '\n' :: rest => if joining then longBasicString true rest else keep '\n' rest
  | c :: rest =>
    if joining && (isBlank c || c == '\n') then longBasicString true rest
    else if c == '\n' || isPrinting c then keep c rest
    else none
where
  keep (c : Char) (rest : List Char) : Option (List Char × List Char) := do
    let (text, rest) ← longBasicString false rest
    return (c :: text, rest)

def longLiteralString : List Char → Option (List Char × List Char)
  | [] => none
  | '\r' :: '\n' :: rest => do
    let (text, rest) ← longLiteralString rest
    return ('\n' :: text, rest)
  | c :: rest =>
    match longEnd? '\x27' (c :: rest) with
    | some done => some done
    | none => do
      if !(c == '\n' || isPrinting c) then none
      let (text, rest) ← longLiteralString rest
      return (c :: text, rest)

/-- A line end just after the opening quotes does not count. -/
def afterOpening (cs : List Char) : List Char := (afterLineEnd? cs).getD cs

def readString : Reader String := fun
  | '"' :: '"' :: '"' :: rest =>
    (longBasicString false (afterOpening rest)).map fun (text, rest) => (String.ofList text, rest)
  | '\x27' :: '\x27' :: '\x27' :: rest =>
    (longLiteralString (afterOpening rest)).map fun (text, rest) => (String.ofList text, rest)
  | '"' :: rest => (basicString rest).map fun (text, rest) => (String.ofList text, rest)
  | '\x27' :: rest => (literalString rest).map fun (text, rest) => (String.ofList text, rest)
  | _ => none

/-- Underscores stand between digits only. -/
def groupsFit (isDigit : Char → Bool) (cs : List Char) : Bool :=
  let pieces := Text.splitBy (· == '_') cs
  (pieces.zip (pieces.drop 1)).all fun (before, after) =>
    before.getLast?.any isDigit && after.head?.any isDigit

def withinLong (n : Int) : Option Value := if Number.isLong n then some (.int n) else none

/-- Digits after the mark of a radix. -/
def radixNumber? (radix : Nat) (cs : List Char) : Option Value := do
  let isDigit (c : Char) : Bool := (Text.digitValue? radix c).isSome
  if !groupsFit isDigit cs then none
  withinLong (← Text.digits? radix (cs.filter (· != '_')))

/-- No zero stands before other digits of the whole part. A numeral beyond every number is a fault
above zero and infinity below. -/
def decimal? (negative : Bool) (cs : List Char) : Option Value := do
  if !cs.head?.any Char.isDigit || !groupsFit Char.isDigit cs then none
  let digits := cs.filter (· != '_')
  if digits.all Char.isDigit then
    if digits.length > 1 && digits.head? == some '0' then none
    let n ← Text.digits? 10 digits
    withinLong (if negative then -(n : Int) else n)
  else do
    let n ← (Decimal.Numeral.read? digits).filter (·.isStrict)
    match n.nearest? negative with
    | some x => return .number (.double x)
    | none => if negative then some (.number (.infinite true)) else none

def signed? (negative : Bool) (cs : List Char) : Option Value :=
  if cs == "inf".toList then some (.number (.infinite negative))
  else if cs == "nan".toList then some (.number .nan)
  else decimal? negative cs

def plain? (cs : List Char) : Option Value :=
  match cs with
  | '+' :: rest => signed? false rest
  | '-' :: rest => signed? true rest
  | '0' :: 'x' :: rest => radixNumber? 16 rest
  | '0' :: 'o' :: rest => radixNumber? 8 rest
  | '0' :: 'b' :: rest => radixNumber? 2 rest
  | _ =>
    if cs == "true".toList then some (.bool true)
    else if cs == "false".toList then some (.bool false)
    else signed? false cs

def isPlain (c : Char) : Bool := c.isAlphanum || c == '+' || c == '-' || c == '_' || c == '.'

def readPlain : Reader Value := fun cs =>
  match Time.read? cs with
  | some (time, rest) => some (.time (String.ofList time), rest)
  | none => (plain? (cs.takeWhile isPlain)).map (·, cs.dropWhile isPlain)

end PodTraffic.Toml
