import PodTraffic.Decimal
import PodTraffic.Document

/-!
# JSON text

The tokens of a text are read in one pass over its characters. Integers of 64 bits stay integers;
any other numeral is rounded in steps: its first digits as a number of 64 bits, then one product or
quotient with a power of ten. A numeral beyond every number and a text with half of a character
pair have the form of a token all the same.

The tokens are taken one by one onto a stack of open lists and objects. What comes out is raw: an
object may give a name more than once, and scalars may have no value. A settled value has none of
this: of a repeated name the last field stays, in the place of the first, and lists and objects lie
in one another up to a limit.

Written, fields follow their order. A number that is not an integer is written with the fewest
digits that read back; what has no written form is null.
-/
namespace PodTraffic.Json

open Decimal (Double Numeral)

inductive Token where
  | punctuation (c : Char)
  /-- Nothing where an escape stands for no character. -/
  | text (value : Option String)
  | scalar (value : Value)

/-- As many of the digits as a number of 64 bits takes, after those in `value`; yields also how
many they are. -/
def takeDigits (value : Nat) : List Char → Nat × Nat
  | [] => (value, 0)
  | c :: cs =>
    let next := value * 10 + (c.toNat - '0'.toNat)
    if next < UInt64.size then
      let (value, taken) := takeDigits next cs
      (value, taken + 1)
    else (value, 0)

/-- The greatest power of ten below infinity. -/
def greatestPower : Nat := 308

def powerOfTen? (n : Nat) : Option Double := Double.nearest? false (Nat.pow 10 n) 1

/-- Times a power of ten. Where the power itself is beyond every number, a quotient goes by steps
and a product has no value. -/
def scale? (x : Double) (exponent : Int) : Option Double :=
  if x.isZero then some x
  else if exponent > greatestPower then none
  else if 0 ≤ exponent then do x.mul? (← powerOfTen? exponent.toNat)
  else if -exponent ≤ greatestPower then do x.div? (← powerOfTen? (-exponent).toNat)
  else do
    let y ← x.div? (← powerOfTen? greatestPower)
    scale? y (exponent + greatestPower)
termination_by (-exponent).toNat
decreasing_by simp only [greatestPower] at *; omega

/-- Digits of the whole part that are not taken count as zeros, those of the fraction not at all. -/
def double? (negative : Bool) (n : Numeral) : Option Double := do
  let (value, whole) := takeDigits 0 n.whole
  let (value, fraction) := takeDigits value (n.fraction.getD [])
  let x ← Double.nearest? negative value 1
  scale? x (n.exponent.getD 0 + (n.whole.length - whole : Nat) - fraction)

/-- Zero with a minus sign is no integer. -/
def integer? (negative : Bool) (n : Numeral) : Option Int := do
  if !n.isPlain then none
  let value ← Text.digits? 10 n.whole
  if negative then if 0 < value && value ≤ UInt64.size / 2 then some (-(value : Int)) else none
  else if value < UInt64.size then some value else none

def number? (cs : List Char) : Option Value := do
  let negative := cs.head? == some '-'
  let n ← (Numeral.read? (if negative then cs.drop 1 else cs)).filter (·.isStrict)
  match integer? negative n with
  | some value => return .int value
  | none => return ((double? negative n).map fun x => .number (.double x)).getD .unreadable

def scalar? (cs : List Char) : Option Value :=
  if cs == "null".toList then some .null
  else if cs == "true".toList then some (.bool true)
  else if cs == "false".toList then some (.bool false)
  else number? cs

/-- What is read of a text, backwards; half of a pair is no character. -/
abbrev Units := List (Option Char)

/-- Where the reader stands. -/
inductive Mode where
  | between
  | bare (read : List Char)
  | text (read : Units)
  | escape (read : Units)
  /-- `left` more digits of an escape, after the leading half `high` of a pair if there is one. -/
  | unit (read : Units) (high : Option Nat) (left value : Nat)
  /-- A leading half was read, and maybe a backslash after it. -/
  | pair (read : Units) (high : Nat) (slash : Bool)

def isPunctuation (c : Char) : Bool :=
  c == '[' || c == ']' || c == '\x7b' || c == '\x7d' || c == ',' || c == ':'

def isSpace (c : Char) : Bool := c == ' ' || c == '\n' || c == '\t' || c == '\r'

def escapes : List (Char × Char) :=
  [('"', '"'), ('\\', '\\'), ('/', '/'), ('b', '\x08'), ('f', '\x0c'), ('n', '\n'), ('r', '\r'),
    ('t', '\t')]

/-- A finished escape with nothing open before it. -/
def finishSingle (read : Units) (value : Nat) : Mode :=
  if 0xD800 ≤ value && value < 0xDC00 then .pair read value false
  else if 0xDC00 ≤ value && value < 0xE000 then .text (none :: read)
  else .text (some (Char.ofNat value) :: read)

/-- A finished escape, which makes a pair with the leading half before it or leaves that alone. -/
def finishUnit (read : Units) (high : Option Nat) (value : Nat) : Mode :=
  match high with
  | none => finishSingle read value
  | some high =>
    if 0xDC00 ≤ value && value < 0xE000 then
      .text (some (Char.ofNat (0x10000 + (high - 0xD800) * 0x400 + (value - 0xDC00))) :: read)
    else finishSingle (none :: read) value

def beginToken (c : Char) : Mode × List Token :=
  if isSpace c then (.between, [])
  else if isPunctuation c then (.between, [.punctuation c])
  else if c == '"' then (.text [], [])
  else (.bare [c], [])

def stepText (read : Units) (c : Char) : Option (Mode × List Token) :=
  if c == '"' then some (.between, [.text ((read.reverse.mapM id).map String.ofList)])
  else if c == '\\' then some (.escape read, [])
  else if c.toNat < 0x20 then none
  else some (.text (some c :: read), [])

def stepEscape (read : Units) (high : Option Nat) (c : Char) : Option Mode :=
  if c == 'u' then some (.unit read high 4 0)
  else
    let read := if high.isSome then none :: read else read
    (escapes.lookup c).map fun c => .text (some c :: read)

def step (mode : Mode) (c : Char) : Option (Mode × List Token) :=
  match mode with
  | .between => some (beginToken c)
  | .bare read =>
    if isSpace c || isPunctuation c || c == '"' then do
      let value ← scalar? read.reverse
      let (mode, tokens) := beginToken c
      some (mode, .scalar value :: tokens)
    else some (.bare (c :: read), [])
  | .text read => stepText read c
  | .escape read => (stepEscape read none c).map (·, [])
  | .unit read high left value => do
    let digit ← Text.digitValue? 16 c
    let value := value * 16 + digit
    if left ≤ 1 then some (finishUnit read high value, [])
    else some (.unit read high (left - 1) value, [])
  | .pair read high false =>
    if c == '\\' then some (.pair read high true, []) else stepText (none :: read) c
  | .pair read high true => (stepEscape read (some high) c).map (·, [])

def scan (mode : Mode) : List Char → Option (List Token)
  | [] =>
    match mode with
    | .between => some []
    | .bare read => (scalar? read.reverse).map ([.scalar ·])
    | _ => none
  | c :: cs => do
    let (mode, tokens) ← step mode c
    (tokens ++ ·) <$> scan mode cs

/-- A list or object that is still open; what it holds so far is kept backwards. -/
inductive Frame where
  | list (items : List Value)
  | object (fields : List (Option String × Value))
  /-- An object in which the value of `key` comes next. -/
  | field (fields : List (Option String × Value)) (key : Option String)

inductive Awaits where
  | value
  | valueOrClose
  | keyOrClose
  | key
  | colon
  | commaOrClose
  | nothing
  deriving DecidableEq

structure Building where
  frames : List Frame := []
  awaits : Awaits := .value
  done : Option Value := none

def Building.complete (b : Building) (value : Value) : Option Building :=
  match b.frames with
  | [] => some { b with awaits := .nothing, done := some value }
  | .list items :: frames =>
    some { b with frames := .list (value :: items) :: frames, awaits := .commaOrClose }
  | .field fields key :: frames =>
    some { b with frames := .object ((key, value) :: fields) :: frames, awaits := .commaOrClose }
  | .object _ :: _ => none

def Building.enter (b : Building) (frame : Frame) (awaits : Awaits) : Building :=
  { b with frames := frame :: b.frames, awaits }

/-- An object whose names are not all readable is not either. -/
def closed (fields : List (Option String × Value)) : Value :=
  match fields.reverse.mapM fun (key, value) => key.map (·, value) with
  | some fields => .object fields
  | none => .unreadable

def Building.take (b : Building) (token : Token) : Option Building :=
  let wantsValue := b.awaits == .value || b.awaits == .valueOrClose
  match token, b.frames with
  | .scalar value, _ => if wantsValue then b.complete value else none
  | .text s, .object fields :: frames =>
    if b.awaits == .key || b.awaits == .keyOrClose then
      some { b with frames := .field fields s :: frames, awaits := .colon }
    else none
  | .text s, _ => if wantsValue then b.complete ((s.map .string).getD .unreadable) else none
  | .punctuation '[', _ => if wantsValue then some (b.enter (.list []) .valueOrClose) else none
  | .punctuation '\x7b', _ => if wantsValue then some (b.enter (.object []) .keyOrClose) else none
  | .punctuation ']', .list items :: frames =>
    if b.awaits == .valueOrClose || b.awaits == .commaOrClose then
      ({ b with frames } : Building).complete (.list items.reverse)
    else none
  | .punctuation '\x7d', .object fields :: frames =>
    if b.awaits == .keyOrClose || b.awaits == .commaOrClose then
      ({ b with frames } : Building).complete (closed fields)
    else none
  | .punctuation ':', .field _ _ :: _ =>
    if b.awaits == .colon then some { b with awaits := .value } else none
  | .punctuation ',', .list _ :: _ =>
    if b.awaits == .commaOrClose then some { b with awaits := .value } else none
  | .punctuation ',', .object _ :: _ =>
    if b.awaits == .commaOrClose then some { b with awaits := .key } else none
  | _, _ => none

def raw? (text : String) : Option Value := do
  let tokens ← scan .between text.toList
  let built ← tokens.foldlM Building.take {}
  built.done

def depthLimit : Nat := 127

mutual

/-- Up to `depth` lists and objects in one another. -/
def settle? (depth : Nat) : Value → Option Value
  | .list items => if depth = 0 then none else (settleItems? (depth - 1) items).map .list
  | .object fields =>
    if depth = 0 then none
    else (settleFields? (depth - 1) fields).map fun fields => .object (Listing.ofList fields)
  | .unreadable => none
  | v => some v

def settleItems? (depth : Nat) : List Value → Option (List Value)
  | [] => some []
  | item :: items => do return (← settle? depth item) :: (← settleItems? depth items)

def settleFields? (depth : Nat) : List (String × Value) → Option (List (String × Value))
  | [] => some []
  | (name, value) :: fields => do
    return (name, ← settle? depth value) :: (← settleFields? depth fields)

end

def parse? (text : String) : Option Value := raw? text >>= settle? depthLimit

def hexDigit (n : Nat) : Char := if n < 10 then Char.ofNat (48 + n) else Char.ofNat (87 + n)

def escaped (c : Char) : List Char :=
  match c with
  | '"' => ['\\', '"']
  | '\\' => ['\\', '\\']
  | '\n' => ['\\', 'n']
  | '\r' => ['\\', 'r']
  | '\t' => ['\\', 't']
  | '\x08' => ['\\', 'b']
  | '\x0c' => ['\\', 'f']
  | _ =>
    if c.toNat < 0x20 then ['\\', 'u', '0', '0', hexDigit (c.toNat / 16), hexDigit (c.toNat % 16)]
    else [c]

def quoted (s : String) : String := "\"" ++ String.ofList (s.toList.flatMap escaped) ++ "\""

def doubleText (x : Decimal.Double) : String :=
  let (digits, exponent) := x.shortest
  (if x.negative then "-" else "") ++ toString digits ++ "e" ++ toString exponent

def numberText : Number → String
  | .int n => toString n
  | .double x => doubleText x
  | .infinite _ | .nan => "null"

mutual

def print : Value → String
  | .null => "null"
  | .bool true => "true"
  | .bool false => "false"
  | .number n => numberText n
  | .string s => quoted s
  | .time s => quoted s
  | .list items => "[" ++ ",".intercalate (printItems items) ++ "]"
  | .object fields => "\x7b" ++ ",".intercalate (printFields fields) ++ "\x7d"
  | .mapping _ | .unreadable => "null"
  | .tagged tag value => "\x7b" ++ quoted tag ++ ":" ++ print value ++ "\x7d"

def printItems : List Value → List String
  | [] => []
  | item :: items => print item :: printItems items

def printFields : List (String × Value) → List String
  | [] => []
  | (name, value) :: fields => (quoted name ++ ":" ++ print value) :: printFields fields

end

/-- Items on lines of their own between brackets. -/
def indented (depth : Nat) (opening closing : String) (items : List String) : String :=
  if items.isEmpty then opening ++ closing
  else
    let margin (depth : Nat) : String := "\n" ++ String.ofList (List.replicate (2 * depth) ' ')
    opening ++ ",".intercalate (items.map (margin (depth + 1) ++ ·)) ++ margin depth ++ closing

mutual

/-- With each item and field on a line of its own, two blanks deeper than its list or object. -/
def pretty (depth : Nat) : Value → String
  | .list items => indented depth "[" "]" (prettyItems (depth + 1) items)
  | .object fields => indented depth "\x7b" "\x7d" (prettyFields (depth + 1) fields)
  | v => print v

def prettyItems (depth : Nat) : List Value → List String
  | [] => []
  | item :: items => pretty depth item :: prettyItems depth items

def prettyFields (depth : Nat) : List (String × Value) → List String
  | [] => []
  | (name, value) :: fields =>
    (quoted name ++ ": " ++ pretty depth value) :: prettyFields depth fields

end

end PodTraffic.Json
