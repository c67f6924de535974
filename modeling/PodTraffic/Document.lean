import PodTraffic.Collections
import PodTraffic.Decimal

/-!
# Documents

The tree that data files hold, whatever format they are written in. Readers yield nothing on a value
of another shape, and look through tags. A record is an object with named fields; a list with the
fields in their order stands for the same record.
-/
namespace PodTraffic

inductive Number where
  | int (value : Int)
  | double (value : Decimal.Double)
  | infinite (negative : Bool)
  | nan
  deriving DecidableEq, Repr

/-- A number of 64 bits with a sign. -/
def Number.isLong (n : Int) : Bool := Int64.minValue.toInt ≤ n && n ≤ Int64.maxValue.toInt

inductive Value where
  | null
  | bool (value : Bool)
  | number (value : Number)
  | string (value : String)
  /-- A date, a time of day, or both. -/
  | time (text : String)
  | list (items : List Value)
  /-- Fields in the order in which they were written, each name once unless the text is raw. -/
  | object (fields : List (String × Value))
  /-- A mapping with some key that is not text. -/
  | mapping (entries : List (Value × Value))
  /-- A value under a tag of its own. -/
  | tagged (tag : String) (value : Value)
  /-- What has the form of a value and stands for none. -/
  | unreadable
  deriving Inhabited, Repr

abbrev Fields := Listing Value

namespace Value

def int (n : Int) : Value := .number (.int n)

def nat (n : Nat) : Value := .number (.int n)

def ofOption (f : α → Value) : Option α → Value
  | none => .null
  | some x => f x

def ofList (f : α → Value) (xs : List α) : Value := .list (xs.map f)

def texts (xs : List String) : Value := .list (xs.map .string)

/-- A field present only when there is a value. -/
def given (name : String) (f : α → Value) : Option α → Fields
  | none => []
  | some x => [(name, f x)]

/-- The value under its tags. -/
def untagged : Value → Value
  | .tagged _ v => v.untagged
  | v => v

/-- A time is read as its text. -/
def text? (v : Value) : Option String :=
  match v.untagged with
  | .string s | .time s => some s
  | _ => none

def bool? (v : Value) : Option Bool :=
  match v.untagged with
  | .bool b => some b
  | _ => none

def int? (low high : Int) (v : Value) : Option Int :=
  match v.untagged with
  | .number (.int n) => if low ≤ n && n ≤ high then some n else none
  | _ => none

def nat? (limit : Nat) (v : Value) : Option Nat := (v.int? 0 limit).map Int.toNat

def list? (v : Value) : Option (List Value) :=
  match v.untagged with
  | .list items => some items
  | _ => none

def listOf? (read : Value → Option α) (v : Value) : Option (List α) := do
  (← v.list?).mapM read

/-- Of keys that are the same text under different tags the last counts. -/
def fields? (v : Value) : Option Fields :=
  match v.untagged with
  | .object fields => some fields
  | .mapping entries => do
    return Listing.ofList (← entries.mapM fun entry => return (← entry.1.text?, entry.2))
  | _ => none

def mapOf? (read : Value → Option α) (v : Value) : Option (SortedMap String α) := do
  return .ofList (← (← v.fields?).mapM fun (name, value) => return (name, ← read value))

def textMap? : Value → Option (SortedMap String String) := mapOf? text?

/-- A choice is written as its name, or as an object of that one name with nothing in it. -/
def choice? : Value → Option String
  | .string s => some s
  | .object [(name, .null)] => some name
  | _ => none

/-- As a choice, but an empty object too has nothing in it. -/
def looseChoice? : Value → Option String
  | .object [(name, .object [])] => some name
  | v => v.choice?

/-- The fields of a record whose field names, in order, are `names`; none may be given twice. -/
def record? (names : List String) : Value → Option Fields
  | .object fields =>
    if names.all fun name => (fields.filter (·.1 == name)).length ≤ 1 then some fields else none
  | .list items => if items.length ≤ names.length then some (names.zip items) else none
  | _ => none

/-- A record of several kinds names its kind in the field `tag`, or first in a list; what is left
is the record of that kind. -/
def kind? (tag : String) : Value → Option (String × Value)
  | .object fields => do
    let kind ← (← fields.lookup tag).text?
    return (kind, .object (fields.filter (·.1 != tag)))
  | .list (kind :: rest) => return (← kind.text?, .list rest)
  | _ => none

/-- Null stands for none. -/
def nullable? (read : Value → Option α) : Value → Option (Option α)
  | .null => some none
  | v => (read v).map some

def ofTextMap (m : SortedMap String String) : Value :=
  .object (m.entries.map fun (key, value) => (key, .string value))

end Value

namespace Fields

def required (fields : Fields) (name : String) (read : Value → Option α) : Option α :=
  fields.lookup name >>= read

/-- An absent field has the default; null is not absent. -/
def withDefault (fields : Fields) (name : String) (default : α) (read : Value → Option α) :
    Option α :=
  match fields.lookup name with
  | none => some default
  | some v => read v

/-- An absent field and null are none. -/
def nullable (fields : Fields) (name : String) (read : Value → Option α) : Option (Option α) :=
  match fields.lookup name with
  | none => some none
  | some v => v.nullable? read

end Fields
end PodTraffic
