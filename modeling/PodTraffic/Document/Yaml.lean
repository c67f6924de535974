import PodTraffic.Decimal
import PodTraffic.Document
import PodTraffic.Document.Yaml.Node

/-!
# YAML text

A stream holds any number of documents. The value of an alias is that of the last node with its
number, read anew each time. A mapping with a repeated key is a fault, and so are collections that
lie in one another too deep and aliases that are followed too often. Plain scalars stand for null,
truth values, integers and floats where they have that shape, quoted ones always for text; `yes`,
`no`, `on` and `off` are text. A standard tag fixes the kind.
-/
namespace PodTraffic.Yaml

def nulls : List String := ["~", "null", "Null", "NULL"]

def bool? (s : String) : Option Bool :=
  if ["true", "True", "TRUE"].contains s then some true
  else if ["false", "False", "FALSE"].contains s then some false
  else none

def signed (cs : List Char) : Bool × List Char :=
  match cs with
  | '-' :: rest => (true, rest)
  | '+' :: rest => (false, rest)
  | _ => (false, cs)

/-- Leading zeros make text. -/
def hasLeadingZeros (cs : List Char) : Bool :=
  match (signed cs).2 with
  | '0' :: rest => !rest.isEmpty && rest.all Char.isDigit
  | _ => false

def radixOf (cs : List Char) : Nat × List Char :=
  match cs with
  | '0' :: 'x' :: rest => (16, rest)
  | '0' :: 'o' :: rest => (8, rest)
  | '0' :: 'b' :: rest => (2, rest)
  | _ => (10, cs)

/-- Of 128 bits at most. -/
def integer? (cs : List Char) : Option Int := do
  let (negative, body) := signed cs
  if hasLeadingZeros cs then none
  let (radix, digits) := radixOf body
  let n ← Text.digits? radix digits
  if negative then if n ≤ Nat.pow 2 127 then some (-(n : Int)) else none
  else if n < Nat.pow 2 128 then some n else none

/-- An integer that does not fit in 64 bits is a fault. -/
def wholeNumber? (n : Int) : Option Value :=
  if Int64.minValue.toInt ≤ n && n < UInt64.size then some (.int n) else none

/-- Infinity is written by its name only. -/
def float? (cs : List Char) : Option Number := do
  let (negative, body) := signed cs
  if [".inf", ".Inf", ".INF"].contains (String.ofList body) then some (.infinite negative)
  else if [".nan", ".NaN", ".NAN"].contains (String.ofList cs) then some .nan
  else
    let n ← Decimal.Numeral.read? body
    (n.nearest? negative).map .double

/-- The value of a scalar that is not quoted and has no tag. -/
def plain? (s : String) : Option Value :=
  let cs := s.toList
  if s.isEmpty || nulls.contains s then some .null
  else
    match bool? s, integer? cs with
    | some b, _ => some (.bool b)
    | none, some n => wholeNumber? n
    | none, none =>
      match if hasLeadingZeros cs then none else float? cs with
      | some x => some (.number x)
      | none => some (.string s)

/-- The start of the standard tags. -/
def standard : String := "tag:yaml.org,2002:"

/-- A tag of the document's own, by its name after the mark. -/
def localName? (tag : String) : Option String :=
  match tag.toList with
  | '!' :: name => some (String.ofList name)
  | _ => none

/-- Under a tag that is not local; those without a meaning for scalars make text. -/
def taggedScalar? (tag text : String) : Option Value :=
  if tag == standard ++ "null" then if nulls.contains text then some .null else none
  else if tag == standard ++ "bool" then (bool? text).map .bool
  else if tag == standard ++ "int" then integer? text.toList >>= wholeNumber?
  else if tag == standard ++ "float" then (float? text.toList).map .number
  else some (.string text)

/-- A scalar under its tag, if any. -/
def scalar? (tag : Option String) (text : String) (isPlain : Bool) : Option Value :=
  match tag, isPlain with
  | some tag, _ =>
    if (localName? tag).isNone then taggedScalar? tag text
    else if isPlain then plain? text else some (.string text)
  | none, true => plain? text
  | none, false => some (.string text)

def sameNumber : Number → Number → Bool
  | .double a, .double b => a.same b
  | a, b => a == b

mutual

/-- The order of entries does not count. -/
def same : Value → Value → Bool
  | .null, .null => true
  | .bool a, .bool b => a == b
  | .number a, .number b => sameNumber a b
  | .string a, .string b => a == b
  | .time a, .time b => a == b
  | .list as, .list bs => sameItems as bs
  | .object as, .object bs => as.length == bs.length && withinFields as bs
  | .mapping as, .mapping bs => as.length == bs.length && withinEntries as bs
  | .tagged s a, .tagged t b => s == t && same a b
  | _, _ => false

def sameItems : List Value → List Value → Bool
  | [], [] => true
  | a :: as, b :: bs => same a b && sameItems as bs
  | _, _ => false

def withinFields : List (String × Value) → List (String × Value) → Bool
  | [], _ => true
  | (name, a) :: as, bs => (bs.lookup name).any (same a ·) && withinFields as bs

def withinEntries : List (Value × Value) → List (Value × Value) → Bool
  | [], _ => true
  | (key, a) :: as, bs =>
    bs.any (fun entry => same key entry.1 && same a entry.2) && withinEntries as bs

end

def hasRepeatedKey : List (Value × Value) → Bool
  | [] => false
  | (key, _) :: rest => rest.any (same key ·.1) || hasRepeatedKey rest

def fieldName? : Value → Option String
  | .string name => some name
  | _ => none

/-- An object if every key is text. -/
def ofEntries? (entries : List (Value × Value)) : Option Value :=
  if hasRepeatedKey entries then none
  else
    match entries.mapM fun (key, value) => (fieldName? key).map (·, value) with
    | some fields => some (.object fields)
    | none => some (.mapping entries)

/-- Carries how many more aliases may be followed. -/
abbrev Follower := StateT Nat Option

def fail : Follower α := StateT.lift none

/-- A local tag stays; without a name it is a fault. Other tags mean nothing outside scalars. -/
def underTag (mark : Mark) (v : Value) : Follower Value :=
  match mark.tag >>= localName? with
  | none => return v
  | some name => if name.isEmpty then fail else return .tagged name v

/-- The node itself, or the one that an alias stands for. -/
def follow (anchored : List (Nat × Node)) : Node → Follower Node
  | .reference number => do
    let left ← get
    if left = 0 then fail
    set (left - 1)
    StateT.lift ((anchored.reverse.lookup number))
  | node => return node

/-- Collections lie in one another up to `depth`. -/
def valueOf (anchored : List (Nat × Node)) (depth : Nat) (node : Node) : Follower Value := do
  match depth, ← follow anchored node with
  | _, .scalar mark text isPlain =>
    underTag mark (← StateT.lift (scalar? mark.tag text isPlain))
  | depth + 1, .list mark items =>
    underTag mark (.list (← items.mapM (valueOf anchored depth)))
  | depth + 1, .mapping mark entries =>
    let entries ← entries.mapM fun (key, value) => do
      return (← valueOf anchored depth key, ← valueOf anchored depth value)
    underTag mark (← StateT.lift (ofEntries? entries))
  | _, _ => fail

def depthLimit : Nat := 128

/-- Aliases are followed at most a hundred times as often as the document is large. -/
def Node.value? (root : Node) : Option Value :=
  (·.1) <$> (valueOf root.anchored depthLimit root).run (100 * root.weight)

/-- The documents of a stream. -/
def parse? (text : String) : Option (List Value) := nodes? text >>= List.mapM Node.value?

end PodTraffic.Yaml
