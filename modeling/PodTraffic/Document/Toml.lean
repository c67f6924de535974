import PodTraffic.Document.Toml.Scalar

/-!
# TOML text

A document is a table: lines of names with values, and headers that open the table, or the next
table of a list, in which the lines after them stand. A name is bound once; a table is opened by
at most one header.
-/
namespace PodTraffic.Toml

/-- How a table came about. -/
inductive Origin where
  /-- By a header for a table inside it. -/
  | passed
  /-- By a name with dots. -/
  | dotted
  /-- By a header of its own. -/
  | header
  deriving DecidableEq, Repr

inductive Item where
  | value (v : Value)
  | table (origin : Origin) (fields : List (String × Item))
  /-- The latest table first; there is one at least. -/
  | tables (latest : List (String × Item)) (earlier : List (List (String × Item)))

abbrev Items := Listing Item

mutual

def Item.toValue : Item → Value
  | .value v => v
  | .table _ fields => .object (fieldsToValue fields)
  | .tables latest earlier =>
    .list ((.object (fieldsToValue latest) :: rowsToValue earlier).reverse)

def fieldsToValue : List (String × Item) → List (String × Value)
  | [] => []
  | (name, item) :: rest => (name, item.toValue) :: fieldsToValue rest

def rowsToValue : List (List (String × Item)) → List Value
  | [] => []
  | row :: rest => .object (fieldsToValue row) :: rowsToValue rest

end

/-- Change the table at the end of a path of headers. Tables on the way are made if missing; a list
stands for its latest table. -/
def within (change : Items → Option Items) : List String → Items → Option Items
  | [], fields => change fields
  | name :: path, fields => do
    let item ← match fields.lookup name with
      | none => (within change path []).map (.table .passed)
      | some (.value _) => none
      | some (.table origin inner) => (within change path inner).map (.table origin)
      | some (.tables latest earlier) => (within change path latest).map (.tables · earlier)
    return Listing.put fields name item

/-- By a header. A table that was only passed may still be opened. -/
def openTable (name : String) (fields : Items) : Option Items :=
  match fields.lookup name with
  | none => some (Listing.put fields name (.table .header []))
  | some (.table .passed inner) => some (Listing.put fields name (.table .header inner))
  | some _ => none

/-- The next table of a list. -/
def openNext (name : String) (fields : Items) : Option Items :=
  match fields.lookup name with
  | none => some (Listing.put fields name (.tables [] []))
  | some (.tables latest earlier) =>
    some (Listing.put fields name (.tables [] (latest :: earlier)))
  | some _ => none

/-- Bind the last name of a dotted one; `path` are those before it. The table that it is bound in
was made by dotted names, unless it is the one to start from. -/
def bind (name : String) (v : Value) :
    (path : List String) → (fits : Bool) → Items → Option Items
  | [], fits, fields =>
    if !fits || Listing.contains fields name then none
    else some (Listing.put fields name (.value v))
  | next :: path, _, fields => do
    let item ← match fields.lookup next with
      | none => (bind name v path true []).map (.table .dotted)
      | some (.value _) | some (.table .header _) => none
      | some (.table .passed inner) => (bind name v path false inner).map (.table .passed)
      | some (.table .dotted inner) => (bind name v path true inner).map (.table .dotted)
      | some (.tables latest earlier) => (bind name v path false latest).map (.tables · earlier)
    return Listing.put fields next item

def bindPath (path : List String) (v : Value) (fields : Items) : Option Items := do
  bind (← path.getLast?) v path.dropLast true fields

/-- Lists and tables lie in one another less deep than this, and a dotted name has fewer parts. -/
def depthLimit : Nat := 80

/-- What follows blanks, line ends and comments. -/
def afterFiller? (comment : Bool) : List Char → Option (List Char)
  | [] => some []
  | '\r' :: '\n' :: rest => afterFiller? false rest
  | '\n' :: rest => afterFiller? false rest
  | c :: rest =>
    if comment then if isPrinting c then afterFiller? true rest else none
    else if isBlank c then afterFiller? false rest
    else if c == '#' then afterFiller? true rest
    else some (c :: rest)

/-- What follows the end of the line, before which a comment may stand. -/
def afterLine? (cs : List Char) : Option (List Char) :=
  let rest := match cs.dropWhile isBlank with
    | '#' :: rest => rest.dropWhile isPrinting
    | rest => rest
  if rest.isEmpty then some [] else afterLineEnd? rest

def isBare (c : Char) : Bool := c.isAlphanum || c == '_' || c == '-'

def readName : Reader String := fun
  | '"' :: rest => (basicString rest).map fun (text, rest) => (String.ofList text, rest)
  | '\x27' :: rest => (literalString rest).map fun (text, rest) => (String.ofList text, rest)
  | cs =>
    let name := cs.takeWhile isBare
    if name.isEmpty then none else some (String.ofList name, cs.drop name.length)

/-- Names between dots, with blanks around them; at most `left`. -/
def readNames : (left : Nat) → Reader (List String)
  | 0, _ => none
  | left + 1, cs => do
    let (name, cs) ← readName (cs.dropWhile isBlank)
    match cs.dropWhile isBlank with
    | '.' :: cs => do
      let (names, cs) ← readNames left cs
      return (name :: names, cs)
    | cs => return ([name], cs)

def readPath : Reader (List String) := readNames (depthLimit - 1)

/-- The rest of a list; a comma may stand after its last item. -/
def readItems (readItem : Reader Value) : (fuel : Nat) → Reader (List Value)
  | 0, _ => none
  | fuel + 1, cs => do
    match ← afterFiller? false cs with
    | ']' :: rest => return ([], rest)
    | cs =>
      let (item, cs) ← readItem cs
      match ← afterFiller? false cs with
      | ',' :: rest =>
        let (items, rest) ← readItems readItem fuel rest
        return (item :: items, rest)
      | ']' :: rest => return ([item], rest)
      | _ => none

/-- A name and its value. -/
def readBinding (readItem : Reader Value) : Reader (List String × Value) := fun cs => do
  let (path, cs) ← readPath cs
  match cs with
  | '=' :: cs =>
    let (v, cs) ← readItem (cs.dropWhile isBlank)
    return ((path, v), cs.dropWhile isBlank)
  | _ => none

/-- The rest of a table on one line, after what it binds so far. -/
def readBindings (readItem : Reader Value) : (fuel : Nat) → Items → Reader Items
  | 0, _, _ => none
  | fuel + 1, fields, cs => do
    let ((path, v), cs) ← readBinding readItem cs
    let fields ← bindPath path v fields
    match cs with
    | ',' :: rest => readBindings readItem fuel fields rest
    | '\x7d' :: rest => return (fields, rest)
    | _ => none

def readValue : (depth : Nat) → Reader Value
  | 0, _ => none
  | depth + 1, '[' :: rest => do
    if depth = 0 then none
    let (items, rest) ← readItems (readValue depth) (rest.length + 1) rest
    return (.list items, rest)
  | depth + 1, '\x7b' :: rest => do
    if depth = 0 then none
    match rest.dropWhile isBlank with
    | '\x7d' :: rest => return (.object [], rest)
    | rest =>
      let (fields, rest) ← readBindings (readValue depth) (rest.length + 1) [] rest
      return (.object (fieldsToValue fields), rest)
  | _ + 1, '"' :: rest => (readString ('"' :: rest)).map fun (s, rest) => (.string s, rest)
  | _ + 1, '\x27' :: rest => (readString ('\x27' :: rest)).map fun (s, rest) => (.string s, rest)
  | _ + 1, cs => readPlain cs

/-- What is read so far, and the table that lines bind in. -/
structure Reading where
  root : Items := []
  path : List String := []

/-- A header opens the table at its path. -/
def Reading.open (r : Reading) (openAt : String → Items → Option Items) (path : List String) :
    Option Reading := do
  return ⟨← within (openAt (← path.getLast?)) path.dropLast r.root, path⟩

/-- One line that is not empty. -/
def readLine (r : Reading) : Reader Reading
  | '[' :: '[' :: cs => do
    match ← readPath cs with
    | (path, ']' :: ']' :: cs) => return (← r.open openNext path, ← afterLine? cs)
    | _ => none
  | '[' :: cs => do
    match ← readPath cs with
    | (path, ']' :: cs) => return (← r.open openTable path, ← afterLine? cs)
    | _ => none
  | cs => do
    let ((path, v), cs) ← readBinding (readValue depthLimit) cs
    return ({ r with root := ← within (bindPath path v) r.path r.root }, ← afterLine? cs)

def readLines : (fuel : Nat) → Reading → List Char → Option Items
  | 0, _, _ => none
  | fuel + 1, r, cs => do
    match ← afterFiller? false cs with
    | [] => return r.root
    | cs =>
      let (r, cs) ← readLine r cs
      readLines fuel r cs

/-- The table that a document holds. A byte order mark may stand before it. -/
def parse? (text : String) : Option Value := do
  let cs := match text.toList with
    | '\uFEFF' :: cs => cs
    | cs => cs
  return .object (fieldsToValue (← readLines (cs.length + 1) {} cs))

end PodTraffic.Toml
