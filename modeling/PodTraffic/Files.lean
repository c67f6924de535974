import PodTraffic.Collections
import PodTraffic.Document.Yaml
import PodTraffic.Manifest.Decode
import PodTraffic.Port
import PodTraffic.Text

/-!
# Files

Files by place. A place is the list of names on the way to it; one that is reached from the root
has `/` as its first name, and one above the working directory begins with two dots. A path leads
to a place through directories only. A document of a policy file is one manifest, a list of them, or
an object with such a document under `items`; an empty document holds none. A directory stands for
all policy files under it.
-/
namespace PodTraffic

abbrev Place := List String

namespace Place

/-- Where a path starts. -/
def start (path : String) : Place := if path.toList.head? == some '/' then ["/"] else []

/-- The parts of a path between its slashes; empty ones count. -/
def pieces (path : String) : List String :=
  (Text.splitBy (· == '/') path.toList).map String.ofList

/-- The working directory and those around it. -/
def isAbove (p : Place) : Bool := p.all (· == "..")

/-- The root is its own parent. -/
def parent (p : Place) : Place :=
  if p.isAbove then ".." :: p else if p == ["/"] then p else p.dropLast

/-- An empty part and a single dot stay, two dots go up. -/
def step (p : Place) (piece : String) : Place :=
  if piece == "" || piece == "." then p else if piece == ".." then p.parent else p ++ [piece]

/-- Where the path leads if every part before its last is a directory. -/
def ofPath (path : String) : Place := (pieces path).foldl step (start path)

/-- The places before each part. -/
def before (p : Place) : List String → List Place
  | [] => []
  | piece :: rest => p :: before (p.step piece) rest

/-- The directories that the path goes through. -/
def onPath (path : String) : List Place := before (start path) (pieces path)

end Place

/-- A path that starts at the root stands for itself. -/
def joinPath (directory path : String) : String :=
  if path.toList.head? == some '/' || directory.isEmpty then path
  else if directory.toList.getLast? == some '/' then directory ++ path
  else directory ++ "/" ++ path

structure FileTree where
  files : List (Place × String) := []
  /-- Directories known apart from those that hold a file. -/
  directories : List Place := []

namespace FileTree

/-- With a file, and with the directories on its path. -/
def insert (t : FileTree) (path text : String) : FileTree :=
  { files := (Place.ofPath path, text) :: t.files
    directories := Place.onPath path ++ t.directories }

def isDirectory (t : FileTree) (p : Place) : Bool :=
  p.isAbove || p == ["/"] || t.directories.contains p ||
    t.files.any fun (file, _) => p.length < file.length && p.isPrefixOf file

/-- The place that the path leads to; none if it is empty or some part before its last is no
directory. -/
def follow? (t : FileTree) (path : String) : Option Place :=
  if !path.isEmpty && (Place.onPath path).all t.isDirectory then some (Place.ofPath path) else none

def read? (t : FileTree) (path : String) : Option String :=
  t.follow? path >>= (t.files.lookup ·)

/-- A file or a directory. -/
def isPresent (t : FileTree) (path : String) : Bool :=
  (t.follow? path).any fun p => t.isDirectory p || (t.files.lookup p).isSome

/-- The longest name of a file, in bytes. -/
def nameLimit : Nat := 255

/-- A file can be written where there is no directory, in a directory that is there. The path ends
with the name of the file. -/
def canWrite (t : FileTree) (path : String) : Bool :=
  let isName (piece : String) : Bool :=
    piece != "" && piece != "." && piece != ".." && piece.utf8ByteSize ≤ nameLimit
  (Place.pieces path).getLast?.any isName && (t.follow? path).any (!t.isDirectory ·)

/-- What follows the last dot of a name that does not begin with it. -/
def extension? (p : Place) : Option String := do
  let name ← p.getLast?
  let pieces := Text.splitBy (· == '.') name.toList
  if pieces.length < 2 || (pieces.length == 2 && pieces.head? == some []) then none
  else pieces.getLast?.map String.ofList

/-- The files at any depth, name by name in order. -/
def below (t : FileTree) (p : Place) : List (Place × String) :=
  Ordered.sortBy (compareOn (·.1)) (t.files.filter fun (file, _) => p.isPrefixOf file)

end FileTree

namespace PolicyFile

def manifest? : Value → Option NetworkPolicy := Manifest.policy? .lenient

mutual

def ofDocument? : Value → Option (List NetworkPolicy)
  | .null => some []
  | .list items => items.mapM manifest?
  | .object fields => (ofFields? fields).getD ((manifest? (.object fields)).map ([·]))
  | .mapping entries => (ofEntries? entries).getD ((manifest? (.mapping entries)).map ([·]))
  | v => (manifest? v).map ([·])

/-- The manifests under `items`, if there is such a field. -/
def ofFields? : List (String × Value) → Option (Option (List NetworkPolicy))
  | [] => none
  | (name, value) :: rest => if name == "items" then some (ofDocument? value) else ofFields? rest

def ofEntries? : List (Value × Value) → Option (Option (List NetworkPolicy))
  | [] => none
  | (.string name, value) :: rest =>
    if name == "items" then some (ofDocument? value) else ofEntries? rest
  | _ :: rest => ofEntries? rest

end

def parse (text : String) : Except PolicyError (List NetworkPolicy) :=
  match Yaml.parse? text >>= List.mapM ofDocument? with
  | some policies => .ok policies.flatten
  | none => .error .notYaml

def extensions : List String := ["yaml", "yml", "json"]

/-- The files that a path stands for. -/
def select (t : FileTree) (path : String) : Except PolicyError (List String) :=
  match t.follow? path with
  | none => .error (.unreadable path)
  | some place =>
    if t.isDirectory place then
      let files := (t.below place).filter fun (file, _) =>
        (FileTree.extension? file).any extensions.contains
      .ok (files.map (·.2))
    else
      match t.files.lookup place with
      | some text => .ok [text]
      | none => .error (.unreadable path)

def load (t : FileTree) (path : String) : Except PolicyError (List NetworkPolicy) := do
  return (← (← select t path).mapM parse).flatten

end PolicyFile
end PodTraffic
