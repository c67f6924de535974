import PodTraffic.Collections
import PodTraffic.Job
import PodTraffic.Text

/-!
# Probes and their comparison

A truth table has given rows and columns, in the order given, and cells that may be unset. Printed,
a column is as wide as its longest cell in bytes, cells are filled up with blanks by characters, and
no line ends with blanks. The rows of a probe are the pods, its columns the pods and the external
addresses, and a cell holds a verdict for each port label. An expected and an actual probe are
compared cell by cell and label by label; a label that only one of them has counts as a difference.
-/
namespace PodTraffic

structure TruthTable (α : Type) where
  froms : List String
  tos : List String
  cells : SortedMap NamePair α := .empty

namespace TruthTable

variable {α β : Type}

def get? (t : TruthTable α) (row column : String) : Option α := t.cells.get? ⟨row, column⟩

def set (t : TruthTable α) (row column : String) (x : α) : TruthTable α :=
  { t with cells := t.cells.insert ⟨row, column⟩ x }

/-- Set from what is there. -/
def alter (t : TruthTable α) (row column : String) (f : Option α → α) : TruthTable α :=
  { t with cells := t.cells.alter ⟨row, column⟩ f }

/-- Row by row. -/
def keys (t : TruthTable α) : List (String × String) :=
  t.froms.flatMap fun row => t.tos.map fun column => (row, column)

/-- Every cell, set or not, row by row. -/
def entries (t : TruthTable α) : List (String × String × Option α) :=
  t.keys.map fun (row, column) => (row, column, t.get? row column)

def setCells (t : TruthTable α) : List (String × String × α) :=
  t.entries.filterMap fun (row, column, cell) => cell.map (row, column, ·)

/-- A table of the same shape. -/
def map (f : String → String → Option α → Option β) (t : TruthTable α) : TruthTable β :=
  t.entries.foldl (fun (table : TruthTable β) (row, column, cell) =>
    match f row column cell with
    | some y => table.set row column y
    | none => table) ⟨t.froms, t.tos, .empty⟩

def padded (width : Nat) (cell : String) : String :=
  cell ++ String.ofList (List.replicate (width - cell.length) ' ')

/-- Lines of the same number of cells, in columns. -/
def renderLines (lines : List (List String)) : String :=
  let columns := (lines.map (·.length)).foldl max 0
  let widths := (List.range columns).map fun i =>
    (lines.map fun cells => (cells[i]?.map (·.utf8ByteSize)).getD 0).foldl max 0
  String.join (lines.map fun cells =>
    Text.trimEnd (" | ".intercalate (List.zipWith padded widths cells)) ++ "\n")

def render (cellText : Option α → String) (t : TruthTable α) : String :=
  renderLines (("-" :: t.tos) ::
    t.froms.map fun row => row :: t.tos.map fun column => cellText (t.get? row column))

end TruthTable

abbrev ProbeCell := SortedMap String Verdict

abbrev ProbeTable := TruthTable ProbeCell

structure JobResult where
  job : Job
  verdict : Verdict
  deriving DecidableEq

namespace ProbeTable

def ofResources (r : Resources) : ProbeTable := { froms := r.podKeys, tos := r.destinationKeys }

def record (t : ProbeTable) (result : JobResult) : ProbeTable :=
  t.alter result.job.fromKey result.job.toKey fun cell =>
    (cell.getD .empty).insert result.job.key result.verdict

def ofResults (r : Resources) (results : List JobResult) : ProbeTable :=
  results.foldl record (ofResources r)

/-- Every verdict of the table's own rows and columns. -/
def verdicts (t : ProbeTable) : List Verdict :=
  (TruthTable.setCells t).flatMap fun (_, _, cell) => cell.values

def count (t : ProbeTable) (c : Connectivity) : Nat := (verdicts t).countP (·.combined == c)

/-- The numbers of verdicts that occur. -/
def counts (t : ProbeTable) : List (Connectivity × Nat) :=
  (Connectivity.all.map fun c => (c, count t c)).filter (·.2 != 0)

def probeKeys (t : ProbeTable) : List String :=
  Ordered.distinct ((TruthTable.setCells t).flatMap fun (_, _, cell) => cell.keys)

/-- One grid for each port label, showing the part of each verdict that `part` picks. -/
def renderWith (part : Verdict → Option Connectivity) (t : ProbeTable) : String :=
  String.join ((probeKeys t).map fun key =>
    let cellText (cell : Option ProbeCell) : String :=
      ((cell >>= (·.get? key) >>= part).getD .unknown).short
    key ++ ":\n" ++ TruthTable.render cellText t ++ "\n")

def renderCombined (t : ProbeTable) : String := renderWith (some ·.combined) t

def renderIngress (t : ProbeTable) : String := renderWith (·.ingress) t

def renderEgress (t : ProbeTable) : String := renderWith (·.egress) t

end ProbeTable

/-- Jobs that cannot be dispatched report why. -/
def Jobs.undispatched (jobs : Jobs) : List JobResult :=
  jobs.badNamedPort.map (⟨·, .invalid .invalidNamedPort⟩) ++
    jobs.badPortProtocol.map (⟨·, .invalid .invalidPortProtocol⟩)

inductive Agreement where
  | same
  | different
  | ignored
  deriving DecidableEq, Repr

namespace Agreement

/-- One character, for table cells. -/
def short : Agreement → String
  | same => "."
  | different => "X"
  | ignored => "?"

/-- The name in documents. -/
def name : Agreement → String
  | same => "same"
  | different => "different"
  | ignored => "ignored"

/-- Outcomes agree if both are there and equal. -/
def ofOutcomes (expected actual : Option Connectivity) : Agreement :=
  if expected.isSome && expected == actual then same else different

end Agreement

structure AgreementCounts where
  same : Nat := 0
  different : Nat := 0
  ignored : Nat := 0
  deriving DecidableEq, Repr

namespace AgreementCounts

instance : Add AgreementCounts :=
  ⟨fun a b => ⟨a.same + b.same, a.different + b.different, a.ignored + b.ignored⟩⟩

def one : Agreement → AgreementCounts
  | .same => { same := 1 }
  | .different => { different := 1 }
  | .ignored => { ignored := 1 }

def sum (counts : List AgreementCounts) : AgreementCounts := counts.foldl (· + ·) {}

def total (c : AgreementCounts) : Nat := c.same + c.different + c.ignored

def text (c : AgreementCounts) : String :=
  "same " ++ toString c.same ++ ", different " ++ toString c.different ++ ", ignored " ++
    toString c.ignored

end AgreementCounts

/-- The protocol at the end of a label. -/
def labelProtocol? (key : String) : Option Protocol := do
  let (_, protocol) ← Text.cutAtLast? '/' key.toList
  Protocol.read? (String.ofList protocol)

abbrev ComparisonCell := SortedMap String Agreement

abbrev Comparison := TruthTable ComparisonCell

namespace Comparison

def cellKeys (cell : Option ProbeCell) : List String := (cell.map (·.keys)).getD []

def outcome (cell : Option ProbeCell) (key : String) : Option Connectivity :=
  (cell >>= (·.get? key)).map (·.combined)

def cell (ignoring : Bool) (expected actual : Option ProbeCell) : ComparisonCell :=
  .ofList ((Ordered.distinct (cellKeys expected ++ cellKeys actual)).map fun key =>
    (key, if ignoring then .ignored else .ofOutcomes (outcome expected key) (outcome actual key)))

/-- Over the rows and columns of the expected probe. Connections of a pod to itself may be
ignored. -/
def ofProbes (ignoreLoopback : Bool) (expected actual : ProbeTable) : Comparison :=
  TruthTable.map (fun row column wanted =>
    some (cell (ignoreLoopback && row == column) wanted (TruthTable.get? actual row column)))
    expected

/-- Every label of every cell. -/
def entries (t : Comparison) : List (String × Agreement) :=
  (TruthTable.setCells t).flatMap fun (_, _, cell) => cell.entries

def counts (t : Comparison) : AgreementCounts :=
  .sum ((entries t).map fun (_, agreement) => .one agreement)

/-- Labels without a protocol are left out. -/
def countsByProtocol (t : Comparison) : SortedMap Protocol AgreementCounts :=
  (entries t).foldl (fun counts (key, agreement) =>
    match labelProtocol? key with
    | some p => counts.alter p fun present => present.getD {} + .one agreement
    | none => counts) .empty

def isSame (t : Comparison) : Bool := (counts t).different == 0

/-- One grid for each label. -/
def render (t : Comparison) : String :=
  String.join ((Ordered.distinct ((entries t).map (·.1))).map fun key =>
    let cellText (cell : Option ComparisonCell) : String :=
      ((cell >>= (·.get? key)).map (·.short)).getD ""
    key ++ ":\n" ++ TruthTable.render cellText t ++ "\n")

end Comparison
end PodTraffic
