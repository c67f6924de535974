import PodTraffic.Collections
import PodTraffic.Document
import PodTraffic.Text.Lower

/-!
# Policy manifests

Network policies as they are written and stored. An absent part and an empty one are different
values. A selector asks for label values and for set requirements; a label map matches it when every
one holds. Selectors that differ only in the order of requirements and values, or in absent and
empty parts, have one normal form and so one key.
-/
namespace PodTraffic

abbrev Labels := SortedMap String String

def Labels.text (labels : Labels) : String :=
  ",".intercalate (labels.entries.map fun (key, value) => key ++ "=" ++ value)

structure Requirement where
  key : String
  operator : String
  values : Option (List String)
  deriving DecidableEq

structure LabelSelector where
  matchLabels : Option Labels := none
  matchExpressions : Option (List Requirement) := none
  deriving DecidableEq

inductive Operator where
  | isIn
  | notIn
  | present
  | absent
  | unknown
  deriving DecidableEq, Repr

def Operator.ofName (name : String) : Operator :=
  if name == "In" then isIn
  else if name == "NotIn" then notIn
  else if name == "Exists" then present
  else if name == "DoesNotExist" then absent
  else unknown

namespace Requirement

def valueList (r : Requirement) : List String := r.values.getD []

/-- `NotIn` asks for the key to be present; an unknown operator never holds. -/
def holds (r : Requirement) (labels : Labels) : Bool :=
  match Operator.ofName r.operator, labels.get? r.key with
  | .isIn, some value => r.valueList.contains value
  | .notIn, some value => !r.valueList.contains value
  | .present, some _ => true
  | .absent, none => true
  | _, _ => false

instance : Ord Requirement :=
  ⟨compareLex (compareOn (·.key))
    (compareLex (compareOn (·.operator)) (compareOn (·.values)))⟩

instance : Std.TransOrd Requirement :=
  inferInstanceAs (Std.TransCmp (compareLex (compareOn fun r : Requirement => r.key)
    (compareLex (compareOn (·.operator)) (compareOn (·.values)))))

/-- Values sorted, one of each; no values at all are absent. -/
def normalize (r : Requirement) : Requirement :=
  let values := Ordered.distinct r.valueList
  { r with values := if values.isEmpty then none else some values }

def text (r : Requirement) : String :=
  r.key ++ " " ++ r.operator ++ " [" ++ ",".intercalate r.valueList ++ "]"

def describe (r : Requirement) : String :=
  match Operator.ofName r.operator with
  | .present => r.key ++ " exists"
  | .absent => r.key ++ " does not exist"
  | _ => r.key ++ " " ++ Text.lower r.operator ++ " (" ++ ", ".intercalate r.valueList ++ ")"

end Requirement

namespace LabelSelector

def labels (s : LabelSelector) : Labels := s.matchLabels.getD .empty

def expressions (s : LabelSelector) : List Requirement := s.matchExpressions.getD []

def isEmpty (s : LabelSelector) : Bool := s.labels.isEmpty && s.expressions.isEmpty

def isMatch (s : LabelSelector) (labels : Labels) : Bool :=
  s.labels.entries.all (fun (key, value) => labels.get? key == some value) &&
    s.expressions.all (·.holds labels)

def normalize (s : LabelSelector) : LabelSelector where
  matchLabels := s.matchLabels.filter (!·.isEmpty)
  matchExpressions :=
    (s.matchExpressions.map fun es => Ordered.sort (es.map (·.normalize))).filter (!·.isEmpty)

/-- The same text for selectors of the same normal form. -/
def key (s : LabelSelector) : String :=
  let s := s.normalize
  "\x7blabels: [" ++ s.labels.text ++ "], expressions: [" ++
    ",".intercalate (s.expressions.map (·.text)) ++ "]\x7d"

def describe (s : LabelSelector) : String :=
  if s.isEmpty then "all"
  else
    let s := s.normalize
    " && ".intercalate
      (s.labels.entries.map (fun (key, value) => key ++ "=" ++ value) ++
        s.expressions.map (·.describe))

end LabelSelector

/-- An empty matcher stands for every name. -/
def nameMatches (matcher name : String) : Bool := matcher.isEmpty || matcher == name

inductive IntOrText where
  | int (n : Int)
  | text (s : String)
  deriving DecidableEq, Repr

structure PortRule where
  protocol : Option String := none
  port : Option IntOrText := none
  endPort : Option Int := none
  deriving DecidableEq

structure BlockRule where
  cidr : String
  except : Option (List String) := none
  deriving DecidableEq

structure PeerRule where
  ipBlock : Option BlockRule := none
  namespaceSelector : Option LabelSelector := none
  podSelector : Option LabelSelector := none
  deriving DecidableEq

/-- One entry of `ingress` (its peers are `from`) or `egress` (its peers are `to`). -/
structure Rule where
  ports : Option (List PortRule) := none
  peers : Option (List PeerRule) := none
  deriving DecidableEq

structure PolicySpec where
  podSelector : LabelSelector := {}
  policyTypes : Option (List String) := none
  ingress : Option (List Rule) := none
  egress : Option (List Rule) := none
  deriving DecidableEq

structure Metadata where
  name : Option String := none
  ns : Option String := none
  /-- Fields that carry no meaning here, in their written form. -/
  others : Fields := []

structure NetworkPolicy where
  metadata : Metadata := {}
  spec : Option PolicySpec := none

namespace NetworkPolicy

/-- The namespace `default` when none, or an empty one, is given. -/
def ns (p : NetworkPolicy) : String := (p.metadata.ns.filter (!·.isEmpty)).getD "default"

def shortName (p : NetworkPolicy) : String := p.metadata.name.getD ""

def fullName (p : NetworkPolicy) : String := p.ns ++ "/" ++ p.shortName

/-- As a cluster stores it: without policy types, ingress is one, and so is egress if there are
egress rules. -/
def withDefaultTypes (p : NetworkPolicy) : NetworkPolicy :=
  { p with
    spec := p.spec.map fun spec =>
      if (spec.policyTypes.getD []).isEmpty then
        let egress := if (spec.egress.getD []).isEmpty then [] else ["Egress"]
        { spec with policyTypes := some ("Ingress" :: egress) }
      else spec }

end NetworkPolicy
end PodTraffic
