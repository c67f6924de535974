import PodTraffic.Collections
import PodTraffic.Manifest
import PodTraffic.Port
import PodTraffic.Text.Escaped
import PodTraffic.Traffic

/-!
# Test cases

Steps of actions, each followed by a probe, under a description and a sorted set of tags. An action
is a single change to what a cluster holds; reading policies takes over what the cluster stores.
Policies are drafted part by part: a direction that a draft has becomes a policy type, and its rules
may still be absent. Every known tag belongs to one category, and a list of names to pick by may
hold both.
-/
namespace PodTraffic

namespace Tag

/-- Each category with its tags. -/
def catalogue : List (String × List String) :=
  [("policy-shape",
      ["no-policy", "ingress-only", "egress-only", "ingress-and-egress", "no-direction"]),
    ("direction", ["has-ingress", "has-egress"]),
    ("rules", ["rules-nil", "rules-empty", "rules-one", "rules-two"]),
    ("target", ["target-selector-empty", "target-match-labels", "target-match-expressions"]),
    ("port",
      ["port-nil", "port-empty", "port-numbered", "port-named", "port-range",
        "port-protocol-only"]),
    ("protocol", ["protocol-tcp", "protocol-udp", "protocol-sctp"]),
    ("peer",
      ["peer-nil", "peer-empty", "pod-selector-only", "pod-selector-empty",
        "pod-selector-expressions", "namespace-selector-only", "namespace-selector-empty",
        "namespace-selector-nil", "pod-and-namespace-selector", "peer-ipblock",
        "peer-ipblock-except", "peers-two"]),
    ("multi-policy",
      ["deny-all", "allow-all", "accidental-and", "accidental-or", "split-directions"]),
    ("action",
      ["set-pod-labels", "set-namespace-labels", "create-policy", "update-policy",
        "delete-policy", "read-policies", "create-pod", "delete-pod", "create-namespace",
        "delete-namespace", "multi-step"])]

def all : List String := Ordered.distinct (catalogue.flatMap (·.2))

def category? (tag : String) : Option String :=
  (catalogue.find? fun entry => entry.2.contains tag).map (·.1)

/-- An unknown tag is a category of its own. -/
def category (tag : String) : String := (category? tag).getD tag

/-- A tag or a category. -/
def isKnown (name : String) : Bool :=
  catalogue.any fun entry => entry.1 == name || entry.2.contains name

/-- A category stands for its tags. -/
def expand (names : List String) : List String :=
  Ordered.distinct (names.flatMap fun name => (catalogue.lookup name).getD [name])

def byCategory (tags : List String) : SortedMap String (List String) :=
  tags.foldl (fun groups tag =>
    groups.alter (category tag) fun present => Ordered.insertNew tag (present.getD [])) .empty

end Tag

namespace LabelSelector

def ofLabels (pairs : List (String × String)) : LabelSelector :=
  { matchLabels := some (.ofList pairs) }

/-- No values at all are absent. -/
def ofRequirement (key operator : String) (values : List String) : LabelSelector :=
  { matchExpressions := some [⟨key, operator, if values.isEmpty then none else some values⟩] }

end LabelSelector

namespace PortRule

def numbered (port : Nat) (protocol : Option Protocol) : PortRule :=
  { port := some (.int port), protocol := protocol.map (·.name) }

def named (name : String) (protocol : Protocol) : PortRule :=
  { port := some (.text name), protocol := some protocol.name }

def range (first last : Nat) (protocol : Protocol) : PortRule :=
  { port := some (.int first), endPort := some last, protocol := some protocol.name }

def everyPort (protocol : Protocol) : PortRule := { protocol := some protocol.name }

end PortRule

namespace PeerRule

def pods (namespaces pods : Option LabelSelector) : PeerRule :=
  { namespaceSelector := namespaces, podSelector := pods }

/-- No exceptions at all are absent. -/
def block (cidr : String) (except : List String) : PeerRule :=
  { ipBlock := some ⟨cidr, if except.isEmpty then none else some except⟩ }

end PeerRule

namespace Rule

/-- Neither ports nor peers: lets everything through. -/
def everything : Rule := {}

def onPorts (ports : List PortRule) : Rule := { ports := some ports }

def withPeers (peers : List PeerRule) : Rule := { peers := some peers }

/-- Lets name lookups on the port through. -/
def dns (port : Nat) : Rule :=
  onPorts [.numbered port (some .udp), .numbered port (some .tcp)]

end Rule

structure Draft where
  ns : String
  name : String
  target : LabelSelector := {}
  ingress : Option (Option (List Rule)) := none
  egress : Option (Option (List Rule)) := none

namespace Draft

def withIngress (d : Draft) (rules : Option (List Rule)) : Draft := { d with ingress := some rules }

def withEgress (d : Draft) (rules : Option (List Rule)) : Draft := { d with egress := some rules }

def policyTypes (d : Draft) : List String :=
  (if d.ingress.isSome then ["Ingress"] else []) ++ if d.egress.isSome then ["Egress"] else []

def policy (d : Draft) : NetworkPolicy where
  metadata := { name := some d.name, ns := some d.ns }
  spec := some {
    podSelector := d.target
    policyTypes := some d.policyTypes
    ingress := d.ingress.join
    egress := d.egress.join }

end Draft

/-- With the rule for lookups, if egress is one of the types. -/
def PolicySpec.withDns (port : Nat) (spec : PolicySpec) : PolicySpec :=
  if (spec.policyTypes.getD []).contains "Egress" then
    { spec with egress := some (spec.egress.getD [] ++ [.dns port]) }
  else spec

namespace NetworkPolicy

def denyIngress (ns name : String) : NetworkPolicy :=
  (Draft.withIngress { ns, name } none).policy

def denyEgress (ns name : String) : NetworkPolicy :=
  (Draft.withEgress { ns, name } none).policy

def allowIngress (ns name : String) : NetworkPolicy :=
  (Draft.withIngress { ns, name } (some [.everything])).policy

/-- With name lookups let through, where egress is restricted. -/
def withDns (port : Nat) (p : NetworkPolicy) : NetworkPolicy :=
  { p with spec := p.spec.map (·.withDns port) }

end NetworkPolicy

inductive Action where
  | createPolicy (policy : NetworkPolicy)
  | updatePolicy (policy : NetworkPolicy)
  | deletePolicy (ns name : String)
  | readPolicies (namespaces : List String)
  | setPodLabels (ns pod : String) (labels : Labels)
  | setNamespaceLabels (ns : String) (labels : Labels)
  | createNamespace (ns : String) (labels : Labels)
  | deleteNamespace (ns : String)
  | createPod (ns pod : String) (labels : Labels)
  | deletePod (ns pod : String)

namespace Action

/-- The policy that is written. -/
def policy? : Action → Option NetworkPolicy
  | createPolicy p | updatePolicy p => some p
  | _ => none

def mapPolicy (f : NetworkPolicy → NetworkPolicy) : Action → Action
  | createPolicy p => createPolicy (f p)
  | updatePolicy p => updatePolicy (f p)
  | action => action

def text : Action → String
  | createPolicy p => "create policy " ++ p.fullName
  | updatePolicy p => "update policy " ++ p.fullName
  | deletePolicy ns name => "delete policy " ++ ns ++ "/" ++ name
  | readPolicies namespaces => "read policies in [" ++ ", ".intercalate namespaces ++ "]"
  | setPodLabels ns pod labels =>
    "set labels of pod " ++ ns ++ "/" ++ pod ++ " to " ++ Text.quotedPairs labels.entries
  | setNamespaceLabels ns labels =>
    "set labels of namespace " ++ ns ++ " to " ++ Text.quotedPairs labels.entries
  | createNamespace ns _ => "create namespace " ++ ns
  | deleteNamespace ns => "delete namespace " ++ ns
  | createPod ns pod _ => "create pod " ++ ns ++ "/" ++ pod
  | deletePod ns pod => "delete pod " ++ ns ++ "/" ++ pod

end Action

structure TestStep where
  probe : ProbeConfig := .allAvailable
  actions : List Action

structure TestCase where
  description : String
  tags : List String
  steps : List TestStep

/-- A step that creates the policies and probes every served port. -/
def TestStep.creating (policies : List NetworkPolicy) : TestStep :=
  { actions := policies.map .createPolicy }

namespace TestCase

/-- Tags in any order. -/
def make (description : String) (tags : List String) (steps : List TestStep) : TestCase :=
  ⟨description, Ordered.distinct tags, steps⟩

/-- Every policy that some step writes, in order. -/
def policies (c : TestCase) : List NetworkPolicy :=
  c.steps.flatMap fun step => step.actions.filterMap (·.policy?)

def hasAnyTag (c : TestCase) (tags : List String) : Bool := c.tags.any tags.contains

/-- Every policy that is written lets name lookups through. -/
def withDns (port : Nat) (c : TestCase) : TestCase :=
  { c with steps := c.steps.map fun step =>
      { step with actions := step.actions.map (·.mapPolicy (·.withDns port)) } }

/-- The cases with some tag of `included`, or all if it is empty, and no tag of `excluded`. -/
def pick (included excluded : List String) (cases : List TestCase) : List TestCase :=
  let included := Tag.expand included
  let excluded := Tag.expand excluded
  cases.filter fun c => (included.isEmpty || c.hasAnyTag included) && !c.hasAnyTag excluded

end TestCase
end PodTraffic
