import PodTraffic.Address
import PodTraffic.TestCase
import PodTraffic.Traffic

/-!
# The corpus of test cases

Test cases for each shape of policy: which directions and rules, targets, ports, peers, several
policies at once, and changes between probes. Policies select the first pod of the first
namespace; peers are in the second namespace or are the second pod.
-/
namespace PodTraffic

structure CorpusOptions where
  allowDns : Bool := true
  dnsPort : Nat := 53
  /-- Lies in the address blocks of the corpus. -/
  podIp : Address := .ofParts .v4 8 [192, 168, 0, 1]
  namespaces : List String := ["x", "y", "z"]
  pods : List String := ["a", "b", "c"]
  ports : List Nat := [80, 81]
  protocols : List Protocol := Protocol.all

namespace CorpusOptions

variable (o : CorpusOptions)

/-- The value at a position, else the first, else the fallback. -/
def pick (values : List α) (i : Nat) (fallback : α) : α :=
  (values[i]? <|> values.head?).getD fallback

def ns : String := pick o.namespaces 0 "x"

def peerNs : String := pick o.namespaces 1 "y"

def pod : String := pick o.pods 0 "a"

def peerPod : String := pick o.pods 1 "b"

def port : Nat := pick o.ports 0 80

def otherPort : Nat := pick o.ports 1 80

def podSelector : LabelSelector := .ofLabels [("pod", o.pod)]

def peerPodSelector : LabelSelector := .ofLabels [("pod", o.peerPod)]

def peerNsSelector : LabelSelector := .ofLabels [("ns", o.peerNs)]

def draft (name : String) : Draft := { ns := o.ns, name, target := o.podSelector }

def withRules (d : Draft) (rules : Option (List Rule)) : Direction → NetworkPolicy
  | .ingress => (d.withIngress rules).policy
  | .egress => (d.withEgress rules).policy

def directions : List Direction := [.ingress, .egress]

def directionTags : Direction → List String
  | .ingress => ["has-ingress", "ingress-only"]
  | .egress => ["has-egress", "egress-only"]

def protocolTag (p : Protocol) : String := "protocol-" ++ p.lowerName

/-- The name that a server gives its port. -/
def portName (port : Nat) (p : Protocol) : String :=
  "serve-" ++ toString port ++ "-" ++ p.lowerName

def single (description : String) (tags : List String) (policy : NetworkPolicy) : TestCase :=
  .make description tags [.creating [policy]]

def noPolicyCases : List TestCase :=
  [.make "no policies: all traffic allowed" ["no-policy"] [{ actions := [] }]]

def ruleVariants : List (String × Option (List Rule)) :=
  [("rules-nil", none), ("rules-empty", some []), ("rules-one", some [.everything]),
    ("rules-two",
      some [.onPorts [.numbered o.port (some .tcp)],
        .withPeers [.pods none (some o.peerPodSelector)]])]

def shapeCases : List TestCase :=
  o.ruleVariants.flatMap (fun (tag, rules) =>
    directions.map (fun d =>
      single (d.name ++ " policy, " ++ tag) (tag :: directionTags d)
        (withRules (o.draft "shape") rules d)) ++
    [single ("ingress and egress policy, " ++ tag)
      ["ingress-and-egress", "has-ingress", "has-egress", tag]
      (((o.draft "shape").withIngress rules).withEgress rules).policy]) ++
  [single "policy with neither ingress nor egress" ["no-direction"] (o.draft "shape").policy]

def targetVariants : List (String × String × LabelSelector) :=
  [("target-selector-empty", "all pods", {}),
    ("target-match-labels", "pod label", o.podSelector),
    ("target-match-expressions", "pod In", .ofRequirement "pod" "In" [o.pod, o.peerPod]),
    ("target-match-expressions", "pod NotIn", .ofRequirement "pod" "NotIn" [o.pod]),
    ("target-match-expressions", "pod Exists", .ofRequirement "pod" "Exists" []),
    ("target-match-expressions", "app DoesNotExist", .ofRequirement "app" "DoesNotExist" [])]

def targetCases : List TestCase :=
  o.targetVariants.flatMap fun (tag, name, target) =>
    directions.map fun d =>
      single ("deny all " ++ d.name ++ " to target selected by " ++ name)
        (directionTags d ++ [tag, "rules-nil", "deny-all"])
        (withRules { ns := o.ns, name := "target", target } none d)

structure PortVariant where
  tags : List String
  ports : Option (List PortRule)
  probe : ProbeConfig := .allAvailable

def protocolVariants (p : Protocol) : List PortVariant :=
  let name := portName o.port p
  [⟨["port-numbered", protocolTag p], some [.numbered o.port (some p)], .allAvailable⟩,
    ⟨["port-named", protocolTag p], some [.named name p], .port (.name name) p⟩,
    ⟨["port-protocol-only", protocolTag p], some [.everyPort p], .allAvailable⟩]

/-- The name of a port asked for on another protocol, and ports on two protocols. -/
def mixedVariants : List PortVariant :=
  let name := portName o.port .tcp
  [⟨["port-named", "protocol-udp"], some [.named name .udp], .port (.name name) .udp⟩,
    ⟨["port-numbered", "protocol-tcp", "protocol-udp"],
      some [.numbered o.port (some .tcp), .numbered o.otherPort (some .udp)], .allAvailable⟩]

def portVariants : List PortVariant :=
  let range := PortRule.range (min o.port o.otherPort) (max o.port o.otherPort) .tcp
  [⟨["port-nil"], none, .allAvailable⟩, ⟨["port-empty"], some [], .allAvailable⟩,
    ⟨["port-numbered", "protocol-tcp"], some [.numbered o.port none], .allAvailable⟩,
    ⟨["port-range", "protocol-tcp"], some [range], .allAvailable⟩] ++
  o.protocols.flatMap o.protocolVariants ++
  if o.protocols.contains .udp then o.mixedVariants else []

/-- What tells the variants of one kind apart. -/
def variantText (d : Direction) (kind : String) (i : Nat) (tags : List String) : String :=
  d.name ++ " " ++ kind ++ " spec #" ++ toString i ++ ": " ++ ", ".intercalate tags

def portCases : List TestCase :=
  o.portVariants.zipIdx.flatMap fun (v, i) =>
    directions.map fun d =>
      let policy := withRules (o.draft "ports") (some [{ ports := v.ports }]) d
      .make (variantText d "port" i v.tags) (directionTags d ++ v.tags ++ ["rules-one", "peer-nil"])
        [{ probe := v.probe, actions := [.createPolicy policy] }]

def peerVariants : List (List String × Option (List PeerRule)) :=
  let blockText := (Network.subnet o.podIp).text
  [(["peer-nil"], none), (["peer-empty"], some []),
    (["pod-selector-only", "namespace-selector-nil"], some [.pods none (some o.peerPodSelector)]),
    (["pod-selector-empty", "namespace-selector-nil"], some [.pods none (some {})]),
    (["pod-selector-expressions", "namespace-selector-nil"],
      some [.pods none (some (.ofRequirement "pod" "NotIn" [o.peerPod]))]),
    (["namespace-selector-only"], some [.pods (some o.peerNsSelector) none]),
    (["namespace-selector-empty"], some [.pods (some {}) none]),
    (["pod-and-namespace-selector"],
      some [.pods (some o.peerNsSelector) (some o.peerPodSelector)]),
    (["pod-and-namespace-selector", "namespace-selector-empty"],
      some [.pods (some {}) (some o.peerPodSelector)]),
    (["peer-ipblock"], some [.block blockText []]),
    (["peer-ipblock", "peer-ipblock-except"],
      some [.block blockText [(Network.single o.podIp).text]]),
    (["peers-two", "pod-selector-only", "namespace-selector-only"],
      some [.pods none (some o.peerPodSelector), .pods (some o.peerNsSelector) none])]

def peerCases : List TestCase :=
  o.peerVariants.zipIdx.flatMap fun ((tags, peers), i) =>
    directions.map fun d =>
      single (variantText d "peer" i tags) (directionTags d ++ tags ++ ["rules-one", "port-nil"])
        (withRules (o.draft "peers") (some [{ peers }]) d)

def policyCases : List TestCase :=
  let inNs := o.peerNsSelector
  let inPod := o.peerPodSelector
  let peers (name : String) (peers : List PeerRule) : NetworkPolicy :=
    ((o.draft name).withIngress (some [.withPeers peers])).policy
  [.make "deny all and allow all ingress combine to allow all"
      ["deny-all", "allow-all", "ingress-only", "has-ingress"]
      [.creating [.denyIngress o.ns "deny-all", .allowIngress o.ns "allow-all"]],
    single "namespace and pod selector in one peer"
      ["accidental-and", "pod-and-namespace-selector", "ingress-only", "has-ingress"]
      (peers "accidental-and" [.pods (some inNs) (some inPod)]),
    single "namespace and pod selector in separate peers"
      ["accidental-or", "peers-two", "ingress-only", "has-ingress"]
      (peers "accidental-or" [.pods (some inNs) none, .pods none (some inPod)]),
    .make "deny ingress and deny egress from separate policies"
      ["split-directions", "deny-all", "has-ingress", "has-egress"]
      [.creating [.denyIngress o.ns "deny-ingress", .denyEgress o.ns "deny-egress"]]]

def extraNs : String := "netpol-extra"

def extraPod : String := "extra"

/-- Every step probes every served port. -/
def steps (actions : List (List Action)) : List TestStep := actions.map fun actions => { actions }

def actionCases : List TestCase :=
  let draft (name : String) : Draft := o.draft name
  let fromApi := .pods (some {}) (some (.ofLabels [("role", "api")]))
  let fromAlice := .pods (some (.ofLabels [("user", "alice")])) none
  let toPeerNs := .pods (some o.peerNsSelector) none
  let rules (peer : PeerRule) : Option (List Rule) := some [.withPeers [peer]]
  [.make "pod gains the label an ingress rule selects"
      ["set-pod-labels", "multi-step", "pod-and-namespace-selector", "has-ingress"]
      (steps [[.createPolicy ((draft "allow-api").withIngress (rules fromApi)).policy],
        [.setPodLabels o.ns o.peerPod (.ofList [("pod", o.peerPod), ("role", "api")])]]),
    .make "namespace gains the label an ingress rule selects"
      ["set-namespace-labels", "multi-step", "namespace-selector-only", "has-ingress"]
      (steps [[.createPolicy ((draft "allow-alice").withIngress (rules fromAlice)).policy],
        [.setNamespaceLabels o.peerNs (.ofList [("ns", o.peerNs), ("user", "alice")])]]),
    .make "deny all ingress updated to allow all"
      ["update-policy", "create-policy", "multi-step", "deny-all", "allow-all", "has-ingress"]
      (steps [[.createPolicy (.denyIngress o.ns "flip")],
        [.updatePolicy (.allowIngress o.ns "flip")]]),
    .make "deny all ingress then delete it"
      ["delete-policy", "create-policy", "multi-step", "deny-all", "has-ingress"]
      (steps [[.createPolicy (.denyIngress o.ns "deny-all")], [.deletePolicy o.ns "deny-all"]]),
    .make "policies read back from the cluster"
      ["read-policies", "create-policy", "multi-step", "deny-all", "has-egress"]
      (steps [[.createPolicy (.denyEgress o.ns "deny-egress")], [.readPolicies o.namespaces]]),
    .make "pod created and deleted under a deny all policy"
      ["create-pod", "delete-pod", "multi-step", "deny-all", "has-ingress"]
      (steps [[.createPolicy (.denyIngress o.ns "deny-all")],
        [.createPod o.ns extraPod (.ofList [("pod", extraPod)])], [.deletePod o.ns extraPod]]),
    .make "namespace created and deleted next to an egress policy"
      ["create-namespace", "delete-namespace", "create-pod", "multi-step", "has-egress"]
      (steps [[.createPolicy ((draft "egress-to-y").withEgress (rules toPeerNs)).policy,
          .createNamespace extraNs (.ofList [("ns", extraNs)]),
          .createPod extraNs extraPod (.ofList [("pod", extraPod)])],
        [.deleteNamespace extraNs]])]

/-- Every case; policies let name lookups through if so asked. -/
def cases : List TestCase :=
  let cases := noPolicyCases ++ o.shapeCases ++ o.targetCases ++ o.portCases ++ o.peerCases ++
    o.policyCases ++ o.actionCases
  if o.allowDns then cases.map (·.withDns o.dnsPort) else cases

end CorpusOptions
end PodTraffic
