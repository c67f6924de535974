import PodTraffic.Peer
import PodTraffic.Text

/-!
# Compiled policies

Targets select pods; each lists the matchers of the peers it lets through. A pod that no target
selects is unrestricted; a selected one accepts what any of its targets lets through. Each manifest
gives one target for each direction that its policy types name; targets of one key are united in
manifest order, and the first manifest with a fault stops the compilation. A simplified peer list
has one matcher of every peer first, then address blocks, then pods, one for each block and each
choice of pods; ports that every peer has are left out of the others.
-/
namespace PodTraffic

/-- Matchers by kind, in order of first occurrence. -/
structure PeerGroups where
  everyone : Option PortMatcher := none
  blocks : List (IpBlock × PortMatcher) := []
  pods : List (NamespaceMatcher × PodMatcher × PortMatcher) := []

namespace PeerGroups

/-- The ports of the entry with this block's text, or a new entry at the end. -/
def addBlock (b : IpBlock) (port : PortMatcher) :
    List (IpBlock × PortMatcher) → List (IpBlock × PortMatcher)
  | [] => [(b, port)]
  | (b', port') :: rest =>
    if b'.text == b.text then (b', port'.union port) :: rest
    else (b', port') :: addBlock b port rest

def addPods (ns : NamespaceMatcher) (pods : PodMatcher) (port : PortMatcher) :
    List (NamespaceMatcher × PodMatcher × PortMatcher) →
      List (NamespaceMatcher × PodMatcher × PortMatcher)
  | [] => [(ns, pods, port)]
  | (ns', pods', port') :: rest =>
    if PeerMatcher.podKey ns' pods' == PeerMatcher.podKey ns pods then
      (ns', pods', port'.union port) :: rest
    else (ns', pods', port') :: addPods ns pods port rest

def add (g : PeerGroups) : PeerMatcher → PeerGroups
  | .all | .nobody => g
  | .ports port => { g with everyone := some ((g.everyone.map (·.union port)).getD port) }
  | .block b port => { g with blocks := addBlock b port g.blocks }
  | .pod ns pods port => { g with pods := addPods ns pods port g.pods }

/-- The ports not open to everyone; `none` when none are left. -/
def remaining (g : PeerGroups) (port : PortMatcher) : Option PortMatcher :=
  match g.everyone with
  | none => some port
  | some covered => port.subtract covered

def matchers (g : PeerGroups) : List PeerMatcher :=
  (g.everyone.map PeerMatcher.ports).toList ++
    g.blocks.filterMap (fun (b, port) => (g.remaining port).map (.block b)) ++
    g.pods.filterMap fun (ns, pods, port) => (g.remaining port).map (.pod ns pods)

end PeerGroups

def simplifyPeers (peers : List PeerMatcher) : List PeerMatcher :=
  let groups := peers.foldl PeerGroups.add {}
  if peers.contains .all || groups.everyone == some .all then [.all]
  else if groups.matchers.isEmpty then [.nobody]
  else groups.matchers

structure Target where
  ns : String
  selector : LabelSelector
  peers : List PeerMatcher
  /-- Positions of the policies that it comes from. -/
  sources : List Nat
  deriving DecidableEq

namespace Target

def keyOf (ns : String) (selector : LabelSelector) : String :=
  "\x7bnamespace: " ++ ns ++ ", podSelector: " ++ selector.key ++ "\x7d"

def key (t : Target) : String := keyOf t.ns t.selector

/-- The peers of both; sources once each. -/
def union (s t : Target) : Target :=
  { s with
    peers := s.peers ++ t.peers
    sources := t.sources.foldl
      (fun sources i => if sources.contains i then sources else sources ++ [i]) s.sources }

def selects (t : Target) (ns : String) (labels : Labels) : Bool :=
  t.ns == ns && t.selector.isMatch labels

def allows (t : Target) (peer : Endpoint) (q : PortQuery) : Bool :=
  t.peers.any (·.allows peer q)

def simplify (t : Target) : Target := { t with peers := simplifyPeers t.peers }

end Target

abbrev TargetMap := SortedMap String Target

structure Policy where
  sources : List NetworkPolicy := []
  ingress : TargetMap := .empty
  egress : TargetMap := .empty

/-- Which of the targets that select an endpoint let the traffic through. -/
structure DirectionVerdict where
  allowing : List Target := []
  denying : List Target := []

def DirectionVerdict.hasTargets (v : DirectionVerdict) : Bool :=
  !v.allowing.isEmpty || !v.denying.isEmpty

def DirectionVerdict.isAllowed (v : DirectionVerdict) : Bool :=
  !v.allowing.isEmpty || v.denying.isEmpty

structure TrafficVerdict where
  ingress : DirectionVerdict
  egress : DirectionVerdict

def TrafficVerdict.isAllowed (v : TrafficVerdict) : Bool :=
  v.ingress.isAllowed && v.egress.isAllowed

namespace Policy

def targetMap (p : Policy) : Direction → TargetMap
  | .ingress => p.ingress
  | .egress => p.egress

def mapTargets (f : TargetMap → TargetMap) (d : Direction) (p : Policy) : Policy :=
  match d with
  | .ingress => { p with ingress := f p.ingress }
  | .egress => { p with egress := f p.egress }

/-- In key order. -/
def targets (p : Policy) (d : Direction) : List Target := (p.targetMap d).values

def target? (p : Policy) (d : Direction) (key : String) : Option Target := (p.targetMap d).get? key

def isEmpty (p : Policy) : Bool := p.ingress.isEmpty && p.egress.isEmpty

def sourceName (p : Policy) (i : Nat) : String :=
  match p.sources[i]? with
  | some source => source.fullName
  | none => "<unknown policy #" ++ toString i ++ ">"

/-- Targets of one key become one. -/
def addTarget (p : Policy) (d : Direction) (t : Target) : Policy :=
  p.mapTargets (fun targets => targets.alter t.key fun
    | some present => present.union t
    | none => t) d

def targetsFor (p : Policy) (d : Direction) (ns : String) (labels : Labels) : List Target :=
  (p.targets d).filter (·.selects ns labels)

def direction (p : Policy) (d : Direction) (t : Traffic) : DirectionVerdict :=
  match (d.near t).pod with
  | none => {}
  | some pod =>
    let targets := p.targetsFor d pod.ns pod.labels
    ⟨targets.filter (·.allows (d.far t) t.port), targets.filter (!·.allows (d.far t) t.port)⟩

def verdict (p : Policy) (t : Traffic) : TrafficVerdict :=
  ⟨p.direction .ingress t, p.direction .egress t⟩

def simplify (p : Policy) : Policy :=
  { p with ingress := p.ingress.map Target.simplify, egress := p.egress.map Target.simplify }

end Policy

def PolicySpec.rules? (spec : PolicySpec) : Direction → Option (List Rule)
  | .ingress => spec.ingress
  | .egress => spec.egress

def PolicySpec.rules (spec : PolicySpec) (d : Direction) : List Rule := (spec.rules? d).getD []

/-- The targets of one manifest. -/
structure TargetPair where
  ingress : Option Target := none
  egress : Option Target := none

def TargetPair.set (pair : TargetPair) (d : Direction) (t : Target) : TargetPair :=
  match d with
  | .ingress => { pair with ingress := some t }
  | .egress => { pair with egress := some t }

namespace NetworkPolicy

/-- The matchers start from `nobody`, so that no rules at all deny everything. -/
def target (p : NetworkPolicy) (source : Nat) (spec : PolicySpec) (d : Direction) :
    Except PolicyError Target := do
  let peers ← (spec.rules d).mapM fun rule =>
    PeerMatcher.ofRule p.fullName p.ns (rule.ports.getD []) (rule.peers.getD [])
  return ⟨p.ns, spec.podSelector, .nobody :: peers.flatten, [source]⟩

def targets (p : NetworkPolicy) (source : Nat) : Except PolicyError TargetPair :=
  match p.spec with
  | none => throw (.malformed p.fullName .missingSpec)
  | some spec =>
    match spec.policyTypes.getD [] with
    | [] => throw (.missingTypes p.fullName)
    | types => types.foldlM (fun pair name =>
        match Direction.ofTitle? name with
        | some d => pair.set d <$> p.target source spec d
        | none => throw (.malformed p.fullName (.unknownType name))) {}

end NetworkPolicy

namespace Policy

def addPair (p : Policy) (pair : TargetPair) : Policy :=
  let p := match pair.ingress with
    | some t => p.addTarget .ingress t
    | none => p
  match pair.egress with
  | some t => p.addTarget .egress t
  | none => p

def addManifest (p : Policy) (source : NetworkPolicy × Nat) : Except PolicyError Policy :=
  p.addPair <$> source.1.targets source.2

def compile (manifests : List NetworkPolicy) : Except PolicyError Policy :=
  manifests.zipIdx.foldlM addManifest { sources := manifests }

/-- Compile, and simplify at the end if asked to. -/
def build (simplified : Bool) (manifests : List NetworkPolicy) : Except PolicyError Policy :=
  (fun p => if simplified then p.simplify else p) <$> compile manifests

def explainTarget (p : Policy) (t : Target) : List String :=
  ["  Namespace:    " ++ t.ns,
    "  Pod selector: " ++ t.selector.describe,
    "  Policies:     " ++ ", ".intercalate (t.sources.map p.sourceName),
    "  Peers:"] ++ t.peers.map ("    - " ++ ·.text)

def explainDirection (p : Policy) (d : Direction) : List String :=
  match p.targets d with
  | [] => []
  | targets => (d.title ++ ":") :: targets.flatMap p.explainTarget

def explain (p : Policy) : String :=
  match p.explainDirection .ingress ++ p.explainDirection .egress with
  | [] => Text.unlines ["no policies: all traffic allowed"]
  | lines => Text.unlines lines

end Policy

def verdictWord (allowed : Bool) : String := if allowed then "allowed" else "blocked"

def DirectionVerdict.explain (v : DirectionVerdict) (p : Policy) : String :=
  let names (targets : List Target) : String :=
    ", ".intercalate (targets.flatMap fun t => t.sources.map p.sourceName)
  if v.hasTargets then
    verdictWord v.isAllowed ++ ": allowed by [" ++ names v.allowing ++ "], denied by [" ++
      names v.denying ++ "]"
  else "allowed: no targets apply"

def TrafficVerdict.explain (v : TrafficVerdict) (p : Policy) : String :=
  "Ingress " ++ v.ingress.explain p ++ "\nEgress " ++ v.egress.explain p ++ "\nCombined: " ++
    verdictWord v.isAllowed

end PodTraffic
