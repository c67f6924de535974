import PodTraffic.Policy
import PodTraffic.Trial

/-!
# Summaries of trials

Counts of results, of compared connections, and of results by tag and by feature. The features of a
case are the kinds of parts that its policies use, in sorted sets; only directions that a policy
names among its types count. The summary of several results is the sum of the summaries of each.
-/
namespace PodTraffic

namespace Feature

def ofCount (subject : String) : Nat → String
  | 1 => subject ++ "-one"
  | 2 => subject ++ "-two"
  | _ => subject ++ "-many"

def ofSelector (subject : String) (s : LabelSelector) : String :=
  if s.isEmpty then subject ++ "-all"
  else if s.expressions.isEmpty then subject ++ "-match-labels"
  else if s.labels.isEmpty then subject ++ "-match-expressions"
  else subject ++ "-labels-and-expressions"

def ofSelector? (subject : String) (s : Option LabelSelector) : String :=
  (s.map (ofSelector subject)).getD (subject ++ "-nil")

def ofPeer (p : PeerRule) : List String :=
  match p.ipBlock with
  | some block =>
    "ipblock" :: if (block.except.getD []).isEmpty then [] else ["ipblock-except"]
  | none => [ofSelector? "namespace" p.namespaceSelector, ofSelector? "pod" p.podSelector]

def ofPort (r : PortRule) : List String :=
  let protocol := match PortMatcher.ruleProtocol r with
    | .ok p => "protocol-" ++ p.lowerName
    | .error _ => "protocol-invalid"
  let kind := match r.port, r.endPort with
    | none, _ => "port-all"
    | some (.text _), _ => "port-named"
    | some (.int _), some _ => "port-range"
    | some (.int _), none => "port-numbered"
  [protocol, kind]

/-- Absent and empty parts are features of their own. -/
def ofParts (subject : String) (feature : α → List String) : Option (List α) → List String
  | none => [subject ++ "-nil"]
  | some [] => [subject ++ "-empty"]
  | some parts => parts.flatMap feature

def ofRules (d : Direction) (spec : PolicySpec) : List String :=
  let subject := d.name ++ "-rules"
  let kind := match spec.rules? d with
    | none => subject ++ "-nil"
    | some [] => subject ++ "-empty"
    | some rules => ofCount subject rules.length
  [d.name, kind]

/-- The direction is one of the policy types. -/
def names (spec : PolicySpec) (d : Direction) : Bool := (spec.policyTypes.getD []).contains d.title

def general (p : NetworkPolicy) (spec : PolicySpec) : List String :=
  (if p.ns == "default" then ["default-namespace"] else []) ++
    ([.ingress, .egress].filter (names spec)).flatMap fun d => ofRules d spec

/-- The features of every rule of a direction. -/
def ofEachRule (d : Direction) (feature : Rule → List String) (spec : PolicySpec) : List String :=
  if names spec d then (spec.rules d).flatMap feature else []

def ofPeers (r : Rule) : List String := ofParts "peers" ofPeer r.peers

def ofPorts (r : Rule) : List String := ofParts "ports" ofPort r.ports

end Feature

structure Features where
  general : List String
  target : List String
  ingressPeer : List String
  ingressPort : List String
  egressPeer : List String
  egressPort : List String
  deriving DecidableEq, Repr

namespace Features

/-- A policy without a spec has none. -/
def ofPolicies (policies : List NetworkPolicy) : Features :=
  let specs := policies.filterMap fun p => p.spec.map (p, ·)
  let all (feature : NetworkPolicy × PolicySpec → List String) : List String :=
    Ordered.distinct (specs.flatMap feature)
  { general := all fun (p, spec) => Feature.general p spec
    target := all fun (_, spec) => [Feature.ofSelector "target" spec.podSelector]
    ingressPeer := all fun (_, spec) => Feature.ofEachRule .ingress Feature.ofPeers spec
    ingressPort := all fun (_, spec) => Feature.ofEachRule .ingress Feature.ofPorts spec
    egressPeer := all fun (_, spec) => Feature.ofEachRule .egress Feature.ofPeers spec
    egressPort := all fun (_, spec) => Feature.ofEachRule .egress Feature.ofPorts spec }

def byCategory (f : Features) : SortedMap String (List String) :=
  .ofList [("general", f.general), ("target", f.target), ("ingress-peer", f.ingressPeer),
    ("ingress-port", f.ingressPort), ("egress-peer", f.egressPeer), ("egress-port", f.egressPort)]

end Features

structure PassCounts where
  passed : Nat := 0
  failed : Nat := 0
  deriving DecidableEq, Repr

namespace PassCounts

instance : Add PassCounts := ⟨fun a b => ⟨a.passed + b.passed, a.failed + b.failed⟩⟩

def one (passed : Bool) : PassCounts := if passed then { passed := 1 } else { failed := 1 }

end PassCounts

/-- Results that touch a category, and those that touch each of its members. -/
structure Tally where
  total : PassCounts
  members : SortedMap String PassCounts
  deriving DecidableEq

instance : Add Tally :=
  ⟨fun a b => ⟨a.total + b.total, a.members.unionWith (· + ·) b.members⟩⟩

abbrev Breakdown := SortedMap String Tally

/-- One result, in each category that has members. -/
def Breakdown.one (passed : Bool) (groups : SortedMap String (List String)) : Breakdown :=
  (groups.filter fun _ members => !members.isEmpty).map fun members =>
    ⟨.one passed, .ofList (members.map (·, .one passed))⟩

structure Summary where
  passed : Nat := 0
  failed : Nat := 0
  errored : Nat := 0
  /-- Over the last probe of each step. -/
  comparisons : AgreementCounts := {}
  /-- Under the names of protocols. -/
  byProtocol : SortedMap String AgreementCounts := .empty
  byTag : Breakdown := .empty
  byFeature : Breakdown := .empty
  deriving DecidableEq

namespace Summary

instance : Add Summary where
  add a b := {
    passed := a.passed + b.passed
    failed := a.failed + b.failed
    errored := a.errored + b.errored
    comparisons := a.comparisons + b.comparisons
    byProtocol := a.byProtocol.unionWith (· + ·) b.byProtocol
    byTag := a.byTag.unionWith (· + ·) b.byTag
    byFeature := a.byFeature.unionWith (· + ·) b.byFeature }

def protocolCounts (t : Comparison) : SortedMap String AgreementCounts :=
  .ofList (t.countsByProtocol.entries.map fun (p, counts) => (p.name, counts))

/-- A result with an error counts as neither passed nor failed, but does not pass. -/
def ofResult (r : TrialResult) : Summary :=
  let attempts := r.steps.filterMap (·.last?)
  { passed := if r.passed then 1 else 0
    failed := if r.error.isNone && !r.passed then 1 else 0
    errored := if r.error.isSome then 1 else 0
    comparisons := .sum (r.steps.map (·.counts))
    byProtocol := attempts.foldl
      (fun counts a => counts.unionWith (· + ·) (protocolCounts a.comparison)) .empty
    byTag := .one r.passed (Tag.byCategory r.case.tags)
    byFeature :=
      .one r.passed (Features.ofPolicies (r.case.policies.map (·.withDefaultTypes))).byCategory }

def ofResults (results : List TrialResult) : Summary :=
  results.foldl (fun s r => s + ofResult r) {}

def total (s : Summary) : Nat := s.passed + s.failed + s.errored

end Summary
end PodTraffic
