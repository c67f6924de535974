import PodTraffic.Collections
import PodTraffic.Manifest
import PodTraffic.Text.Escaped

/-!
# Ports

A port matcher is everything, or sorted entries and ranges. Union and difference keep that form,
so that matchers built from the same entries are the same value. Protocols are read in any letter
case, and a port that cannot be read is among the faults that policies and their files may have.
-/
namespace PodTraffic

inductive Protocol where
  | tcp
  | udp
  | sctp
  deriving DecidableEq, Repr

namespace Protocol

def all : List Protocol := [tcp, udp, sctp]

/-- The spelling in manifests. -/
def name : Protocol → String
  | tcp => "TCP"
  | udp => "UDP"
  | sctp => "SCTP"

/-- The spelling in container and port names and in commands. -/
def lowerName : Protocol → String
  | tcp => "tcp"
  | udp => "udp"
  | sctp => "sctp"

def rank : Protocol → Nat
  | tcp => 0
  | udp => 1
  | sctp => 2

instance : Ord Protocol := ⟨compareOn rank⟩

instance : Std.TransOrd Protocol := inferInstanceAs (Std.TransCmp (compareOn rank))

instance : Std.LawfulEqOrd Protocol where
  compare_self := by rintro (_ | _ | _) <;> rfl
  eq_of_compare := by rintro (_ | _ | _) (_ | _ | _) h <;> first | rfl | cases h

/-- Exactly the manifest spelling. -/
def ofName? (s : String) : Option Protocol := all.find? (·.name == s)

def upper (c : Char) : Char := if 'a' ≤ c && c ≤ 'z' then Char.ofNat (c.toNat - 32) else c

/-- The manifest spelling in any letter case. -/
def read? (s : String) : Option Protocol := ofName? (String.ofList (s.toList.map upper))

end Protocol

inductive PolicyFault where
  | missingSpec
  /-- An address block beside a selector in one peer. -/
  | mixedPeer
  | unknownType (name : String)
  deriving DecidableEq, Repr

inductive PortFault where
  | number (n : Int)
  | emptyName
  | range (first last : Nat)
  | rangeEnd (n : Int)
  | rangeWithoutNumber (last : Int)
  deriving DecidableEq, Repr

inductive PolicyError where
  | malformed (policy : String) (fault : PolicyFault)
  | missingTypes (policy : String)
  | network (text : String)
  | address (text : String)
  | protocol (text : String)
  | port (fault : PortFault)
  | unreadable (path : String)
  | notYaml
  deriving DecidableEq, Repr

def PolicyFault.message : PolicyFault → String
  | missingSpec => "missing spec"
  | mixedPeer => "ipBlock cannot be combined with podSelector or namespaceSelector"
  | unknownType name => "unknown policy type " ++ Text.quoted name

def PortFault.message : PortFault → String
  | number n => toString n
  | emptyName => ""
  | range first last => toString first ++ "-" ++ toString last
  | rangeEnd n => toString n
  | rangeWithoutNumber last => "endPort " ++ toString last ++ " requires a numeric port"

def PolicyError.message : PolicyError → String
  | malformed policy fault => "Malformed network policy " ++ policy ++ ": " ++ fault.message
  | missingTypes policy => "Network policy " ++ policy ++ " is missing policyTypes"
  | network text => "Invalid CIDR notation: " ++ text
  | address text => "Invalid IP address: " ++ text
  | protocol text => "Invalid protocol: " ++ text
  | port fault => "Invalid port: " ++ fault.message
  | unreadable path => "Failed to read " ++ path
  | notYaml => "Failed to parse YAML"

def maxPort : Nat := 65535

inductive PortValue where
  | name (s : String)
  | number (n : Nat)
  deriving DecidableEq, Repr

namespace PortValue

def isNumber : PortValue → Bool
  | name _ => false
  | number _ => true

def nameText : PortValue → String
  | name s => s
  | number _ => ""

def value : PortValue → Nat
  | name _ => 0
  | number n => n

/-- Names before numbers. -/
instance : Ord PortValue :=
  ⟨compareLex (compareOn isNumber) (compareLex (compareOn nameText) (compareOn value))⟩

instance : Std.TransOrd PortValue :=
  inferInstanceAs (Std.TransCmp (compareLex (compareOn isNumber)
    (compareLex (compareOn nameText) (compareOn value))))

/-- Numbers must lie between 1 and 65535, names must not be empty. -/
def ofRule : IntOrText → Except PolicyError PortValue
  | .int n =>
    if 1 ≤ n ∧ n ≤ maxPort then .ok (number n.toNat) else .error (.port (.number n))
  | .text s => if s.isEmpty then .error (.port .emptyName) else .ok (name s)

def toRule : PortValue → IntOrText
  | name s => .text s
  | number n => .int n

def text : PortValue → String
  | name s => s
  | number n => toString n

end PortValue

/-- A port asked for on a connection: its number, its name at the destination, its protocol. -/
structure PortQuery where
  number : Nat
  name : Option String
  protocol : Protocol
  deriving DecidableEq, Repr

/-- Without a port, every port of the protocol. -/
structure PortEntry where
  port : Option PortValue
  protocol : Protocol
  deriving DecidableEq, Repr

namespace PortEntry

def allows (e : PortEntry) (q : PortQuery) : Bool :=
  e.protocol == q.protocol &&
    match e.port with
    | none => true
    | some (.number n) => n == q.number
    | some (.name s) => q.name == some s

instance : Ord PortEntry := ⟨compareLex (compareOn (·.port)) (compareOn (·.protocol))⟩

instance : Std.TransOrd PortEntry :=
  inferInstanceAs (Std.TransCmp (compareLex (compareOn fun e : PortEntry => e.port)
    (compareOn (·.protocol))))

def text (e : PortEntry) : String :=
  match e.port with
  | none => "all ports on " ++ e.protocol.name
  | some port => port.text ++ "/" ++ e.protocol.name

end PortEntry

structure PortRange where
  first : Nat
  last : Nat
  protocol : Protocol
  deriving DecidableEq, Repr

namespace PortRange

/-- Ranges begin at 1 or later and are not empty. -/
def make (first last : Nat) (protocol : Protocol) : Except PolicyError PortRange :=
  if first = 0 ∨ last < first then .error (.port (.range first last))
  else .ok ⟨first, last, protocol⟩

def holds (r : PortRange) (number : Nat) (protocol : Protocol) : Bool :=
  r.protocol == protocol && r.first ≤ number && number ≤ r.last

def covers (r s : PortRange) : Bool :=
  r.protocol == s.protocol && r.first ≤ s.first && s.last ≤ r.last

instance : Ord PortRange :=
  ⟨compareLex (compareOn (·.first))
    (compareLex (compareOn (·.last)) (compareOn (·.protocol)))⟩

instance : Std.TransOrd PortRange :=
  inferInstanceAs (Std.TransCmp (compareLex (compareOn fun r : PortRange => r.first)
    (compareLex (compareOn (·.last)) (compareOn (·.protocol)))))

def text (r : PortRange) : String :=
  toString r.first ++ "-" ++ toString r.last ++ "/" ++ r.protocol.name

end PortRange

inductive PortMatcher where
  | all
  | specific (ports : List PortEntry) (ranges : List PortRange)
  deriving DecidableEq, Repr

namespace PortMatcher

/-- Sorted, one of each. -/
def ofEntries (ports : List PortEntry) (ranges : List PortRange) : PortMatcher :=
  specific (Ordered.distinct ports) (Ordered.distinct ranges)

def allows (m : PortMatcher) (q : PortQuery) : Bool :=
  match m with
  | all => true
  | specific ports ranges =>
    ports.any (·.allows q) || ranges.any (·.holds q.number q.protocol)

def ruleProtocol (rule : PortRule) : Except PolicyError Protocol :=
  match rule.protocol with
  | none => .ok .tcp
  | some name =>
    match Protocol.read? name with
    | some p => .ok p
    | none => .error (.protocol name)

/-- A rule with an end port is a range, any other an entry. -/
def ofRule (rule : PortRule) : Except PolicyError (PortEntry ⊕ PortRange) := do
  let protocol ← ruleProtocol rule
  let value ← rule.port.mapM PortValue.ofRule
  match value, rule.endPort with
  | value, none => return .inl ⟨value, protocol⟩
  | some (.number first), some last =>
    if 0 ≤ last ∧ last ≤ maxPort then
      return .inr (← PortRange.make first last.toNat protocol)
    else throw (.port (.rangeEnd last))
  | _, some last => throw (.port (.rangeWithoutNumber last))

/-- No rules at all stand for every port. -/
def ofRules (rules : List PortRule) : Except PolicyError PortMatcher := do
  if rules.isEmpty then return all
  let parts ← rules.mapM ofRule
  return ofEntries (parts.filterMap (·.getLeft?)) (parts.filterMap (·.getRight?))

def union (a b : PortMatcher) : PortMatcher :=
  match a, b with
  | specific ports ranges, specific ports' ranges' =>
    ofEntries (ports ++ ports') (ranges ++ ranges')
  | _, _ => all

def coversEntry (ports : List PortEntry) (ranges : List PortRange) (e : PortEntry) : Bool :=
  ports.any (fun p => p == e || (p.port.isNone && p.protocol == e.protocol)) ||
    match e.port with
    | some (.number n) => ranges.any (·.holds n e.protocol)
    | _ => false

def coversRange (ports : List PortEntry) (ranges : List PortRange) (r : PortRange) : Bool :=
  ports.any (fun p => p.port.isNone && p.protocol == r.protocol) || ranges.any (·.covers r)

/-- What is left of `a` without the entries and ranges that `b` covers; `none` when nothing is. -/
def subtract (a b : PortMatcher) : Option PortMatcher :=
  match a, b with
  | _, all => none
  | all, specific _ _ => some all
  | specific ports ranges, specific ports' ranges' =>
    let ports := ports.filter fun e => !coversEntry ports' ranges' e
    let ranges := ranges.filter fun r => !coversRange ports' ranges' r
    if ports.isEmpty && ranges.isEmpty then none else some (specific ports ranges)

def text : PortMatcher → String
  | all => "all ports and protocols"
  | specific ports ranges =>
    ", ".intercalate (ports.map (·.text) ++ ranges.map (·.text))

end PortMatcher
end PodTraffic
