import PodTraffic.Address
import PodTraffic.Port

/-!
# Traffic and verdicts

A connection between two endpoints, its port already resolved at the destination, and what checking
it says of each direction and of both.
-/
namespace PodTraffic

/-- What policies see of a pod. -/
structure PodIdentity where
  ns : String
  nsLabels : Labels := .empty
  labels : Labels := .empty
  deriving DecidableEq

/-- A pod, with its address if known, or a bare address outside the cluster. -/
structure Endpoint where
  pod : Option PodIdentity := none
  ip : Option Address := none
  deriving DecidableEq

namespace Endpoint

def isExternal (e : Endpoint) : Bool := e.pod.isNone

def text (e : Endpoint) : String :=
  match e.pod, e.ip with
  | some pod, ip =>
    let address := match ip with
      | some ip => " (" ++ ip.text ++ ")"
      | none => ""
    pod.ns ++ "/[" ++ pod.labels.text ++ "]" ++ address
  | none, some ip => ip.text
  | none, none => "<unknown peer>"

end Endpoint

structure Traffic where
  source : Endpoint
  destination : Endpoint
  port : PortQuery
  deriving DecidableEq

def Traffic.text (t : Traffic) : String :=
  let name := match t.port.name with
    | some name => " (" ++ name ++ ")"
    | none => ""
  t.source.text ++ " -> " ++ t.destination.text ++ " on " ++ toString t.port.number ++ name ++
    "/" ++ t.port.protocol.name

inductive Direction where
  | ingress
  | egress
  deriving DecidableEq, Repr

namespace Direction

def name : Direction → String
  | ingress => "ingress"
  | egress => "egress"

/-- As a policy type. -/
def title : Direction → String
  | ingress => "Ingress"
  | egress => "Egress"

def ofTitle? (s : String) : Option Direction :=
  if s == "Ingress" then some ingress else if s == "Egress" then some egress else none

/-- The endpoint that policies of this direction select. -/
def near (d : Direction) (t : Traffic) : Endpoint :=
  match d with
  | ingress => t.destination
  | egress => t.source

def far (d : Direction) (t : Traffic) : Endpoint :=
  match d with
  | ingress => t.source
  | egress => t.destination

end Direction

inductive Connectivity where
  | unknown
  | checkFailed
  | blocked
  | allowed
  | invalidNamedPort
  | invalidPortProtocol
  deriving DecidableEq, Repr

namespace Connectivity

def all : List Connectivity :=
  [unknown, checkFailed, blocked, allowed, invalidNamedPort, invalidPortProtocol]

def ofAllowed (isAllowed : Bool) : Connectivity := if isAllowed then allowed else blocked

/-- One character, for table cells. -/
def short : Connectivity → String
  | unknown => "?"
  | checkFailed => "!"
  | blocked => "X"
  | allowed => "."
  | invalidNamedPort => "N"
  | invalidPortProtocol => "P"

def text : Connectivity → String
  | unknown => "unknown"
  | checkFailed => "check failed"
  | blocked => "blocked"
  | allowed => "allowed"
  | invalidNamedPort => "invalid named port"
  | invalidPortProtocol => "invalid port protocol"

/-- The name in documents. -/
def name : Connectivity → String
  | unknown => "unknown"
  | checkFailed => "check-failed"
  | blocked => "blocked"
  | allowed => "allowed"
  | invalidNamedPort => "invalid-named-port"
  | invalidPortProtocol => "invalid-port-protocol"

end Connectivity

/-- A simulation answers each direction; a cluster only tells the outcome of both. -/
structure Verdict where
  ingress : Option Connectivity := none
  egress : Option Connectivity := none
  combined : Connectivity
  deriving DecidableEq, Repr

namespace Verdict

def ofCluster (combined : Connectivity) : Verdict := { combined }

/-- For a port that the destination cannot resolve. -/
def invalid (c : Connectivity) : Verdict := { ingress := some c, combined := c }

def simulated (ingress egress : Bool) : Verdict :=
  ⟨some (.ofAllowed ingress), some (.ofAllowed egress), .ofAllowed (ingress && egress)⟩

end Verdict

/-- Which ports a probe checks: each that some container serves, or one. -/
inductive ProbeConfig where
  | allAvailable
  | port (port : PortValue) (protocol : Protocol)
  deriving DecidableEq, Repr

/-- The label of the verdicts on a port. -/
def probeKey (port : PortValue) (protocol : Protocol) : String :=
  port.text ++ "/" ++ protocol.name

def ProbeConfig.text : ProbeConfig → String
  | allAvailable => "all available ports"
  | port p protocol => probeKey p protocol

end PodTraffic
