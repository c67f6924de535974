import PodTraffic.Address
import PodTraffic.Port
import PodTraffic.Resources
import PodTraffic.Text
import PodTraffic.Traffic

/-!
# Probe jobs and their commands

One job checks one connection from a container to a pod or an external address. Jobs are planned
from every pod to every destination, and sorted by whether the destination can resolve the port. The
container runs a command to reach the host on the port, which can be read back, or a script that
runs many of them and prints the exit code of each.
-/
namespace PodTraffic

structure CommandTarget where
  host : String
  port : Nat
  protocol : Protocol
  deriving DecidableEq, Repr

namespace CommandTarget

def address? (t : CommandTarget) : Option Address := Address.parse? t.host

/-- A host with a colon stands in brackets. -/
def hostPort (host : String) (port : Nat) : String :=
  if host.toList.contains ':' then "[" ++ host ++ "]:" ++ toString port
  else host ++ ":" ++ toString port

def command (t : CommandTarget) : List String :=
  match t.protocol with
  | .udp => ["nc", "-v", "-z", "-w", "1", "-u", t.host, toString t.port]
  | protocol =>
    ["/agnhost", "connect", hostPort t.host t.port, "--timeout=1s",
      "--protocol=" ++ protocol.lowerName]

def readPort? (cs : List Char) : Option Nat := Text.unsigned? 65535 cs

/-- The text after `--protocol=` in the first argument that has it. -/
def protocolText (argv : List String) : String :=
  ((argv.findSome? fun arg => Text.after? "--protocol=".toList arg.toList).map String.ofList).getD
    "tcp"

def ofConnect? (argv : List String) : Option CommandTarget := do
  let (host, port) ← Text.cutAtLast? ':' (← argv[2]?).toList
  let protocol ← Protocol.read? (protocolText argv)
  let host := Text.dropEnd (· == ']') (Text.dropStart (· == '[') host)
  return ⟨String.ofList host, ← readPort? port, protocol⟩

/-- Host and port come last. -/
def ofNetcat? (argv : List String) : Option CommandTarget :=
  match argv.reverse with
  | port :: host :: _ => do
    let protocol := if argv.contains "-u" then Protocol.udp else Protocol.tcp
    return ⟨host, ← readPort? port.toList, protocol⟩
  | _ => none

/-- The target of a command. -/
def ofCommand? (argv : List String) : Option CommandTarget :=
  match argv with
  | "/agnhost" :: "connect" :: _ => ofConnect? argv
  | "nc" :: _ => ofNetcat? argv
  | _ => none

end CommandTarget

namespace Batch

/-- Begins the lines that carry exit codes. -/
def marker : String := "netpol-result"

/-- Between a command and the line that prints its exit code. -/
def silence : String := " >/dev/null 2>&1; echo \""

def line (index : Nat) (command : List String) : String :=
  " ".intercalate (command.map fun arg => "'" ++ arg ++ "'") ++ silence ++ marker ++ " " ++
    toString index ++ " $?\""

def script (commands : List (List String)) : String :=
  "\n".intercalate (commands.zipIdx.map fun (command, i) => line i command)

def maxIndex : Nat := UInt64.size - 1

def isQuote (c : Char) : Bool := c == '\''

def parseLine? (line : String) : Option (Nat × List String) := do
  let (command, rest) ← Text.cutAt? silence.toList line.toList
  let rest ← Text.after? marker.toList rest
  let index ← (Text.words rest).head? >>= Text.unsigned? maxIndex
  return (index, (Text.words command).map fun arg =>
    String.ofList (Text.dropEnd isQuote (Text.dropStart isQuote arg)))

/-- The commands of a script with their indices; other lines are passed over. -/
def parseScript (script : String) : List (Nat × List String) :=
  (Text.lines script).filterMap parseLine?

def resultLine (index code : Nat) : String :=
  marker ++ " " ++ toString index ++ " " ++ toString code ++ "\n"

def parseResult? (line : String) : Option (Nat × Int) := do
  let rest ← Text.after? marker.toList line.toList
  match Text.words rest with
  | index :: code :: _ =>
    return (← Text.unsigned? maxIndex index, ← Text.signed? (-2147483648) 2147483647 code)
  | _ => none

/-- The exit codes by index, in the order printed. -/
def parseOutput (output : String) : List (Nat × Int) :=
  (Text.lines output).filterMap parseResult?

/-- The last code printed for an index. -/
def exitCode? (codes : List (Nat × Int)) (index : Nat) : Option Int :=
  codes.reverse.lookup index

end Batch

structure JobSource where
  pod : Pod
  nsLabels : Labels
  /-- The container that runs the check. -/
  container : String
  deriving DecidableEq

inductive JobDestination where
  | pod (pod : Pod) (nsLabels : Labels)
  | external (ip : String)
  deriving DecidableEq

def Pod.endpoint (p : Pod) (nsLabels : Labels) : Endpoint :=
  { pod := some ⟨p.ns, nsLabels, p.labels⟩, ip := p.address? }

namespace JobDestination

def key : JobDestination → String
  | pod p _ => p.key
  | external ip => ip

/-- What the check connects to. -/
def host : JobDestination → String
  | pod p _ => p.host
  | external ip => ip

def endpoint : JobDestination → Endpoint
  | pod p nsLabels => p.endpoint nsLabels
  | external ip => { ip := Address.parse? ip }

end JobDestination

structure Job where
  source : JobSource
  destination : JobDestination
  port : PortQuery
  /-- The label under which the job reports. -/
  key : String
  deriving DecidableEq

namespace Job

def fromKey (j : Job) : String := j.source.pod.key

def toKey (j : Job) : String := j.destination.key

def traffic (j : Job) : Traffic :=
  ⟨j.source.pod.endpoint j.source.nsLabels, j.destination.endpoint, j.port⟩

def target (j : Job) : CommandTarget := ⟨j.destination.host, j.port.number, j.port.protocol⟩

def command (j : Job) : List String := j.target.command

end Job

structure Jobs where
  valid : List Job := []
  badNamedPort : List Job := []
  badPortProtocol : List Job := []

namespace Jobs

def append (a b : Jobs) : Jobs :=
  ⟨a.valid ++ b.valid, a.badNamedPort ++ b.badNamedPort, a.badPortProtocol ++ b.badPortProtocol⟩

instance : Append Jobs := ⟨append⟩

def size (jobs : Jobs) : Nat :=
  jobs.valid.length + jobs.badNamedPort.length + jobs.badPortProtocol.length

end Jobs

/-- How a destination answers to a requested port. -/
inductive PortResolution where
  | valid
  | badNamedPort
  | badPortProtocol
  deriving DecidableEq, Repr

namespace Pod

/-- Numbers are looked up with their protocol, names alone: the first container that has one
decides. -/
def resolve (p : Pod) (port : PortValue) (protocol : Protocol) : PortResolution × PortQuery :=
  match port with
  | .number n =>
    match p.numbered? n protocol with
    | some c => (.valid, ⟨n, c.portName, protocol⟩)
    | none => (.badPortProtocol, ⟨n, none, protocol⟩)
  | .name s =>
    match p.named? s with
    | some c =>
      (if c.protocol = protocol then .valid else .badPortProtocol, ⟨c.port, some s, protocol⟩)
    | none => (.badNamedPort, ⟨0, none, protocol⟩)

end Pod

/-- Outside the cluster any number can be tried, and no name. -/
def resolveExternal (port : PortValue) (protocol : Protocol) : PortResolution × PortQuery :=
  match port with
  | .number n => (.valid, ⟨n, none, protocol⟩)
  | .name _ => (.badNamedPort, ⟨0, none, protocol⟩)

namespace Resources

/-- The container that serves the protocol, or else the first. -/
def jobSource? (r : Resources) (p : Pod) (protocol : Protocol) : Option JobSource := do
  let c ← p.containers.find? (·.protocol == protocol) <|> p.containers.head?
  return ⟨p, r.nsLabels p.ns, c.name⟩

/-- The jobs from one source: pods in order, then external addresses. -/
def jobsFrom (r : Resources) (source : JobSource) (port : PortValue) (protocol : Protocol) :
    List (PortResolution × Job) :=
  let make (d : JobDestination) (q : PortResolution × PortQuery) : PortResolution × Job :=
    (q.1, ⟨source, d, q.2, probeKey port protocol⟩)
  r.pods.map (fun p => make (.pod p (r.nsLabels p.ns)) (p.resolve port protocol)) ++
    r.externalIps.map fun ip => make (.external ip) (resolveExternal port protocol)

def jobsForPort (r : Resources) (port : PortValue) (protocol : Protocol) : Jobs :=
  let jobs := r.pods.flatMap fun p =>
    match r.jobSource? p protocol with
    | some source => r.jobsFrom source port protocol
    | none => []
  let sorted (resolution : PortResolution) : List Job :=
    (jobs.filter (·.1 == resolution)).map (·.2)
  ⟨sorted .valid, sorted .badNamedPort, sorted .badPortProtocol⟩

/-- One round for each port that some container serves. -/
def jobsForAll (r : Resources) : Jobs :=
  r.servedPorts.foldl (fun jobs s => jobs ++ r.jobsForPort (.number s.number) s.protocol) {}

def jobs (r : Resources) : ProbeConfig → Jobs
  | .allAvailable => r.jobsForAll
  | .port port protocol => r.jobsForPort port protocol

end Resources
end PodTraffic
