import PodTraffic.Cluster.Object
import PodTraffic.TestCase

/-!
# Configuration

What is deployed and how trials run, with a default for every setting, and the faults that a
configuration can have.
-/
namespace PodTraffic

structure CommonConfig where
  version : String := "1.0"
  verbose : Bool := false
  deriving DecidableEq, Repr

/-- How test cases are run. Times are in seconds. -/
structure TrialConfig where
  resetBefore : Bool := true
  verifyBefore : Bool := true
  /-- Further probes of a step that disagrees with the simulation. -/
  retries : Nat := 1
  /-- Between the actions of a step and its probe. -/
  wait : Nat := 5
  batched : Bool := false
  ignoreLoopback : Bool := false
  jobTimeout : Nat := 10
  failFast : Bool := false
  workerCount : Nat := 15
  deriving DecidableEq, Repr

/-- What is deployed. -/
structure ClusterConfig where
  namespaces : List String := ["x", "y", "z"]
  pods : List String := ["a", "b", "c"]
  /-- Numbers as written; a valid configuration holds port numbers only. -/
  ports : List Nat := [80, 81]
  protocols : List String := ["TCP", "UDP", "SCTP"]
  externalIps : List String := []
  image : String := defaultImage
  podTimeout : Nat := 300
  deriving DecidableEq, Repr

/-- Which test cases are run. -/
structure CorpusConfig where
  included : List String := []
  excluded : List String := []
  allowDns : Bool := true
  dnsPort : Nat := 53
  /-- Lies in the address blocks of the test cases; without it, the address of a deployed pod. -/
  podIp : Option String := none
  deriving DecidableEq, Repr

structure Config where
  common : CommonConfig := {}
  trial : TrialConfig := {}
  cluster : ClusterConfig := {}
  corpus : CorpusConfig := {}
  deriving DecidableEq, Repr

def TrialConfig.workers (c : TrialConfig) : Nat := max 1 c.workerCount

namespace ClusterConfig

def portNumbers (c : ClusterConfig) : List Nat := c.ports.filter fun n => 1 ≤ n && n ≤ maxPort

def knownProtocols (c : ClusterConfig) : List Protocol := c.protocols.filterMap Protocol.read?

/-- The model to deploy. -/
def resources (c : ClusterConfig) : Except PolicyError Resources :=
  (Resources.default c.namespaces c.pods c.portNumbers c.knownProtocols c.externalIps).mapError
    .address

end ClusterConfig

inductive ConfigFault where
  | noWorkers
  | empty (kind : String)
  | duplicate (kind name : String)
  | port (n : Nat)
  | protocol (name : String)
  | address (text : String)
  | tag (name : String)
  deriving DecidableEq, Repr

def ConfigFault.message : ConfigFault → String
  | noWorkers => "worker_count must be at least 1"
  | empty kind => kind ++ " list is empty"
  | duplicate kind name => "Duplicate " ++ kind ++ ": " ++ name
  | port n => "Invalid port: " ++ toString n
  | protocol name => "Invalid protocol: " ++ name
  | address text => "Invalid IP address: " ++ text
  | tag name => "Unknown tag or category: " ++ name

inductive ConfigError where
  | unreadable (path : String)
  | malformed
  | invalid (fault : ConfigFault)
  deriving DecidableEq, Repr

def ConfigError.message : ConfigError → String
  | unreadable path => "Failed to load config from " ++ path
  | malformed => "Failed to parse config"
  | invalid fault => "Configuration validation error: " ++ fault.message

namespace Config

def require (holds : Bool) (fault : ConfigFault) : Except ConfigFault Unit :=
  if holds then .ok () else .error fault

/-- The first value that stands in the list before it too. -/
def firstRepeated : (seen : List String) → List String → Option String
  | _, [] => none
  | seen, name :: names =>
    if seen.contains name then some name else firstRepeated (name :: seen) names

def checkNames (kind : String) (names : List String) : Except ConfigFault Unit := do
  require (!names.isEmpty) (.empty kind)
  match firstRepeated [] names with
  | some name => throw (.duplicate kind name)
  | none => return ()

def checkAddress (text : String) : Except ConfigFault Unit :=
  require (Address.parse? text).isSome (.address text)

def checkCluster (c : ClusterConfig) : Except ConfigFault Unit := do
  checkNames "namespace" c.namespaces
  checkNames "pod" c.pods
  require (!c.ports.isEmpty) (.empty "port")
  c.ports.forM fun n => require (1 ≤ n && n ≤ maxPort) (.port n)
  require (!c.protocols.isEmpty) (.empty "protocol")
  c.protocols.forM fun name => require (Protocol.read? name).isSome (.protocol name)
  c.externalIps.forM checkAddress

def checkCorpus (c : CorpusConfig) : Except ConfigFault Unit := do
  (c.included ++ c.excluded).forM fun name => require (Tag.isKnown name) (.tag name)
  c.podIp.forM checkAddress

/-- The first fault, if any. -/
def check (c : Config) : Except ConfigFault Unit := do
  require (c.trial.workerCount != 0) .noWorkers
  checkCluster c.cluster
  checkCorpus c.corpus

def validate (c : Config) : Except ConfigError Unit := c.check.mapError .invalid

end Config
end PodTraffic
