import PodTraffic.Config
import PodTraffic.Document
import PodTraffic.Document.Toml
import PodTraffic.Files

/-!
# Configuration layers

A configuration is read from the built-in values with the user's file and then a named file laid
over them: tables are united name by name, and any other value replaces what was there. There is one
section for each part, all of them and all their settings optional. A section holds no other names.
-/
namespace PodTraffic

/-- The fields of a record with no names but these. -/
def Value.closedRecord? (names : List String) (v : Value) : Option Fields := do
  let fields ← v.record? names
  if fields.all fun field => names.contains field.1 then some fields else none

namespace Config

def seconds? : Value → Option Nat := Value.nat? (UInt64.size - 1)

/-- A number of 32 bits. -/
def count? : Value → Option Nat := Value.nat? (UInt32.size - 1)

def texts? : Value → Option (List String) := Value.listOf? Value.text?

def commonNames : List String := ["config_version", "verbose"]

def common? (v : Value) : Option CommonConfig := do
  let fields ← v.closedRecord? commonNames
  let d : CommonConfig := {}
  return {
    version := ← fields.withDefault "config_version" d.version Value.text?
    verbose := ← fields.withDefault "verbose" d.verbose Value.bool? }

def trialNames : List String :=
  ["reset_cluster_before_test_case", "verify_cluster_state_before_test_case", "retries",
    "perturbation_wait_seconds", "batch_jobs", "ignore_loopback", "job_timeout_seconds",
    "fail_fast", "worker_count"]

def trial? (v : Value) : Option TrialConfig := do
  let fields ← v.closedRecord? trialNames
  let d : TrialConfig := {}
  return {
    resetBefore := ← fields.withDefault "reset_cluster_before_test_case" d.resetBefore Value.bool?
    verifyBefore :=
      ← fields.withDefault "verify_cluster_state_before_test_case" d.verifyBefore Value.bool?
    retries := ← fields.withDefault "retries" d.retries count?
    wait := ← fields.withDefault "perturbation_wait_seconds" d.wait seconds?
    batched := ← fields.withDefault "batch_jobs" d.batched Value.bool?
    ignoreLoopback := ← fields.withDefault "ignore_loopback" d.ignoreLoopback Value.bool?
    jobTimeout := ← fields.withDefault "job_timeout_seconds" d.jobTimeout seconds?
    failFast := ← fields.withDefault "fail_fast" d.failFast Value.bool?
    workerCount := ← fields.withDefault "worker_count" d.workerCount seconds? }

def clusterNames : List String :=
  ["namespaces", "pods", "ports", "protocols", "external_ips", "server_image",
    "pod_creation_timeout_seconds"]

def cluster? (v : Value) : Option ClusterConfig := do
  let fields ← v.closedRecord? clusterNames
  let d : ClusterConfig := {}
  return {
    namespaces := ← fields.withDefault "namespaces" d.namespaces texts?
    pods := ← fields.withDefault "pods" d.pods texts?
    ports := ← fields.withDefault "ports" d.ports (Value.listOf? count?)
    protocols := ← fields.withDefault "protocols" d.protocols texts?
    externalIps := ← fields.withDefault "external_ips" d.externalIps texts?
    image := ← fields.withDefault "server_image" d.image Value.text?
    podTimeout := ← fields.withDefault "pod_creation_timeout_seconds" d.podTimeout seconds? }

def corpusNames : List String := ["include", "exclude", "allow_dns", "dns_port", "pod_ip"]

def corpus? (v : Value) : Option CorpusConfig := do
  let fields ← v.closedRecord? corpusNames
  let d : CorpusConfig := {}
  return {
    included := ← fields.withDefault "include" d.included texts?
    excluded := ← fields.withDefault "exclude" d.excluded texts?
    allowDns := ← fields.withDefault "allow_dns" d.allowDns Value.bool?
    dnsPort := ← fields.withDefault "dns_port" d.dnsPort (Value.nat? maxPort)
    podIp := ← fields.nullable "pod_ip" Value.text? }

def sectionNames : List String := ["common", "interpreter", "cluster", "generator"]

def ofValue? (v : Value) : Option Config := do
  let fields ← v.closedRecord? sectionNames
  return {
    common := ← fields.withDefault "common" {} common?
    trial := ← fields.withDefault "interpreter" {} trial?
    cluster := ← fields.withDefault "cluster" {} cluster?
    corpus := ← fields.withDefault "generator" {} corpus? }

def toValue (c : Config) : Value :=
  .object [
    ("common", .object [("config_version", .string c.common.version),
      ("verbose", .bool c.common.verbose)]),
    ("interpreter", .object [
      ("reset_cluster_before_test_case", .bool c.trial.resetBefore),
      ("verify_cluster_state_before_test_case", .bool c.trial.verifyBefore),
      ("retries", .nat c.trial.retries), ("perturbation_wait_seconds", .nat c.trial.wait),
      ("batch_jobs", .bool c.trial.batched), ("ignore_loopback", .bool c.trial.ignoreLoopback),
      ("job_timeout_seconds", .nat c.trial.jobTimeout), ("fail_fast", .bool c.trial.failFast),
      ("worker_count", .nat c.trial.workerCount)]),
    ("cluster", .object [("namespaces", .texts c.cluster.namespaces),
      ("pods", .texts c.cluster.pods), ("ports", .ofList .nat c.cluster.ports),
      ("protocols", .texts c.cluster.protocols), ("external_ips", .texts c.cluster.externalIps),
      ("server_image", .string c.cluster.image),
      ("pod_creation_timeout_seconds", .nat c.cluster.podTimeout)]),
    ("generator", .object [("include", .texts c.corpus.included),
      ("exclude", .texts c.corpus.excluded), ("allow_dns", .bool c.corpus.allowDns),
      ("dns_port", .nat c.corpus.dnsPort), ("pod_ip", .ofOption .string c.corpus.podIp)])]

end Config

namespace Layer

mutual

def merge : Value → Value → Value
  | .object base, .object overlay =>
    .object (mergeFields base overlay ++
      overlay.filter fun field => !base.any (·.1 == field.1))
  | _, overlay => overlay

/-- The fields of the base, with what the overlay has for them laid over. -/
def mergeFields : List (String × Value) → Fields → Fields
  | [], _ => []
  | (name, value) :: base, overlay =>
    let value := match overlay.lookup name with
      | some above => merge value above
      | none => value
    (name, value) :: mergeFields base overlay

end

/-- The lowest layer. -/
def builtin : Value :=
  .object [
    ("common", .object [("config_version", .string "1.0"), ("verbose", .bool false)]),
    ("interpreter", .object [
      ("reset_cluster_before_test_case", .bool true),
      ("verify_cluster_state_before_test_case", .bool true), ("retries", .int 1),
      ("perturbation_wait_seconds", .int 5), ("batch_jobs", .bool false),
      ("ignore_loopback", .bool false), ("job_timeout_seconds", .int 10),
      ("fail_fast", .bool false), ("worker_count", .int 15)]),
    ("cluster", .object [
      ("namespaces", .texts ["x", "y", "z"]), ("pods", .texts ["a", "b", "c"]),
      ("ports", .list [.int 80, .int 81]), ("protocols", .texts ["TCP", "UDP", "SCTP"]),
      ("external_ips", .list []),
      ("server_image", .string "registry.k8s.io/e2e-test-images/agnhost:2.43"),
      ("pod_creation_timeout_seconds", .int 300)]),
    ("generator", .object [
      ("include", .list []), ("exclude", .list []), ("allow_dns", .bool true),
      ("dns_port", .int 53)])]

end Layer

/-- Where a user's own file may lie. -/
structure ConfigPlaces where
  /-- A file. -/
  named : Option String := none
  /-- A directory of configurations. -/
  configHome : Option String := none
  home : Option String := none
  deriving Repr

/-- In order of preference. -/
def ConfigPlaces.candidates (places : ConfigPlaces) : List String :=
  places.named.toList ++ (places.configHome.map (joinPath · "netpol/config.toml")).toList ++
    (places.home.map (joinPath · ".config/netpol/config.toml")).toList

namespace Config

/-- The first candidate that is there. -/
def userFile? (t : FileTree) (places : ConfigPlaces) : Option String :=
  places.candidates.find? t.isPresent

def readTable (t : FileTree) (path : String) : Except ConfigError Value :=
  match t.read? path with
  | none => .error (.unreadable path)
  | some text =>
    match Toml.parse? text with
    | some table => .ok table
    | none => .error .malformed

def ofTable (table : Value) : Except ConfigError Config :=
  match ofValue? table with
  | some c => .ok c
  | none => .error .malformed

/-- One file alone. -/
def ofText (text : String) : Except ConfigError Config :=
  match Toml.parse? text with
  | some table => ofTable table
  | none => .error .malformed

/-- The layers over the built-in one, lowest first. -/
def layerFiles (t : FileTree) (places : ConfigPlaces) (named : Option String) : List String :=
  (userFile? t places).toList ++ named.toList

def load (t : FileTree) (places : ConfigPlaces) (named : Option String) :
    Except ConfigError Config := do
  let overlays ← (layerFiles t places named).mapM (readTable t)
  ofTable (overlays.foldl Layer.merge Layer.builtin)

end Config
end PodTraffic
