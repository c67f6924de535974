import PodTraffic.Cluster.Client
import PodTraffic.Decimal
import PodTraffic.Job
import PodTraffic.Policy

/-!
# A cluster in memory

Pods run at once and get addresses in sequence. Commands succeed where the stored policies let the
connection through, or at random. A refused call leaves the objects as they were.
-/
namespace PodTraffic

inductive ExecMode where
  | enforce
  /-- Whether a command succeeds is drawn anew for each call and each place in its script. -/
  | drawn (succeeds : Nat → Nat → Bool)

namespace ExecMode

/-- Every command ends the same way. -/
def always (succeeds : Bool) : ExecMode := drawn fun _ _ => succeeds

/-- A command succeeds if the number that is drawn for it lies below the rate. -/
def passing (rate : Decimal.Double) (draws : Nat → Nat → Nat) : ExecMode :=
  drawn fun call place => rate.isAbove (draws call place)

end ExecMode

structure Cluster where
  namespaces : SortedMap String Labels := .empty
  pods : SortedMap NamePair PodObject := .empty
  services : SortedMap NamePair ServiceObject := .empty
  policies : SortedMap NamePair NetworkPolicy := .empty
  /-- Pods created so far, deleted ones too. -/
  podsCreated : Nat := 0
  commandsRun : Nat := 0

namespace Cluster

def nsLabels (c : Cluster) (ns : String) : Labels := (c.namespaces.get? ns).getD .empty

def endpoint (c : Cluster) (p : PodObject) : Endpoint :=
  let ns := p.ns.getD ""
  { pod := some ⟨ns, c.nsLabels ns, p.labelMap⟩, ip := p.address? }

def selects (selector labels : Labels) : Bool :=
  selector.entries.all fun (key, value) => labels.get? key == some value

/-- The pod at an address, or the first pod that the named service selects. -/
def resolveHost (c : Cluster) (host : String) : Option PodObject :=
  match Address.parse? host with
  | some ip => c.pods.values.find? (·.address? == some ip)
  | none =>
    match (Text.splitBy (· == '.') host.toList).map String.ofList with
    | service :: ns :: _ => do
      let service ← c.services.get? ⟨ns, service⟩
      let s ← service.spec
      let inside := c.pods.entries.filter fun (key, _) => key.first == ns
      (inside.map (·.2)).find? fun p => selects (s.selector.getD .empty) p.labelMap
    | _ => none

def servedPort? (p : PodObject) (target : CommandTarget) : Option PortObject :=
  (p.containerList.flatMap fun container => container.ports.getD []).find? fun port =>
    port.number == target.port && port.protocol.getD "TCP" == target.protocol.name

/-- The endpoint that a command reaches, with the name of the port there. -/
def destination? (c : Cluster) (target : CommandTarget) : Option (Endpoint × Option String) :=
  match c.resolveHost target.host with
  | some p => (servedPort? p target).map fun port => (c.endpoint p, port.name)
  | none => target.address?.map fun ip => ({ ip := some ip }, none)

def connect (c : Cluster) (source : PodObject) (target : CommandTarget) :
    Except PolicyError Bool :=
  match c.destination? target with
  | none => .ok false
  | some (destination, name) => do
    let policy ← Policy.compile c.policies.values
    return (policy.verdict ⟨c.endpoint source, destination, ⟨target.port, name, target.protocol⟩⟩)
      |>.isAllowed

/-- The command at a place of the script, or at the first place if it stands alone. -/
def runCommand (c : Cluster) (mode : ExecMode) (place : Nat) (source : PodObject)
    (argv : List String) : Except PolicyError Bool :=
  match mode with
  | .drawn succeeds => .ok (succeeds c.commandsRun place)
  | .enforce =>
    match CommandTarget.ofCommand? argv with
    | some target => c.connect source target
    | none => .ok false

def failedText : String := "command terminated with non-zero exit code: 1"

/-- A shell script answers with one line for each command in it. -/
def output (c : Cluster) (mode : ExecMode) (source : PodObject) (command : List String) :
    Except PolicyError ExecOutput :=
  match command with
  | ["sh", "-c", script] => do
    let lines ← (Batch.parseScript script).zipIdx.mapM fun ((index, argv), place) => do
      let succeeded ← c.runCommand mode place source argv
      return Batch.resultLine index (if succeeded then 0 else 1)
    return { stdout := String.join lines }
  | _ => do
    let succeeded ← c.runCommand mode 0 source command
    return if succeeded then {} else { failure := some failedText }

def notFound (kind : ObjectKind) (name : String) : ClusterError := .refused (.notFound kind name)

/-- The value at a key, or the refusal for a missing object. -/
def found (kind : ObjectKind) (name : String) : Option α → Call Cluster α
  | some x => return x
  | none => throw (notFound kind name)

def requireNamespace (ns : String) : Call Cluster Unit := do
  discard (found .ns ns ((← get).namespaces.get? ns))

def getNamespace (ns : String) : Call Cluster Labels := do
  found .ns ns ((← get).namespaces.get? ns)

/-- Creates the namespace, or gives it new labels. -/
def createNamespace (ns : String) (labels : Labels) : Call Cluster Labels := do
  let stored := withNameLabel ns labels
  modify fun c => { c with namespaces := c.namespaces.insert ns stored }
  return stored

def setNamespaceLabels (ns : String) (labels : Labels) : Call Cluster Labels := do
  requireNamespace ns
  createNamespace ns labels

def dropNamespace (ns : String) (c : Cluster) : Cluster :=
  { c with
    namespaces := c.namespaces.erase ns
    pods := c.pods.filter fun key _ => key.first != ns
    services := c.services.filter fun key _ => key.first != ns
    policies := c.policies.filter fun key _ => key.first != ns }

def deleteNamespace (ns : String) : Call Cluster Unit := do
  requireNamespace ns
  modify (dropNamespace ns)

/-- The entries of a map that lie in one of the namespaces. -/
def inside (namespaces : List String) (m : SortedMap NamePair α) : List α :=
  (m.entries.filter fun (key, _) => namespaces.contains key.first).map (·.2)

def listPolicies (namespaces : List String) : Call Cluster (List NetworkPolicy) := do
  return inside namespaces (← get).policies

def policyKey (p : NetworkPolicy) : NamePair := ⟨p.ns, p.shortName⟩

/-- Policies are stored with their default types, and only if they compile. -/
def checkedPolicy (p : NetworkPolicy) : Call Cluster NetworkPolicy :=
  let p := p.withDefaultTypes
  match Policy.compile [p] with
  | .ok _ => return p
  | .error e => throw (.policy e)

def storePolicy (p : NetworkPolicy) : Call Cluster NetworkPolicy := do
  modify fun c => { c with policies := c.policies.insert (policyKey p) p }
  return p

def createPolicy (p : NetworkPolicy) : Call Cluster NetworkPolicy := do
  let p ← checkedPolicy p
  requireNamespace p.ns
  if (← get).policies.contains (policyKey p) then throw (.refused (.exists .policy p.fullName))
  storePolicy p

def updatePolicy (p : NetworkPolicy) : Call Cluster NetworkPolicy := do
  let p ← checkedPolicy p
  discard (found .policy p.fullName ((← get).policies.get? (policyKey p)))
  storePolicy p

def deletePolicy (ns name : String) : Call Cluster Unit := do
  let key : NamePair := ⟨ns, name⟩
  discard (found .policy key.text ((← get).policies.get? key))
  modify fun c => { c with policies := c.policies.erase key }

def deleteAllPolicies (namespaces : List String) : Call Cluster Unit :=
  modify fun c =>
    { c with policies := c.policies.filter fun key _ => !namespaces.contains key.first }

def listPods (namespaces : List String) : Call Cluster (List PodObject) := do
  return inside namespaces (← get).pods

def getPod (ns name : String) : Call Cluster PodObject := do
  let key : NamePair := ⟨ns, name⟩
  found .pod key.text ((← get).pods.get? key)

def addressOf (id : Nat) : String :=
  "192.168." ++ toString (id / 256) ++ "." ++ toString (id % 256)

def started (p : PodObject) (id : Nat) : PodObject :=
  { p with status := some { phase := some "Running", ip := some (addressOf id) } }

/-- A pod that is there already is left alone. -/
def createPod (p : PodObject) : Call Cluster PodObject := do
  requireNamespace p.key.first
  let c ← get
  match c.pods.get? p.key with
  | some present => return present
  | none =>
    let id := c.podsCreated + 1
    set { c with podsCreated := id, pods := c.pods.insert p.key (started p id) }
    return started p id

def setPodLabels (ns name : String) (labels : Labels) : Call Cluster PodObject := do
  let key : NamePair := ⟨ns, name⟩
  let p ← found .pod key.text ((← get).pods.get? key)
  let p := { p with labels := some labels }
  modify fun c => { c with pods := c.pods.insert key p }
  return p

def deletePod (ns name : String) : Call Cluster Unit := do
  let key : NamePair := ⟨ns, name⟩
  discard (found .pod key.text ((← get).pods.get? key))
  modify fun c => { c with pods := c.pods.erase key }

def getService (ns name : String) : Call Cluster ServiceObject := do
  let key : NamePair := ⟨ns, name⟩
  found .service key.text ((← get).services.get? key)

/-- A service that is there already is left alone. -/
def createService (s : ServiceObject) : Call Cluster ServiceObject := do
  requireNamespace s.key.first
  match (← get).services.get? s.key with
  | some present => return present
  | none =>
    modify fun c => { c with services := c.services.insert s.key s }
    return s

def deleteService (ns name : String) : Call Cluster Unit := do
  let key : NamePair := ⟨ns, name⟩
  discard (found .service key.text ((← get).services.get? key))
  modify fun c => { c with services := c.services.erase key }

/-- Every attempt counts, also one that does not start. -/
def exec (mode : ExecMode) (ns pod container : String) (command : List String) :
    Call Cluster ExecOutput := do
  modify fun c => { c with commandsRun := c.commandsRun + 1 }
  let c ← get
  let place := ns ++ "/" ++ pod ++ "/" ++ container
  match c.pods.get? ⟨ns, pod⟩ with
  | none => throw (.transport place .podMissing)
  | some source =>
    if !source.containerList.any (·.name == container) then
      throw (.transport place .containerMissing)
    match c.output mode source command with
    | .ok o => return o
    | .error e => throw (.policy e)

def client (mode : ExecMode) : Client Cluster where
  getNamespace := getNamespace
  createNamespace := createNamespace
  setNamespaceLabels := setNamespaceLabels
  deleteNamespace := deleteNamespace
  listPolicies := listPolicies
  createPolicy := createPolicy
  updatePolicy := updatePolicy
  deletePolicy := deletePolicy
  deleteAllPolicies := deleteAllPolicies
  listPods := listPods
  getPod := getPod
  createPod := createPod
  setPodLabels := setPodLabels
  deletePod := deletePod
  getService := getService
  createService := createService
  deleteService := deleteService
  exec := exec mode

end Cluster
end PodTraffic
