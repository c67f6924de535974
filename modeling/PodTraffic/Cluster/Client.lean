import PodTraffic.Cluster.Object
import PodTraffic.Manifest
import PodTraffic.Port

/-!
# Access to a cluster

The calls that deployment, probes and trials make, over any state behind them. A call answers or
fails, and may change the state in both cases. Through them the objects of a model are created, a
cluster is brought back to it, and the two are checked against each other.
-/
namespace PodTraffic

inductive ExecFault where
  | podMissing
  | containerMissing
  deriving DecidableEq, Repr

/-- Where a cluster and a resource model differ. -/
inductive Mismatch where
  | nsLabels (ns : String) (actual expected : Labels)
  | podLabels (pod : String) (actual expected : Labels)
  | podIp (pod : String) (actual expected : String)
  deriving DecidableEq

inductive ClusterError where
  /-- The command never started in the container. -/
  | transport (container : String) (fault : ExecFault)
  | refused (refusal : Refusal)
  | pendingPods (count : Nat)
  | pendingPod (pod : String)
  | mismatch (m : Mismatch)
  | policy (e : PolicyError)
  deriving DecidableEq

def ExecFault.message : ExecFault → String
  | podMissing => "pod not found"
  | containerMissing => "container not found"

def Refusal.message : Refusal → String
  | notFound kind name => kind.name ++ " " ++ name ++ " not found"
  | «exists» kind name => kind.name ++ " " ++ name ++ " already exists"

def Mismatch.message : Mismatch → String
  | nsLabels ns actual expected =>
    "namespace " ++ ns ++ " labels " ++ Text.quotedPairs actual.entries ++ ", expected " ++
      Text.quotedPairs expected.entries
  | podLabels pod actual expected =>
    "pod " ++ pod ++ " labels " ++ Text.quotedPairs actual.entries ++ ", expected " ++
      Text.quotedPairs expected.entries
  | podIp pod actual expected => "pod " ++ pod ++ " ip " ++ actual ++ ", expected " ++ expected

def ClusterError.message : ClusterError → String
  | transport container fault =>
    "Remote command failed to start in " ++ container ++ ": " ++ fault.message
  | refused refusal => refusal.message
  | pendingPods count => "Timed out waiting for " ++ toString count ++ " pods to be running"
  | pendingPod pod => "Timed out waiting for pod " ++ pod ++ " to be running"
  | mismatch m => "Cluster state does not match resource model: " ++ m.message
  | policy e => e.message

def ClusterError.isNotFound : ClusterError → Bool
  | refused (.notFound _ _) => true
  | _ => false

/-- What a command printed, and how it ended if not well. -/
structure ExecOutput where
  stdout : String := ""
  stderr : String := ""
  failure : Option String := none
  deriving DecidableEq, Repr

def ExecOutput.isSuccess (o : ExecOutput) : Bool := o.failure.isNone

abbrev Call (σ α : Type) := ExceptT ClusterError (StateM σ) α

structure Client (σ : Type) where
  getNamespace : String → Call σ Labels
  createNamespace : String → Labels → Call σ Labels
  setNamespaceLabels : String → Labels → Call σ Labels
  deleteNamespace : String → Call σ Unit
  listPolicies : List String → Call σ (List NetworkPolicy)
  createPolicy : NetworkPolicy → Call σ NetworkPolicy
  updatePolicy : NetworkPolicy → Call σ NetworkPolicy
  deletePolicy : String → String → Call σ Unit
  deleteAllPolicies : List String → Call σ Unit
  listPods : List String → Call σ (List PodObject)
  getPod : String → String → Call σ PodObject
  createPod : PodObject → Call σ PodObject
  setPodLabels : String → String → Labels → Call σ PodObject
  deletePod : String → String → Call σ Unit
  getService : String → String → Call σ ServiceObject
  createService : ServiceObject → Call σ ServiceObject
  deleteService : String → String → Call σ Unit
  exec : (ns pod container : String) → (command : List String) → Call σ ExecOutput

namespace Resources

variable {σ : Type}

def namespaceNames (r : Resources) : List String := r.namespaces.keys

/-- An object that is already gone counts as deleted. -/
def ignoreNotFound (call : Call σ Unit) : Call σ Unit :=
  tryCatch call fun e => if e.isNotFound then return () else throw e

/-- Namespaces first, then for each pod its service and itself. -/
def createAll (client : Client σ) (image : String) (r : Resources) : Call σ Unit := do
  r.namespaces.entries.forM fun (ns, labels) => discard (client.createNamespace ns labels)
  r.pods.forM fun p => do
    discard (client.createService p.serviceObject)
    discard (client.createPod (p.object image))

/-- The key and address of a running pod. -/
def runningIp? (p : PodObject) : Option (String × String) := do
  let key : NamePair := ⟨← p.ns, ← p.name⟩
  let status ← p.status
  let ip ← status.ip
  if status.phase == some "Running" && !ip.isEmpty then some (key.text, ip) else none

/-- The model with the current addresses of its pods, all of which must run. -/
def awaitIps (client : Client σ) (r : Resources) : Call σ Resources := do
  let pods ← client.listPods r.namespaceNames
  let ips : SortedMap String String := .ofList (pods.filterMap runningIp?)
  match (r.podKeys.filter fun key => !ips.contains key).length with
  | 0 => return r.withPodIps ips
  | pending => throw (.pendingPods pending)

def deploy (client : Client σ) (image : String) (r : Resources) : Call σ Resources := do
  createAll client image r
  awaitIps client r

/-- Give every namespace and pod the labels of the model. -/
def resetLabels (client : Client σ) (r : Resources) : Call σ Unit := do
  r.namespaces.entries.forM fun (ns, labels) => discard (client.setNamespaceLabels ns labels)
  r.pods.forM fun p => discard (client.setPodLabels p.ns p.name p.labels)

def deleteStray (client : Client σ) (r : Resources) (p : PodObject) : Call σ Unit :=
  match p.ns, p.name with
  | some ns, some name =>
    if r.podKeys.contains (NamePair.mk ns name).text then return ()
    else do
      ignoreNotFound (client.deleteService ns (serviceName ns name))
      ignoreNotFound (client.deletePod ns name)
  | _, _ => return ()

/-- Delete the pods that the model does not have, create those that are missing, and restore
labels. -/
def reconcile (client : Client σ) (image : String) (r : Resources) : Call σ Resources := do
  let pods ← client.listPods r.namespaceNames
  pods.forM (deleteStray client r)
  createAll client image r
  resetLabels client r
  awaitIps client r

def verifyNamespace (client : Client σ) (ns : String) (labels : Labels) : Call σ Unit := do
  let actual ← client.getNamespace ns
  let expected := withNameLabel ns labels
  if actual ≠ expected then throw (.mismatch (.nsLabels ns actual expected))

/-- Labels and the service must agree, and the address if the model has one. -/
def verifyPod (client : Client σ) (p : Pod) : Call σ Unit := do
  let actual ← client.getPod p.ns p.name
  if actual.labelMap ≠ p.labels then throw (.mismatch (.podLabels p.key actual.labelMap p.labels))
  let ip := actual.ipText?.getD ""
  if !p.ip.isEmpty && ip != p.ip then throw (.mismatch (.podIp p.key ip p.ip))
  discard (client.getService p.ns p.service)

def verify (client : Client σ) (r : Resources) : Call σ Unit := do
  r.namespaces.entries.forM fun (ns, labels) => verifyNamespace client ns labels
  r.pods.forM (verifyPod client)

end Resources
end PodTraffic
