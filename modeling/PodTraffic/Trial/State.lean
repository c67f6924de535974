import PodTraffic.Cluster.Client
import PodTraffic.Collections
import PodTraffic.TestCase
import PodTraffic.Text

/-!
# Actions on a model and a cluster

A trial keeps a model of the cluster: its resources and the policies in force. An action is first
tried on the model, then on the cluster; the model changes only if both accept it. Namespaces that
trials create are noted, so that a later reset can delete them.
-/
namespace PodTraffic

/-- Why the model refuses an action. -/
inductive Obstacle where
  | refused (r : Refusal)
  | policyPresent (name : String)
  | policyAbsent (name : String)
  deriving DecidableEq, Repr

def Obstacle.message : Obstacle → String
  | refused r => r.message
  | policyPresent name => "policy " ++ name ++ " already exists"
  | policyAbsent name => "policy " ++ name ++ " does not exist"

inductive TrialError where
  | obstacle (o : Obstacle)
  | cluster (e : ClusterError)
  deriving DecidableEq

def TrialError.message : TrialError → String
  | obstacle o => "Action precondition failed: " ++ o.message
  | cluster e => e.message

/-- What a trial takes the cluster to hold. Policies are listed by their full names. -/
structure TrialState where
  resources : Resources
  policies : Listing NetworkPolicy := []

/-- What lasts from one trial to the next. -/
structure Session (σ : Type) where
  cluster : σ
  /-- What was deployed. -/
  deployed : Resources
  /-- Namespaces created by trials and not yet deleted, sorted. -/
  created : List String := []

abbrev TrialM (σ α : Type) := ExceptT TrialError (StateM (Session σ)) α

namespace Trial

variable {σ α : Type}

def fail (e : TrialError) : TrialM σ α := throw e

/-- A call changes the cluster of the session, also when it fails. -/
def call (c : Call σ α) : TrialM σ α :=
  ExceptT.mk do
    let s ← get
    let (answer, cluster) := c.run s.cluster
    set { s with cluster }
    return answer.mapError .cluster

/-- A change of the model. -/
def change (next : Except Refusal Resources) : TrialM σ Resources :=
  match next with
  | .ok r => return r
  | .error r => fail (.obstacle (.refused r))

def noteCreated (ns : String) : TrialM σ Unit :=
  modify fun s =>
    if s.deployed.namespaces.contains ns then s
    else { s with created := Ordered.insertNew ns s.created }

end Trial

namespace TrialState

variable {σ : Type}

def hasPolicy (s : TrialState) (name : String) : Bool := s.policies.contains name

def requirePolicy (s : TrialState) (name : String) : TrialM σ Unit :=
  if s.hasPolicy name then return () else Trial.fail (.obstacle (.policyAbsent name))

/-- As the cluster stores it. -/
def putPolicy (s : TrialState) (p : NetworkPolicy) : TrialState :=
  { s with policies := s.policies.put p.fullName p.withDefaultTypes }

/-- The address of a pod once it runs. -/
def awaitIp (client : Client σ) (ns name : String) : Call σ String := do
  let p ← client.getPod ns name
  match p.status with
  | some { phase := some "Running", ip := some ip } =>
    if ip.isEmpty then throw (.pendingPod (NamePair.mk ns name).text) else return ip
  | _ => throw (.pendingPod (NamePair.mk ns name).text)

/-- Create the service and the pod that the model has gained. -/
def startPod (client : Client σ) (image : String) (p : Pod) : Call σ String := do
  discard (client.createService p.serviceObject)
  discard (client.createPod (p.object image))
  awaitIp client p.ns p.name

def deletePodAndService (client : Client σ) (p : Pod) : Call σ Unit := do
  client.deleteService p.ns p.service
  client.deletePod p.ns p.name

/-- The full name of a policy begins with its namespace. -/
def isInside (ns name : String) : Bool := (Text.after? (ns ++ "/").toList name.toList).isSome

/-- The model after the action. -/
def apply (client : Client σ) (image : String) (s : TrialState) : Action → TrialM σ TrialState
  | .createPolicy p => do
    if s.hasPolicy p.fullName then Trial.fail (.obstacle (.policyPresent p.fullName))
    discard (Trial.call (client.createPolicy p))
    return s.putPolicy p
  | .updatePolicy p => do
    s.requirePolicy p.fullName
    discard (Trial.call (client.updatePolicy p))
    return s.putPolicy p
  | .deletePolicy ns name => do
    let key := ns ++ "/" ++ name
    s.requirePolicy key
    Trial.call (client.deletePolicy ns name)
    return { s with policies := s.policies.erase key }
  | .readPolicies namespaces => do
    let stored ← Trial.call (client.listPolicies namespaces)
    return { s with policies := .ofList (stored.map fun p => (p.fullName, p)) }
  | .setPodLabels ns pod labels => do
    let resources ← Trial.change (s.resources.setPodLabels ns pod labels)
    discard (Trial.call (client.setPodLabels ns pod labels))
    return { s with resources }
  | .setNamespaceLabels ns labels => do
    let resources ← Trial.change (s.resources.setNamespaceLabels ns labels)
    discard (Trial.call (client.setNamespaceLabels ns labels))
    return { s with resources }
  | .createNamespace ns labels => do
    let resources ← Trial.change (s.resources.createNamespace ns labels)
    Trial.noteCreated ns
    discard (Trial.call (client.createNamespace ns labels))
    return { s with resources }
  | .deleteNamespace ns => do
    let resources ← Trial.change (s.resources.deleteNamespace ns)
    Trial.call (client.deleteNamespace ns)
    return { resources, policies := s.policies.filter fun (name, _) => !isInside ns name }
  | .createPod ns pod labels => do
    let resources ← Trial.change (s.resources.createPod ns pod labels)
    match resources.pod? ns pod with
    | none => Trial.fail (.obstacle (.refused (.notFound .pod (NamePair.mk ns pod).text)))
    | some p =>
      let ip ← Trial.call (startPod client image p)
      return { s with resources := resources.withPodIps (.ofList [(p.key, ip)]) }
  | .deletePod ns pod => do
    let resources ← Trial.change (s.resources.deletePod ns pod)
    match s.resources.pod? ns pod with
    | none => return { s with resources }
    | some p =>
      Trial.call (deletePodAndService client p)
      return { s with resources }

end TrialState
end PodTraffic
