import PodTraffic.Address
import PodTraffic.Collections
import PodTraffic.Manifest
import PodTraffic.Port

/-!
# The resource model

Namespaces with their labels, pods with the containers that serve their ports, and addresses
outside the cluster. A model is a value: a change gives a new one, or names the object that is
missing or in the way.
-/
namespace PodTraffic

structure Container where
  name : String
  port : Nat
  protocol : Protocol
  portName : Option String := none
  deriving DecidableEq, Repr

structure ServedPort where
  number : Nat
  protocol : Protocol
  deriving DecidableEq, Repr

namespace ServedPort

instance : Ord ServedPort := ⟨compareLex (compareOn (·.number)) (compareOn (·.protocol))⟩

instance : Std.TransOrd ServedPort :=
  inferInstanceAs (Std.TransCmp (compareLex (compareOn fun s : ServedPort => s.number)
    (compareOn (·.protocol))))

def text (s : ServedPort) : String := toString s.number ++ "/" ++ s.protocol.name

end ServedPort

def Container.served (c : Container) : ServedPort := ⟨c.port, c.protocol⟩

/-- Named for what it serves. -/
def Container.serving (port : Nat) (protocol : Protocol) : Container :=
  let label := toString port ++ "-" ++ protocol.lowerName
  ⟨"cont-" ++ label, port, protocol, some ("serve-" ++ label)⟩

structure Pod where
  ns : String
  name : String
  labels : Labels
  /-- Empty until the pod runs. -/
  ip : String := ""
  containers : List Container
  deriving DecidableEq

/-- The name of the service before a pod. -/
def serviceName (ns pod : String) : String := "s-" ++ ns ++ "-" ++ pod

namespace Pod

def key (p : Pod) : String := (NamePair.mk p.ns p.name).text

def service (p : Pod) : String := serviceName p.ns p.name

/-- The name under which the pod is reached. -/
def host (p : Pod) : String := p.service ++ "." ++ p.ns ++ ".svc.cluster.local"

def address? (p : Pod) : Option Address := Address.parse? p.ip

def named? (p : Pod) (portName : String) : Option Container :=
  p.containers.find? (·.portName == some portName)

def numbered? (p : Pod) (port : Nat) (protocol : Protocol) : Option Container :=
  p.containers.find? fun c => c.port == port && c.protocol == protocol

end Pod

/-- The label that a cluster keeps on every namespace. -/
def nameLabel : String := "kubernetes.io/metadata.name"

def withNameLabel (ns : String) (labels : Labels) : Labels := labels.insert nameLabel ns

def defaultNamespaceLabels (ns : String) : Labels := withNameLabel ns (.ofList [("ns", ns)])

/-- Services select pods by this label. -/
def podLabels (name : String) : Labels := .ofList [("pod", name)]

inductive ObjectKind where
  | ns
  | pod
  | service
  | policy
  deriving DecidableEq, Repr

def ObjectKind.name : ObjectKind → String
  | ns => "namespace"
  | pod => "pod"
  | service => "service"
  | policy => "network policy"

/-- Why a change to a model or a cluster is refused. -/
inductive Refusal where
  | notFound (kind : ObjectKind) (name : String)
  | exists (kind : ObjectKind) (name : String)
  deriving DecidableEq, Repr

structure Resources where
  namespaces : SortedMap String Labels := .empty
  pods : List Pod := []
  externalIps : List String := []
  deriving DecidableEq

namespace Resources

/-- By namespace, then name. -/
def sortPods (pods : List Pod) : List Pod :=
  Ordered.sortBy (compareOn fun p => NamePair.mk p.ns p.name) pods

/-- Every namespace holds every pod, and every pod serves every port on every protocol. Fails with
the first external address that is none. -/
def default (namespaces pods : List String) (ports : List Nat) (protocols : List Protocol)
    (externalIps : List String) : Except String Resources :=
  let containers := ports.flatMap fun port => protocols.map (Container.serving port)
  match externalIps.find? fun ip => (Address.parse? ip).isNone with
  | some ip => .error ip
  | none =>
    .ok {
      namespaces := .ofList (namespaces.map fun ns => (ns, defaultNamespaceLabels ns))
      pods := sortPods (namespaces.flatMap fun ns => pods.map fun name =>
        { ns, name, labels := podLabels name, containers })
      externalIps := Ordered.distinct externalIps }

def pod? (r : Resources) (ns name : String) : Option Pod :=
  r.pods.find? fun p => p.ns == ns && p.name == name

/-- The labels of a namespace; none for one that is missing. -/
def nsLabels (r : Resources) (ns : String) : Labels := (r.namespaces.get? ns).getD .empty

def podKeys (r : Resources) : List String := Ordered.distinct (r.pods.map (·.key))

def destinationKeys (r : Resources) : List String := r.podKeys ++ r.externalIps

/-- Every port that some container serves, by number, then protocol. -/
def servedPorts (r : Resources) : List ServedPort :=
  Ordered.distinct (r.pods.flatMap fun p => p.containers.map (·.served))

def setNamespaceLabels (r : Resources) (ns : String) (labels : Labels) :
    Except Refusal Resources :=
  if r.namespaces.contains ns then
    .ok { r with namespaces := r.namespaces.adjust ns fun _ => withNameLabel ns labels }
  else .error (.notFound .ns ns)

/-- The first pod of that name. -/
def relabel (ns name : String) (labels : Labels) : List Pod → List Pod
  | [] => []
  | p :: ps =>
    if p.ns == ns && p.name == name then { p with labels } :: ps
    else p :: relabel ns name labels ps

def setPodLabels (r : Resources) (ns name : String) (labels : Labels) : Except Refusal Resources :=
  if (r.pod? ns name).isSome then .ok { r with pods := relabel ns name labels r.pods }
  else .error (.notFound .pod (NamePair.mk ns name).text)

def createNamespace (r : Resources) (ns : String) (labels : Labels) : Except Refusal Resources :=
  if r.namespaces.contains ns then .error (.exists .ns ns)
  else .ok { r with namespaces := r.namespaces.insert ns (withNameLabel ns labels) }

/-- With every pod in it. -/
def deleteNamespace (r : Resources) (ns : String) : Except Refusal Resources :=
  if r.namespaces.contains ns then
    .ok { r with namespaces := r.namespaces.erase ns, pods := r.pods.filter (·.ns != ns) }
  else .error (.notFound .ns ns)

/-- The new pod serves every port that some pod serves. -/
def createPod (r : Resources) (ns name : String) (labels : Labels) : Except Refusal Resources :=
  if !r.namespaces.contains ns then .error (.notFound .ns ns)
  else if (r.pod? ns name).isSome then .error (.exists .pod (NamePair.mk ns name).text)
  else
    let containers := r.servedPorts.map fun s => Container.serving s.number s.protocol
    .ok { r with pods := sortPods (r.pods ++ [{ ns, name, labels, containers }]) }

def deletePod (r : Resources) (ns name : String) : Except Refusal Resources :=
  if (r.pod? ns name).isSome then
    .ok { r with pods := r.pods.filter fun p => !(p.ns == ns && p.name == name) }
  else .error (.notFound .pod (NamePair.mk ns name).text)

/-- Fill in the addresses given for pod keys. -/
def withPodIps (r : Resources) (ips : SortedMap String String) : Resources :=
  { r with pods := r.pods.map fun p => { p with ip := (ips.get? p.key).getD p.ip } }

end Resources
end PodTraffic
