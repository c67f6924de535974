import PodTraffic.Document
import PodTraffic.Resources

/-!
# Cluster objects

Pods and services as a cluster stores them. Every part may be absent there; the objects made from
a resource model have all parts but the status.
-/
namespace PodTraffic

structure PortObject where
  number : Int
  name : Option String := none
  protocol : Option String := none
  deriving DecidableEq

structure ContainerObject where
  name : String
  image : Option String := none
  pullPolicy : Option String := none
  command : Option (List String) := none
  env : Option (List (String × String)) := none
  ports : Option (List PortObject) := none
  deriving DecidableEq

structure PodStatus where
  phase : Option String := none
  ip : Option String := none
  deriving DecidableEq

structure PodObject where
  ns : Option String := none
  name : Option String := none
  labels : Option Labels := none
  containers : Option (List ContainerObject) := none
  status : Option PodStatus := none
  deriving DecidableEq

structure ServiceSpec where
  selector : Option Labels := none
  ports : Option (List PortObject) := none
  deriving DecidableEq

structure ServiceObject where
  ns : Option String := none
  name : Option String := none
  spec : Option ServiceSpec := none
  deriving DecidableEq

namespace PodObject

/-- Absent names count as empty. -/
def key (p : PodObject) : NamePair := ⟨p.ns.getD "", p.name.getD ""⟩

def labelMap (p : PodObject) : Labels := p.labels.getD .empty

def containerList (p : PodObject) : List ContainerObject := p.containers.getD []

def ipText? (p : PodObject) : Option String := p.status >>= (·.ip)

def address? (p : PodObject) : Option Address := p.ipText? >>= Address.parse?

end PodObject

def ServiceObject.key (s : ServiceObject) : NamePair := ⟨s.ns.getD "", s.name.getD ""⟩

def ServiceObject.selector (s : ServiceObject) : Labels :=
  (s.spec >>= (·.selector)).getD .empty

def defaultImage : String := "registry.k8s.io/e2e-test-images/agnhost:2.43"

namespace Container

/-- The command that serves the port. -/
def serverCommand (c : Container) : List String :=
  match c.protocol with
  | .sctp => ["/agnhost", "porter"]
  | protocol =>
    ["/agnhost", "serve-hostname", "--" ++ protocol.lowerName, "--http=false", "--port",
      toString c.port]

def object (image : String) (c : Container) : ContainerObject where
  name := c.name
  image := some image
  pullPolicy := some "IfNotPresent"
  command := some c.serverCommand
  env := if c.protocol = .sctp then some [("SERVE_SCTP_PORT_" ++ toString c.port, "foo")] else none
  ports := some [⟨c.port, c.portName, some c.protocol.name⟩]

def servicePort (c : Container) : PortObject :=
  ⟨c.port, some ("service-port-" ++ c.protocol.lowerName ++ "-" ++ toString c.port),
    some c.protocol.name⟩

end Container

namespace Pod

def object (image : String) (p : Pod) : PodObject where
  ns := some p.ns
  name := some p.name
  labels := some p.labels
  containers := some (p.containers.map (·.object image))

/-- The service selects the pod by its name label. -/
def serviceObject (p : Pod) : ServiceObject where
  ns := some p.ns
  name := some p.service
  spec := some {
    selector := some (podLabels p.name)
    ports := some (p.containers.map (·.servicePort)) }

end Pod

def ContainerObject.toValue (c : ContainerObject) : Value :=
  let port (p : PortObject) : Value :=
    .object ([("containerPort", .int p.number)] ++ Value.given "name" Value.string p.name ++
      Value.given "protocol" Value.string p.protocol)
  let setting (v : String × String) : Value :=
    .object [("name", .string v.1), ("value", .string v.2)]
  .object (Value.given "command" Value.texts c.command ++
    Value.given "env" (Value.ofList setting) c.env ++ Value.given "image" Value.string c.image ++
    Value.given "imagePullPolicy" Value.string c.pullPolicy ++ [("name", .string c.name)] ++
    Value.given "ports" (Value.ofList port) c.ports)

def labelsToValue (labels : Labels) : Value :=
  .object (labels.entries.map fun (key, value) => (key, .string value))

/-- As it is sent to a cluster, without a status. -/
def PodObject.toValue (p : PodObject) : Value :=
  let metadata := Value.given "labels" labelsToValue p.labels ++
    Value.given "name" Value.string p.name ++ Value.given "namespace" Value.string p.ns
  let spec (containers : List ContainerObject) : Value :=
    .object [("containers", .ofList ContainerObject.toValue containers),
      ("terminationGracePeriodSeconds", .nat 0)]
  .object (
    [("apiVersion", .string "v1"), ("kind", .string "Pod"), ("metadata", .object metadata)] ++
    Value.given "spec" spec p.containers)

def ServiceObject.toValue (s : ServiceObject) : Value :=
  let metadata :=
    Value.given "name" Value.string s.name ++ Value.given "namespace" Value.string s.ns
  let port (p : PortObject) : Value :=
    .object (Value.given "name" Value.string p.name ++ [("port", .int p.number)] ++
      Value.given "protocol" Value.string p.protocol)
  let spec (s : ServiceSpec) : Value :=
    .object (Value.given "ports" (Value.ofList port) s.ports ++
      Value.given "selector" labelsToValue s.selector)
  .object ([("apiVersion", .string "v1"), ("kind", .string "Service"),
    ("metadata", .object metadata)] ++ Value.given "spec" spec s.spec)

end PodTraffic
