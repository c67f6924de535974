import PodTraffic.Document
import PodTraffic.Resources
import PodTraffic.Traffic

/-!
# Models, traffic and verdicts in documents

Traffic between endpoints, resource models, verdicts and probe requests, as their fields are named
in data files.
-/
namespace PodTraffic

namespace Protocol

def ofValue? (v : Value) : Option Protocol := v.choice? >>= ofName?

def toValue (p : Protocol) : Value := .string p.name

end Protocol

namespace PortValue

def ofValue? : Value → Option PortValue
  | .string s => some (name s)
  | v => (v.nat? maxPort).map number

def toValue : PortValue → Value
  | name s => .string s
  | number n => .nat n

end PortValue

namespace Endpoint

def podOfValue? (v : Value) : Option PodIdentity := do
  let fields ← v.record? ["podLabels", "namespaceLabels", "namespace"]
  return {
    labels := ← fields.withDefault "podLabels" .empty Value.textMap?
    nsLabels := ← fields.withDefault "namespaceLabels" .empty Value.textMap?
    ns := ← fields.required "namespace" Value.text? }

def ofValue? (v : Value) : Option Endpoint := do
  let fields ← v.record? ["internal", "ip"]
  return {
    pod := ← fields.nullable "internal" podOfValue?
    ip := ← fields.nullable "ip" fun v => v.text? >>= Address.parse? }

def podToValue (p : PodIdentity) : Value :=
  .object [("podLabels", .ofTextMap p.labels), ("namespaceLabels", .ofTextMap p.nsLabels),
    ("namespace", .string p.ns)]

def toValue (e : Endpoint) : Value :=
  .object [("internal", .ofOption podToValue e.pod),
    ("ip", .ofOption (fun ip => .string ip.text) e.ip)]

end Endpoint

def Direction.ofValue? (v : Value) : Option Direction := do
  match ← v.choice? with
  | "ingress" => some .ingress
  | "egress" => some .egress
  | _ => none

def Traffic.ofValue? (v : Value) : Option Traffic := do
  let fields ← v.record?
    ["source", "destination", "resolvedPort", "resolvedPortName", "protocol"]
  return {
    source := ← fields.required "source" Endpoint.ofValue?
    destination := ← fields.required "destination" Endpoint.ofValue?
    port := {
      number := ← fields.required "resolvedPort" (Value.nat? maxPort)
      name := ← fields.nullable "resolvedPortName" Value.text?
      protocol := ← fields.required "protocol" Protocol.ofValue? } }

def Traffic.toValue (t : Traffic) : Value :=
  .object [("source", t.source.toValue), ("destination", t.destination.toValue),
    ("resolvedPort", .nat t.port.number),
    ("resolvedPortName", .ofOption Value.string t.port.name),
    ("protocol", t.port.protocol.toValue)]

namespace Container

def ofValue? (v : Value) : Option Container := do
  let fields ← v.record? ["name", "port", "protocol", "portName"]
  return {
    name := ← fields.required "name" Value.text?
    port := ← fields.required "port" (Value.nat? maxPort)
    protocol := ← fields.required "protocol" Protocol.ofValue?
    portName := ← fields.nullable "portName" Value.text? }

def toValue (c : Container) : Value :=
  .object [("name", .string c.name), ("port", .nat c.port), ("protocol", c.protocol.toValue),
    ("portName", .ofOption Value.string c.portName)]

end Container

namespace Pod

def ofValue? (v : Value) : Option Pod := do
  let fields ← v.record? ["namespace", "name", "labels", "ip", "containers"]
  return {
    ns := ← fields.required "namespace" Value.text?
    name := ← fields.required "name" Value.text?
    labels := ← fields.required "labels" Value.textMap?
    ip := ← fields.withDefault "ip" "" Value.text?
    containers := ← fields.required "containers" (Value.listOf? Container.ofValue?) }

def toValue (p : Pod) : Value :=
  .object [("namespace", .string p.ns), ("name", .string p.name), ("labels", .ofTextMap p.labels),
    ("ip", .string p.ip), ("containers", .ofList Container.toValue p.containers)]

end Pod

namespace Resources

def ofValue? (v : Value) : Option Resources := do
  let fields ← v.record? ["namespaces", "pods", "externalIps"]
  return {
    namespaces := ← fields.required "namespaces" (Value.mapOf? Value.textMap?)
    pods := ← fields.required "pods" (Value.listOf? Pod.ofValue?)
    externalIps := ← fields.withDefault "externalIps" [] (Value.listOf? Value.text?) }

def toValue (r : Resources) : Value :=
  .object [
    ("namespaces", .object (r.namespaces.entries.map fun (ns, labels) => (ns, .ofTextMap labels))),
    ("pods", .ofList Pod.toValue r.pods), ("externalIps", .texts r.externalIps)]

end Resources

def Connectivity.ofValue? (v : Value) : Option Connectivity := do
  let name ← v.choice?
  all.find? (·.name == name)

namespace Verdict

def ofValue? (v : Value) : Option Verdict := do
  let fields ← v.record? ["ingress", "egress", "combined"]
  return {
    ingress := ← fields.nullable "ingress" Connectivity.ofValue?
    egress := ← fields.nullable "egress" Connectivity.ofValue?
    combined := ← fields.required "combined" Connectivity.ofValue? }

def toValue (v : Verdict) : Value :=
  let part (c : Connectivity) : Value := .string c.name
  .object [("ingress", .ofOption part v.ingress), ("egress", .ofOption part v.egress),
    ("combined", part v.combined)]

end Verdict

namespace ProbeConfig

def ofValue? (v : Value) : Option ProbeConfig := do
  match ← v.kind? "mode" with
  | ("all-available", .object _) | ("all-available", .list []) => some .allAvailable
  | ("port-protocol", v) =>
    let fields ← v.record? ["port", "protocol"]
    return .port (← fields.required "port" PortValue.ofValue?)
      (← fields.required "protocol" fun v => v.looseChoice? >>= Protocol.ofName?)
  | _ => none

def toValue : ProbeConfig → Value
  | .allAvailable => .object [("mode", .string "all-available")]
  | .port p protocol =>
    .object [("mode", .string "port-protocol"), ("port", p.toValue), ("protocol", protocol.toValue)]

end ProbeConfig
end PodTraffic
