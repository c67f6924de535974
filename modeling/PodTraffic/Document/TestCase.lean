import PodTraffic.Document.Verdict
import PodTraffic.Manifest.Decode
import PodTraffic.TestCase

/-!
# Test cases in documents
-/
namespace PodTraffic

namespace Action

def ofValue? (v : Value) : Option Action := do
  let (kind, v) ← v.kind? "action"
  let fields (names : List String) : Option Fields := v.record? names
  let text (fields : Fields) (name : String) : Option String := fields.required name Value.text?
  let labels (fields : Fields) : Option Labels := fields.required "labels" Value.textMap?
  match kind with
  | "createPolicy" =>
    return .createPolicy (← (← fields ["policy"]).required "policy" (Manifest.policy? .strict))
  | "updatePolicy" =>
    return .updatePolicy (← (← fields ["policy"]).required "policy" (Manifest.policy? .strict))
  | "deletePolicy" =>
    let given ← fields ["namespace", "name"]
    return .deletePolicy (← text given "namespace") (← text given "name")
  | "readPolicies" =>
    let given ← fields ["namespaces"]
    return .readPolicies (← given.required "namespaces" (Value.listOf? Value.text?))
  | "setPodLabels" =>
    let given ← fields ["namespace", "pod", "labels"]
    return .setPodLabels (← text given "namespace") (← text given "pod") (← labels given)
  | "setNamespaceLabels" =>
    let given ← fields ["namespace", "labels"]
    return .setNamespaceLabels (← text given "namespace") (← labels given)
  | "createNamespace" =>
    let given ← fields ["namespace", "labels"]
    return .createNamespace (← text given "namespace") (← labels given)
  | "deleteNamespace" => return .deleteNamespace (← text (← fields ["namespace"]) "namespace")
  | "createPod" =>
    let given ← fields ["namespace", "pod", "labels"]
    return .createPod (← text given "namespace") (← text given "pod") (← labels given)
  | "deletePod" =>
    let given ← fields ["namespace", "pod"]
    return .deletePod (← text given "namespace") (← text given "pod")
  | _ => none

def toValue (action : Action) : Value :=
  let (kind, fields) : String × Fields := match action with
    | createPolicy p => ("createPolicy", [("policy", Manifest.ofPolicy p)])
    | updatePolicy p => ("updatePolicy", [("policy", Manifest.ofPolicy p)])
    | deletePolicy ns name => ("deletePolicy", [("namespace", .string ns), ("name", .string name)])
    | readPolicies namespaces => ("readPolicies", [("namespaces", .texts namespaces)])
    | setPodLabels ns pod labels =>
      ("setPodLabels",
        [("namespace", .string ns), ("pod", .string pod), ("labels", .ofTextMap labels)])
    | setNamespaceLabels ns labels =>
      ("setNamespaceLabels", [("namespace", .string ns), ("labels", .ofTextMap labels)])
    | createNamespace ns labels =>
      ("createNamespace", [("namespace", .string ns), ("labels", .ofTextMap labels)])
    | deleteNamespace ns => ("deleteNamespace", [("namespace", .string ns)])
    | createPod ns pod labels =>
      ("createPod",
        [("namespace", .string ns), ("pod", .string pod), ("labels", .ofTextMap labels)])
    | deletePod ns pod => ("deletePod", [("namespace", .string ns), ("pod", .string pod)])
  .object (("action", .string kind) :: fields)

end Action

namespace TestStep

def ofValue? (v : Value) : Option TestStep := do
  let fields ← v.record? ["probe", "actions"]
  return {
    probe := ← fields.required "probe" ProbeConfig.ofValue?
    actions := ← fields.required "actions" (Value.listOf? Action.ofValue?) }

def toValue (s : TestStep) : Value :=
  .object [("probe", s.probe.toValue), ("actions", .ofList Action.toValue s.actions)]

end TestStep

namespace TestCase

def ofValue? (v : Value) : Option TestCase := do
  let fields ← v.record? ["description", "tags", "steps"]
  return .make (← fields.required "description" Value.text?)
    (← fields.required "tags" (Value.listOf? Value.text?))
    (← fields.required "steps" (Value.listOf? TestStep.ofValue?))

def toValue (c : TestCase) : Value :=
  .object [("description", .string c.description), ("tags", .texts c.tags),
    ("steps", .ofList TestStep.toValue c.steps)]

end TestCase
end PodTraffic
