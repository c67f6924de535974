import PodTraffic.Document
import PodTraffic.Manifest
import PodTraffic.Timestamp

/-!
# Manifests in documents

Reading and writing manifests. In a manifest null stands for an absent part, and an absent part
that is required for its empty value; where a format is `lenient`, null also stands for an empty
object and an empty list. Of the metadata policies use name and namespace. The other standard fields
are checked for their shape and kept, times in universal time; fields that are not standard are
dropped.
-/
namespace PodTraffic

/-- How null is read where an object or a list must stand. -/
inductive NullReading where
  | strict
  | lenient
  deriving DecidableEq, Repr

namespace NullReading

/-- The empty value for null, if that is allowed here. -/
def orNull (nulls : NullReading) (empty : α) (read : Value → Option α) (v : Value) : Option α :=
  match v.untagged with
  | .null => if nulls = .lenient then some empty else none
  | v => read v

def object? (nulls : NullReading) : Value → Option Fields := nulls.orNull [] Value.fields?

def listOf? (nulls : NullReading) (read : Value → Option α) : Value → Option (List α) :=
  nulls.orNull [] (Value.listOf? read)

def textMap? (nulls : NullReading) : Value → Option (SortedMap String String) :=
  nulls.orNull .empty Value.textMap?

end NullReading

namespace Manifest

/-- Shapes of metadata fields. -/
inductive Shape where
  | text
  | long
  | flag
  | time
  | texts
  | textMap
  | anything
  | entries (fields : List (String × Shape)) (required : List String)

mutual

/-- A value of any shape, with tags on names only; what is no number is null. -/
def anything? : Value → Option Value
  | .list items => (anyItems? items).map .list
  | .object fields => (anyFields? fields).map .object
  | .mapping entries => (anyEntries? entries).map fun fields => .object (Listing.ofList fields)
  | .number (.infinite _) | .number .nan => some .null
  | .tagged _ _ | .unreadable => none
  | v => some v

def anyItems? : List Value → Option (List Value)
  | [] => some []
  | item :: items => do return (← anything? item) :: (← anyItems? items)

def anyFields? : List (String × Value) → Option Fields
  | [] => some []
  | (name, value) :: fields => do return (name, ← anything? value) :: (← anyFields? fields)

def anyEntries? : List (Value × Value) → Option Fields
  | [] => some []
  | (key, value) :: entries => do
    return (← key.text?, ← anything? value) :: (← anyEntries? entries)

end

mutual

/-- The value in its kept form. -/
def Shape.fits (nulls : NullReading) : Shape → Value → Option Value
  | .text, v => v.text?.map .string
  | .long, v => (v.int? Int64.minValue.toInt Int64.maxValue.toInt).map .int
  | .flag, v => v.bool?.map .bool
  | .time, v => (v.text? >>= Timestamp.parse?).map fun t => .string t.text
  | .texts, v => (nulls.listOf? Value.text? v).map .texts
  | .textMap, v => (nulls.textMap? v).map .ofTextMap
  | .anything, v => anything? v
  | .entries shapes required, v => do
    let items ← nulls.listOf? (fun item => do
      let given ← Shape.fitting nulls shapes (← nulls.object? item)
      let missing := required.filter fun name => !given.any (·.1 == name)
      return Value.object (given ++ missing.map fun name => (name, .string ""))) v
    return .list items

/-- The fields that have a shape, checked; null counts as absent. -/
def Shape.fitting (nulls : NullReading) : List (String × Shape) → Fields → Option Fields
  | [], _ => some []
  | (name, shape) :: shapes, fields => do
    let rest ← Shape.fitting nulls shapes fields
    match fields.lookup name with
    | none | some .null => some rest
    | some v => return (name, ← shape.fits nulls v) :: rest

end

def ownerShape : Shape :=
  .entries [("apiVersion", .text), ("blockOwnerDeletion", .flag), ("controller", .flag),
    ("kind", .text), ("name", .text), ("uid", .text)] ["apiVersion", "kind", "name", "uid"]

def managedShape : Shape :=
  .entries [("apiVersion", .text), ("fieldsType", .text), ("fieldsV1", .anything),
    ("manager", .text), ("operation", .text), ("subresource", .text), ("time", .time)] []

/-- Every standard field but name and namespace. -/
def metadataShapes : List (String × Shape) :=
  [("annotations", .textMap), ("creationTimestamp", .time), ("deletionGracePeriodSeconds", .long),
    ("deletionTimestamp", .time), ("finalizers", .texts), ("generateName", .text),
    ("generation", .long), ("labels", .textMap), ("managedFields", managedShape),
    ("ownerReferences", ownerShape), ("resourceVersion", .text), ("selfLink", .text),
    ("uid", .text)]

def metadata? (nulls : NullReading) (v : Value) : Option Metadata := do
  let fields ← nulls.object? v
  return {
    name := ← fields.nullable "name" Value.text?
    ns := ← fields.nullable "namespace" Value.text?
    others := ← Shape.fitting nulls metadataShapes fields }

def ofMetadata (m : Metadata) : Value :=
  .object (m.others ++ Value.given "name" Value.string m.name ++
    Value.given "namespace" Value.string m.ns)

/-- Absent and null are the empty value. -/
def orEmpty (fields : Fields) (name : String) (empty : α) (read : Value → Option α) : Option α :=
  (fields.nullable name read).map (·.getD empty)

/-- Not under a tag. -/
def intOrText? : Value → Option IntOrText
  | .string s => some (.text s)
  | .number n => (Value.int? (-2147483648) 2147483647 (.number n)).map .int
  | _ => none

def requirement? (nulls : NullReading) (v : Value) : Option Requirement := do
  let fields ← nulls.object? v
  return {
    key := ← orEmpty fields "key" "" Value.text?
    operator := ← orEmpty fields "operator" "" Value.text?
    values := ← fields.nullable "values" (nulls.listOf? Value.text?) }

def selector? (nulls : NullReading) (v : Value) : Option LabelSelector := do
  let fields ← nulls.object? v
  return {
    matchExpressions := ← fields.nullable "matchExpressions" (nulls.listOf? (requirement? nulls))
    matchLabels := ← fields.nullable "matchLabels" nulls.textMap? }

def portRule? (nulls : NullReading) (v : Value) : Option PortRule := do
  let fields ← nulls.object? v
  return {
    endPort := ← fields.nullable "endPort" (Value.int? (-2147483648) 2147483647)
    port := ← fields.nullable "port" intOrText?
    protocol := ← fields.nullable "protocol" Value.text? }

def blockRule? (nulls : NullReading) (v : Value) : Option BlockRule := do
  let fields ← nulls.object? v
  return {
    cidr := ← orEmpty fields "cidr" "" Value.text?
    except := ← fields.nullable "except" (nulls.listOf? Value.text?) }

def peerRule? (nulls : NullReading) (v : Value) : Option PeerRule := do
  let fields ← nulls.object? v
  return {
    ipBlock := ← fields.nullable "ipBlock" (blockRule? nulls)
    namespaceSelector := ← fields.nullable "namespaceSelector" (selector? nulls)
    podSelector := ← fields.nullable "podSelector" (selector? nulls) }

/-- The peers of a rule stand under a name of their own in each direction. -/
def rule? (nulls : NullReading) (peers : String) (v : Value) : Option Rule := do
  let fields ← nulls.object? v
  return {
    peers := ← fields.nullable peers (nulls.listOf? (peerRule? nulls))
    ports := ← fields.nullable "ports" (nulls.listOf? (portRule? nulls)) }

def spec? (nulls : NullReading) (v : Value) : Option PolicySpec := do
  let fields ← nulls.object? v
  return {
    egress := ← fields.nullable "egress" (nulls.listOf? (rule? nulls "to"))
    ingress := ← fields.nullable "ingress" (nulls.listOf? (rule? nulls "from"))
    podSelector := ← orEmpty fields "podSelector" {} (selector? nulls)
    policyTypes := ← fields.nullable "policyTypes" (nulls.listOf? Value.text?) }

/-- A field that is given must have this text. -/
def mustBe (fields : Fields) (name text : String) : Option Unit :=
  match fields.lookup name with
  | none => some ()
  | some v => if v.text? == some text then some () else none

def policy? (nulls : NullReading) (v : Value) : Option NetworkPolicy := do
  let fields ← nulls.object? v
  mustBe fields "apiVersion" "networking.k8s.io/v1"
  mustBe fields "kind" "NetworkPolicy"
  return {
    metadata := ← orEmpty fields "metadata" {} (metadata? nulls)
    spec := ← fields.nullable "spec" (spec? nulls) }

def ofIntOrText : IntOrText → Value
  | .int n => .int n
  | .text s => .string s

def ofRequirement (r : Requirement) : Value :=
  .object ([("key", .string r.key), ("operator", .string r.operator)] ++
    Value.given "values" Value.texts r.values)

def ofSelector (s : LabelSelector) : Value :=
  .object (Value.given "matchExpressions" (Value.ofList ofRequirement) s.matchExpressions ++
    Value.given "matchLabels" Value.ofTextMap s.matchLabels)

def ofPortRule (r : PortRule) : Value :=
  .object (Value.given "endPort" Value.int r.endPort ++ Value.given "port" ofIntOrText r.port ++
    Value.given "protocol" Value.string r.protocol)

def ofBlockRule (r : BlockRule) : Value :=
  .object (("cidr", .string r.cidr) :: Value.given "except" Value.texts r.except)

def ofPeerRule (r : PeerRule) : Value :=
  .object (Value.given "ipBlock" ofBlockRule r.ipBlock ++
    Value.given "namespaceSelector" ofSelector r.namespaceSelector ++
    Value.given "podSelector" ofSelector r.podSelector)

def ofRule (peers : String) (r : Rule) : Value :=
  .object (Value.given peers (Value.ofList ofPeerRule) r.peers ++
    Value.given "ports" (Value.ofList ofPortRule) r.ports)

def ofSpec (s : PolicySpec) : Value :=
  .object (Value.given "egress" (Value.ofList (ofRule "to")) s.egress ++
    Value.given "ingress" (Value.ofList (ofRule "from")) s.ingress ++
    [("podSelector", ofSelector s.podSelector)] ++
    Value.given "policyTypes" Value.texts s.policyTypes)

def ofPolicy (p : NetworkPolicy) : Value :=
  .object ([("apiVersion", .string "networking.k8s.io/v1"), ("kind", .string "NetworkPolicy"),
    ("metadata", ofMetadata p.metadata)] ++ Value.given "spec" ofSpec p.spec)

end Manifest
end PodTraffic
