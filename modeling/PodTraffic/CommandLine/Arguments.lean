import PodTraffic.Collections
import PodTraffic.Decimal
import PodTraffic.Text
import PodTraffic.Traffic

/-!
# Command-line arguments

What is asked for: the version, or one of three commands with its options, a configuration file and
more detail. Arguments that do not fit ask for nothing. Options have long names after two dashes and
maybe a letter after one. A value follows an equals sign or is the next argument, which then does
not begin with a dash, unless it is a dash alone. Letters may be put together; what follows the
letter of an option with a value is the value.
-/
namespace PodTraffic.CommandLine

inductive Arity where
  /-- No value, at most once. -/
  | flag
  /-- A value, at most once. -/
  | single
  /-- A value each time. -/
  | repeated
  /-- No value; nothing after it is read. -/
  | final
  deriving DecidableEq, Repr

structure OptionKind where
  name : String
  arity : Arity
  letter : Option Char := none
  deriving DecidableEq, Repr

/-- The options found, with their values in order; a flag has an empty value. -/
abbrev Found := Listing (List String)

/-- One more occurrence. -/
def Found.add (found : Found) (kind : OptionKind) (value : String) : Option Found :=
  match found.lookup kind.name with
  | none => some (found.put kind.name [value])
  | some values =>
    if kind.arity = .repeated then some (found.put kind.name (values ++ [value])) else none

def isOption (arg : String) : Bool := arg.toList.head? == some '-' && arg != "-"

/-- A value from the arguments that follow. -/
def nextValue? : List String → Option (String × List String)
  | [] => none
  | arg :: args => if isOption arg then none else some (arg, args)

/-- The letters after one dash. -/
def readLetters (kinds : List OptionKind) (found : Found) (args : List String) :
    List Char → Option (Found × List String)
  | [] => some (found, args)
  | c :: cs => do
    let kind ← kinds.find? (·.letter == some c)
    if kind.arity = .final then return (← found.add kind "", [])
    else if kind.arity = .flag then readLetters kinds (← found.add kind "") args cs
    else
      match cs with
      | [] => do
        let (value, args) ← nextValue? args
        return (← found.add kind value, args)
      | '=' :: value | value => return (← found.add kind (String.ofList value), args)

/-- A long name, with its value after an equals sign if there is one. -/
def readLong (kinds : List OptionKind) (found : Found) (args : List String) (body : List Char) :
    Option (Found × List String) := do
  let (name, attached) := match Text.cutAt? ['='] body with
    | some (name, value) => (name, some (String.ofList value))
    | none => (body, none)
  let kind ← kinds.find? (·.name == String.ofList name)
  match kind.arity, attached with
  | .final, none => return (← found.add kind "", [])
  | .flag, none => return (← found.add kind "", args)
  | .final, some _ | .flag, some _ => none
  | _, some value => return (← found.add kind value, args)
  | _, none =>
    let (value, args) ← nextValue? args
    return (← found.add kind value, args)

/-- Options up to the first argument that is none; nothing on a fault. -/
def readOptions (kinds : List OptionKind) : (fuel : Nat) → Found → List String →
    Option (Found × List String)
  | 0, found, args => some (found, args)
  | _ + 1, found, [] => some (found, [])
  | fuel + 1, found, arg :: args => do
    match arg.toList with
    | ['-', '-'] | ['-'] => return (found, arg :: args)
    | '-' :: '-' :: body =>
      let (found, args) ← readLong kinds found args body
      readOptions kinds fuel found args
    | '-' :: letters =>
      let (found, args) ← readLetters kinds found args letters
      readOptions kinds fuel found args
    | _ => return (found, arg :: args)

namespace Found

def isSet (found : Found) (name : String) : Bool := found.contains name

def values (found : Found) (name : String) : List String := (found.lookup name).getD []

/-- The value read; fails if there is one that is unfit. -/
def single? (found : Found) (name : String) (read : String → Option α) : Option (Option α) :=
  (found.values name).head?.mapM read

def all? (found : Found) (name : String) (read : String → Option α) : Option (List α) :=
  (found.values name).mapM read

end Found

inductive AnalyzeMode where
  | explain
  | queryTarget
  | queryTraffic
  | probe
  deriving DecidableEq, Repr

structure AnalyzeArgs where
  policyPath : Option String := none
  useCluster : Bool := false
  modes : List AnalyzeMode := [.explain]
  simplify : Bool := false
  targetPodPath : Option String := none
  trafficPath : Option String := none
  probePath : Option String := none
  json : Bool := false
  deriving Repr

/-- Lists that replace those of the configuration, unless empty. -/
structure ClusterArgs where
  namespaces : List String := []
  pods : List String := []
  ports : List Nat := []
  protocols : List String := []
  externalIps : List String := []
  deriving Repr

/-- Which cluster to use. -/
inductive ClusterChoice where
  | live
  | enforcing
  /-- In memory; checks succeed at a rate. -/
  | passing (rate : Decimal.Double)
  deriving DecidableEq, Repr

inductive PolicySource where
  | file
  | cluster
  deriving DecidableEq, Repr

structure ProbeArgs where
  choice : ClusterChoice := .live
  cluster : ClusterArgs := {}
  source : PolicySource := .file
  policyPath : Option String := none
  ports : ProbeConfig := .allAvailable
  skipVerify : Bool := false
  deriving Repr

structure GenerateArgs where
  choice : ClusterChoice := .live
  cluster : ClusterArgs := {}
  included : List String := []
  excluded : List String := []
  retries : Option Nat := none
  failFast : Bool := false
  wait : Option Nat := none
  jobTimeout : Option Nat := none
  ignoreLoopback : Bool := false
  batched : Bool := false
  noDns : Bool := false
  junitPath : Option String := none
  dryRun : Bool := false
  deriving Repr

inductive Command where
  | analyze (args : AnalyzeArgs)
  | probe (args : ProbeArgs)
  | generate (args : GenerateArgs)
  deriving Repr

structure Invocation where
  verbose : Bool
  configPath : Option String
  command : Command
  deriving Repr

def path? (s : String) : Option String := if s.isEmpty then none else some s

/-- A number of 32 bits. -/
def count? (s : String) : Option Nat := (Text.signed? 0 (UInt32.size - 1) s.toList).map Int.toNat

def seconds? (s : String) : Option Nat := Text.unsigned? (UInt64.size - 1) s.toList

def mode? : String → Option AnalyzeMode
  | "explain" => some .explain
  | "query-target" => some .queryTarget
  | "query-traffic" => some .queryTraffic
  | "probe" => some .probe
  | _ => none

def source? : String → Option PolicySource
  | "file" => some .file
  | "cluster" => some .cluster
  | _ => none

/-- A port and a protocol around the first slash. A port that is no number of 16 bits is a name. -/
def portProtocol? (s : String) : Option ProbeConfig := do
  let (port, protocol) ← Text.cutAt? ['/'] s.toList
  let protocol ← Protocol.read? (String.ofList protocol)
  match Text.unsigned? maxPort port with
  | some 0 => none
  | some n => return .port (.number n) protocol
  | none => if port.isEmpty then none else return .port (.name (String.ofList port)) protocol

/-- A rate. Infinity stands for one, which is above every number that is drawn, and what is below
all of them for zero. -/
def rate? (s : String) : Option Decimal.Double :=
  let (negative, body) := match s.toList with
    | '-' :: rest => (true, rest)
    | '+' :: rest => (false, rest)
    | cs => (false, cs)
  let word := String.ofList (body.map Char.toLower)
  let infinity : Decimal.Double := if negative then .zero else .one
  if word == "nan" then some .zero
  else if word == "inf" || word == "infinity" then some infinity
  else (Decimal.Numeral.read? body).map fun n => (n.nearest? negative).getD infinity

def flag (name : String) : OptionKind := ⟨name, .flag, none⟩

def single (name : String) : OptionKind := ⟨name, .single, none⟩

def repeated (name : String) : OptionKind := ⟨name, .repeated, none⟩

/-- Options of every command, which may stand before its name too. -/
def globalKinds : List OptionKind := [⟨"verbose", .flag, some 'v'⟩, ⟨"config", .single, some 'c'⟩]

def versionKind : OptionKind := ⟨"version", .final, some 'V'⟩

def analyzeKinds : List OptionKind :=
  [single "policy-path", flag "use-cluster", repeated "namespace", repeated "mode",
    flag "simplify", single "target-pod-path", single "traffic-path", single "probe-path",
    flag "json"]

def clusterKinds : List OptionKind :=
  [flag "mock", single "mock-pass-rate", repeated "namespace", repeated "pod", repeated "port",
    repeated "protocol", repeated "external-ip"]

def probeKinds : List OptionKind :=
  clusterKinds ++
    [single "policy-source", single "policy-path", single "server-port-protocol",
      flag "skip-verify"]

def generateKinds : List OptionKind :=
  clusterKinds ++
    [repeated "include", repeated "exclude", single "retries", flag "fail-fast",
      single "perturbation-wait-seconds", single "job-timeout-seconds", flag "ignore-loopback",
      flag "batch-jobs", flag "no-allow-dns", single "junit-results", flag "dry-run"]

def analyzeArgs? (f : Found) : Option AnalyzeArgs := do
  let modes ← f.all? "mode" mode?
  return {
    policyPath := ← f.single? "policy-path" path?
    useCluster := f.isSet "use-cluster"
    modes := if modes.isEmpty then [.explain] else modes
    simplify := f.isSet "simplify"
    targetPodPath := ← f.single? "target-pod-path" path?
    trafficPath := ← f.single? "traffic-path" path?
    probePath := ← f.single? "probe-path" path?
    json := f.isSet "json" }

def clusterArgs? (f : Found) : Option ClusterArgs := do
  return {
    namespaces := f.values "namespace"
    pods := f.values "pod"
    ports := ← f.all? "port" count?
    protocols := f.values "protocol"
    externalIps := f.values "external-ip" }

/-- A rate asks for a cluster in memory. -/
def clusterChoice? (f : Found) : Option ClusterChoice := do
  match f.isSet "mock", ← f.single? "mock-pass-rate" rate? with
  | true, some rate => return .passing rate
  | true, none => return .enforcing
  | false, none => return .live
  | false, some _ => none

def probeArgs? (f : Found) : Option ProbeArgs := do
  return {
    choice := ← clusterChoice? f
    cluster := ← clusterArgs? f
    source := (← f.single? "policy-source" source?).getD .file
    policyPath := ← f.single? "policy-path" path?
    ports := (← f.single? "server-port-protocol" portProtocol?).getD .allAvailable
    skipVerify := f.isSet "skip-verify" }

def generateArgs? (f : Found) : Option GenerateArgs := do
  return {
    choice := ← clusterChoice? f
    cluster := ← clusterArgs? f
    included := f.values "include"
    excluded := f.values "exclude"
    retries := ← f.single? "retries" count?
    failFast := f.isSet "fail-fast"
    wait := ← f.single? "perturbation-wait-seconds" seconds?
    jobTimeout := ← f.single? "job-timeout-seconds" seconds?
    ignoreLoopback := f.isSet "ignore-loopback"
    batched := f.isSet "batch-jobs"
    noDns := f.isSet "no-allow-dns"
    junitPath := ← f.single? "junit-results" path?
    dryRun := f.isSet "dry-run" }

def command? : String → Option (List OptionKind × (Found → Option Command))
  | "analyze" => some (analyzeKinds, fun f => (analyzeArgs? f).map .analyze)
  | "probe" => some (probeKinds, fun f => (probeArgs? f).map .probe)
  | "generate" => some (generateKinds, fun f => (generateArgs? f).map .generate)
  | _ => none

inductive Request where
  | version
  | run (invocation : Invocation)
  deriving Repr

def Request.ofArgs? (args : List String) : Option Request := do
  let (before, args) ← readOptions (versionKind :: globalKinds) args.length [] args
  let outer ← before.single? "config" path?
  if before.isSet "version" then return .version
  match args with
  | [] => none
  | name :: args =>
    let (kinds, read) ← command? name
    let (found, rest) ← readOptions (globalKinds ++ kinds) args.length [] args
    if !(rest.isEmpty || rest == ["--"]) then none
    let inner ← found.single? "config" path?
    return .run {
      verbose := before.isSet "verbose" || found.isSet "verbose"
      configPath := inner <|> outer
      command := ← read found }

end PodTraffic.CommandLine
