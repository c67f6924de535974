import PodTraffic.Cluster.Memory
import PodTraffic.CommandLine.Arguments
import PodTraffic.Config.Layers
import PodTraffic.Corpus
import PodTraffic.Document.Json
import PodTraffic.Document.Summary
import PodTraffic.Document.Verdict
import PodTraffic.Files
import PodTraffic.Trial

/-!
# Commands

Explaining policies, probing a cluster under given policies, and running the corpus of test cases
against a cluster. A command prints, may write a report, and ends well or with the fault that
stopped it; what was printed before stays.
-/
namespace PodTraffic.CommandLine

inductive CommandFault where
  | configUnloadable
  | configInvalid
  | noPolicies
  | policiesUnloadable (path : String)
  | policiesUncompilable
  /-- There is no access to clusters other than in memory. -/
  | noCluster
  | missingOption (mode option : String)
  | unreadable (path : String)
  | unparsable (path : String)
  | resources (e : PolicyError)
  | noPolicyPath
  | undeployed
  | probeFailed (message : String)
  | different
  | noPodAddress
  | unwritable (path : String)
  | stopped
  deriving DecidableEq, Repr

def CommandFault.message : CommandFault → String
  | configUnloadable => "Failed to load configuration"
  | configInvalid => "Invalid configuration"
  | noPolicies => "Either --policy-path or --use-cluster is required"
  | policiesUnloadable path => "Failed to load policies from " ++ Text.quoted path
  | policiesUncompilable => "Failed to compile policies"
  | noCluster => "Failed to connect to the Kubernetes cluster"
  | missingOption mode option => "--mode " ++ mode ++ " requires " ++ option
  | unreadable path => "Failed to read " ++ Text.quoted path
  | unparsable path => "Failed to parse " ++ Text.quoted path
  | resources e => e.message
  | noPolicyPath => "--policy-source file requires --policy-path"
  | undeployed => "Failed to deploy probe resources"
  | probeFailed message => "Probe failed: " ++ message
  | different => "Cluster connectivity differs from the simulation"
  | noPodAddress => "No deployed pod has an IP to use for IPBlock cases"
  | unwritable path => "Failed to write JUnit results to " ++ Text.quoted path
  | stopped => "Stopped after a failing test case"

/-- Where a command runs. -/
structure Surroundings where
  files : FileTree := {}
  places : ConfigPlaces := {}
  /-- The binary places of the random numbers, by call and by place in its script. -/
  draws : Nat → Nat → Nat := fun _ _ => 0

structure Output where
  printed : String := ""
  /-- Files to write, by path. -/
  written : List (String × String) := []

abbrev Run := ExceptT CommandFault (StateM Output)

def print (text : String) : Run Unit := modify fun o => { o with printed := o.printed ++ text }

def orFault (fault : CommandFault) (r : Except ε α) : Run α :=
  match r with
  | .ok x => return x
  | .error _ => throw fault

def validated (c : Config) : Run Unit := orFault .configInvalid c.validate

def readPolicies (t : FileTree) (path : String) : Run (List NetworkPolicy) :=
  orFault (.policiesUnloadable path) (PolicyFile.load t path)

def readJson (t : FileTree) (read : Value → Option α) (path : String) : Run α :=
  match t.read? path with
  | none => throw (.unreadable path)
  | some text =>
    match Json.raw? text >>= read with
    | some x => return x
    | none => throw (.unparsable path)

structure TargetPod where
  ns : String
  labels : Labels

def TargetPod.ofValue? (v : Value) : Option TargetPod := do
  let fields ← v.record? ["namespace", "labels"]
  return {
    ns := ← fields.required "namespace" Value.text?
    labels := ← fields.withDefault "labels" .empty Value.textMap? }

def describeTargets (p : Policy) (pod : TargetPod) : List String :=
  let direction (d : Direction) : List String :=
    match p.targetsFor d pod.ns pod.labels with
    | [] => [d.title ++ ": no targets"]
    | targets => (d.title ++ ":") :: targets.flatMap p.explainTarget
  ["Pod in " ++ pod.ns ++ " with labels " ++ Text.quotedPairs pod.labels.entries ++ ":"] ++
    direction .ingress ++ direction .egress ++ [""]

def describeTraffic (p : Policy) (t : Traffic) : List String :=
  [t.text, (p.verdict t).explain p, ""]

def trafficValue (p : Policy) (t : Traffic) : Value :=
  let v := p.verdict t
  .object [("traffic", t.toValue), ("ingress", .bool v.ingress.isAllowed),
    ("egress", .bool v.egress.isAllowed), ("allowed", .bool v.isAllowed)]

def describeProbe (p : Policy) (r : Resources) : String :=
  let t := simulateProbe p r .allAvailable
  "Ingress:\n" ++ ProbeTable.renderIngress t ++ "\nEgress:\n" ++ ProbeTable.renderEgress t ++
    "\nCombined:\n" ++ ProbeTable.renderCombined t

def needed (mode option : String) : Option String → Run String
  | some path => return path
  | none => throw (.missingOption mode option)

def analyzeIn (t : FileTree) (config : Config) (args : AnalyzeArgs) (p : Policy) :
    AnalyzeMode → Run Unit
  | .explain => print p.explain
  | .queryTarget => do
    let path ← needed "query-target" "--target-pod-path" args.targetPodPath
    let pods ← readJson t (Value.listOf? TargetPod.ofValue?) path
    print (Text.unlines (pods.flatMap (describeTargets p)))
  | .queryTraffic => do
    let path ← needed "query-traffic" "--traffic-path" args.trafficPath
    let traffic ← readJson t (Value.listOf? Traffic.ofValue?) path
    if args.json then print (Json.pretty 0 (.ofList (trafficValue p) traffic) ++ "\n")
    else print (Text.unlines (traffic.flatMap (describeTraffic p)))
  | .probe => do
    let r ← match args.probePath with
      | some path => readJson t Resources.ofValue? path
      | none =>
        match config.cluster.resources with
        | .ok r => pure r
        | .error e => throw (.resources e)
    print (describeProbe p r)

def analyze (t : FileTree) (config : Config) (args : AnalyzeArgs) : Run Unit := do
  if args.policyPath.isNone && !args.useCluster then throw .noPolicies
  let policies ← match args.policyPath with
    | some path => readPolicies t path
    | none => pure []
  if args.useCluster then throw .noCluster
  let p ← orFault .policiesUncompilable (Policy.build args.simplify policies)
  args.modes.forM (analyzeIn t config args p)

def given (value configured : List α) : List α := if value.isEmpty then configured else value

def ClusterArgs.apply (args : ClusterArgs) (c : ClusterConfig) : ClusterConfig :=
  { c with
    namespaces := given args.namespaces c.namespaces
    pods := given args.pods c.pods
    ports := given args.ports c.ports
    protocols := given args.protocols c.protocols
    externalIps := given args.externalIps c.externalIps }

def ClusterChoice.mode (draws : Nat → Nat → Nat) : ClusterChoice → Run ExecMode
  | .live => throw .noCluster
  | .enforcing => return .enforce
  | .passing rate => return .passing rate draws

/-- An empty cluster in memory with the configured resources. -/
def deployed (s : Surroundings) (choice : ClusterChoice) (config : Config) :
    Run (Client Cluster × Session Cluster) := do
  let client := Cluster.client (← choice.mode s.draws)
  return (client, ← orFault .undeployed (Trial.deploy client config.cluster {}))

def ProbeArgs.apply (args : ProbeArgs) (c : Config) : Config :=
  { c with
    cluster := args.cluster.apply c.cluster
    trial := { c.trial with
      resetBefore := args.source = .file
      verifyBefore := !args.skipVerify } }

/-- The policies of a file are created; those of a cluster are read. -/
def probeActions (t : FileTree) (args : ProbeArgs) (namespaces : List String) :
    Run (List Action) := do
  match args.source, args.policyPath with
  | .file, some path => return (← readPolicies t path).map .createPolicy
  | .file, none => throw .noPolicyPath
  | .cluster, _ => return [.readPolicies namespaces]

def probe (s : Surroundings) (config : Config) (verbose : Bool) (args : ProbeArgs) :
    Run Unit := do
  let config := args.apply config
  validated config
  let actions ← probeActions s.files args config.cluster.namespaces
  let (client, session) ← deployed s args.choice config
  let case := TestCase.make "probe" [] [{ probe := args.ports, actions }]
  let (result, _) := Trial.run client config case session
  print (result.report verbose)
  match result.error with
  | some message => throw (.probeFailed message)
  | none => if !result.passed then throw .different

def GenerateArgs.apply (args : GenerateArgs) (c : Config) : Config where
  common := c.common
  cluster := args.cluster.apply c.cluster
  trial := { c.trial with
    retries := args.retries.getD c.trial.retries
    wait := args.wait.getD c.trial.wait
    jobTimeout := args.jobTimeout.getD c.trial.jobTimeout
    failFast := c.trial.failFast || args.failFast
    ignoreLoopback := c.trial.ignoreLoopback || args.ignoreLoopback
    batched := c.trial.batched || args.batched }
  corpus := { c.corpus with
    included := given args.included c.corpus.included
    excluded := given args.excluded c.corpus.excluded
    allowDns := c.corpus.allowDns && !args.noDns }

def corpusOptions (c : Config) (podIp : Address) : CorpusOptions where
  allowDns := c.corpus.allowDns
  dnsPort := c.corpus.dnsPort
  podIp := podIp
  namespaces := c.cluster.namespaces
  pods := c.cluster.pods
  ports := c.cluster.portNumbers
  protocols := c.cluster.knownProtocols

def corpusCases (c : Config) (podIp : Address) : List TestCase :=
  TestCase.pick c.corpus.included c.corpus.excluded (corpusOptions c podIp).cases

def configuredIp? (c : Config) : Option Address := c.corpus.podIp >>= Address.parse?

def describeCase (position : Nat) (c : TestCase) : List String :=
  let names := c.policies.map (·.fullName)
  [Text.padded ' ' 4 (position + 1) ++ ". " ++ c.description ++
    " [" ++ ", ".intercalate c.tags ++ "]"] ++
  c.steps.flatMap (fun s =>
    ("      probe " ++ s.probe.text) :: s.actions.map ("        " ++ ·.text)) ++
  if names.isEmpty then [] else ["      policies: " ++ ", ".intercalate names]

def writeJunit (t : FileTree) (results : List TrialResult) (path : String) : Run Unit := do
  if !t.canWrite path then throw (.unwritable path)
  modify fun o => { o with written := o.written ++ [(path, Junit.render results)] }

def dryRun (config : Config) : Run Unit := do
  let podIp := (configuredIp? config).getD ({} : CorpusOptions).podIp
  print (Text.unlines ((corpusCases config podIp).zipIdx.flatMap fun (c, i) => describeCase i c))

def generate (s : Surroundings) (config : Config) (verbose : Bool) (args : GenerateArgs) :
    Run Unit := do
  let config := args.apply config
  validated config
  if args.dryRun then dryRun config
  else
    let (client, session) ← deployed s args.choice config
    let some podIp := configuredIp? config <|> (session.deployed.pods.head? >>= (·.address?))
      | throw .noPodAddress
    let (results, _) := Trial.runAll client config (corpusCases config podIp) session
    print (String.join (results.map (·.report verbose)))
    let summary := Summary.ofResults results
    print summary.report
    args.junitPath.forM (writeJunit s.files results)
    if summary.passed < summary.total && config.trial.failFast then throw .stopped

def runInvocation (s : Surroundings) (i : Invocation) : Run Unit := do
  let config ← orFault .configUnloadable (Config.load s.files s.places i.configPath)
  let verbose := i.verbose || config.common.verbose
  match i.command with
  | .analyze args => analyze s.files config args
  | .probe args => probe s config verbose args
  | .generate args => generate s config verbose args

inductive Ending where
  | done
  | failed (fault : CommandFault)
  /-- The arguments do not fit. -/
  | misused
  deriving DecidableEq, Repr

/-- The exit code. -/
def Ending.code : Ending → Nat
  | done => 0
  | failed _ => 1
  | misused => 2

def programName : String := "netpol"

def versionText : String := programName ++ " 0.1.0\n"

def run (s : Surroundings) (args : List String) : Ending × Output :=
  match Request.ofArgs? args with
  | none => (.misused, {})
  | some .version => (.done, { printed := versionText })
  | some (.run i) =>
    match (runInvocation s i).run {} with
    | (.ok _, output) => (.done, output)
    | (.error fault, output) => (.failed fault, output)

end PodTraffic.CommandLine
