import PodTraffic.Config
import PodTraffic.Policy
import PodTraffic.Probe
import PodTraffic.Runner
import PodTraffic.TestCase
import PodTraffic.Trial.State

/-!
# Trials

Before each trial the cluster is brought back to what was deployed and checked against it. The
steps of a trial act on the model and the cluster alike; then a simulated probe of the model is
compared with probes of the cluster, until one agrees or the retries are used up, and the last one
counts. An error ends the trial, not the run.
-/
namespace PodTraffic

structure Attempt where
  probe : ProbeTable
  comparison : Comparison

structure StepResult where
  /-- In force while probing. -/
  policies : List NetworkPolicy
  simulated : ProbeTable
  attempts : List Attempt

namespace StepResult

def last? (s : StepResult) : Option Attempt := s.attempts.getLast?

def counts (s : StepResult) : AgreementCounts :=
  (s.last?.map (·.comparison.counts)).getD {}

/-- The last probe agrees with the simulation. -/
def passed (s : StepResult) : Bool := s.last?.any (·.comparison.isSame)

end StepResult

structure TrialResult where
  case : TestCase
  /-- The steps that were run to their end. -/
  steps : List StepResult := []
  /-- Why the trial ended before its last step. -/
  error : Option String := none
  elapsedMs : Nat := 0

def TrialResult.passed (r : TrialResult) : Bool := r.error.isNone && r.steps.all (·.passed)

namespace Trial

variable {σ : Type}

/-- Deploy the configured resources. -/
def deploy (client : Client σ) (config : ClusterConfig) (cluster : σ) :
    Except ClusterError (Session σ) := do
  let resources ← config.resources.mapError .policy
  match (resources.deploy client config.image).run cluster with
  | (.ok deployed, cluster) => return { cluster, deployed }
  | (.error e, _) => throw e

/-- Delete a namespace that a trial created; it stays noted if that fails. -/
def dropCreated (client : Client σ) (ns : String) : TrialM σ Unit := do
  call (Resources.ignoreNotFound (client.deleteNamespace ns))
  modify fun s => { s with created := s.created.filter (· != ns) }

/-- No namespaces but the deployed ones, pods and labels as deployed, and no policies. -/
def reset (client : Client σ) (config : ClusterConfig) : TrialM σ Unit := do
  (← get).created.forM (dropCreated client)
  let deployed := (← get).deployed
  let current ← call (deployed.reconcile client config.image)
  modify fun s => { s with deployed := current }
  call (client.deleteAllPolicies deployed.namespaceNames)

/-- The resources that the trial starts from. -/
def prepare (client : Client σ) (config : Config) : TrialM σ Resources := do
  if config.trial.resetBefore then reset client config.cluster
  let deployed := (← get).deployed
  if config.trial.verifyBefore then call (deployed.verify client)
  return deployed

/-- Probe the cluster. Single checks may fail; the probe does not. -/
def attempt (client : Client σ) (config : TrialConfig) (r : Resources) (ports : ProbeConfig)
    (simulated : ProbeTable) : TrialM σ Attempt := do
  let probe ← call (ExceptT.lift (runProbe client config.batched r ports))
  return ⟨probe, .ofProbes config.ignoreLoopback simulated probe⟩

/-- Up to the first that agrees. -/
def attempts (client : Client σ) (config : TrialConfig) (r : Resources) (ports : ProbeConfig)
    (simulated : ProbeTable) : (retries : Nat) → TrialM σ (List Attempt)
  | 0 => return [← attempt client config r ports simulated]
  | retries + 1 => do
    let first ← attempt client config r ports simulated
    if first.comparison.isSame then return [first]
    else return first :: (← attempts client config r ports simulated retries)

def step (client : Client σ) (config : Config) (s : TrialState) (t : TestStep) :
    TrialM σ (TrialState × StepResult) := do
  let s ← t.actions.foldlM (TrialState.apply client config.cluster.image) s
  let policies := s.policies.values
  match Policy.compile policies with
  | .error e => fail (.cluster (.policy e))
  | .ok policy =>
    let simulated := simulateProbe policy s.resources t.probe
    let attempts ← attempts client config.trial s.resources t.probe simulated config.trial.retries
    return (s, { policies, simulated, attempts })

/-- The results of the steps up to the first error, and the error. -/
def steps (client : Client σ) (config : Config) (s : TrialState) :
    List TestStep → StateM (Session σ) (List StepResult × Option TrialError)
  | [] => return ([], none)
  | t :: ts => do
    match ← (step client config s t).run with
    | .error e => return ([], some e)
    | .ok (s, result) =>
      let (results, error) ← steps client config s ts
      return (result :: results, error)

def run (client : Client σ) (config : Config) (c : TestCase) : StateM (Session σ) TrialResult := do
  match ← (prepare client config).run with
  | .error e => return { case := c, error := some e.message }
  | .ok resources =>
    let (results, error) ← steps client config { resources } c.steps
    return { case := c, steps := results, error := error.map (·.message) }

/-- Every case in order, or up to the first that fails if so configured. -/
def runAll (client : Client σ) (config : Config) :
    List TestCase → StateM (Session σ) (List TrialResult)
  | [] => return []
  | c :: cs => do
    let result ← run client config c
    if config.trial.failFast && !result.passed then return [result]
    else return result :: (← runAll client config cs)

end Trial
end PodTraffic
