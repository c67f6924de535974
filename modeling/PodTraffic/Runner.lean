import PodTraffic.Cluster.Client
import PodTraffic.Policy
import PodTraffic.Probe

/-!
# Running probes

Three ways to answer jobs: from a compiled policy, by one command for each job, and by one script
for each source container. Jobs that cannot be dispatched are answered without running. Jobs may be
sent through a queue to workers that run at the same time; their results come back through a second
queue in the order in which they are done. Both queues have room for every item, and each ends only
when it is empty and nobody is left who could send. Every order of steps is a run.
-/
namespace PodTraffic

inductive Worker (α : Type) where
  | idle
  | busy (item : α)
  | gone
  deriving DecidableEq, Repr

structure WorkerPool (α β : Type) where
  unsent : List α
  isOpen : Bool
  queue : List α
  workers : List (Worker α)
  /-- Every item that was handed to a worker, in order. -/
  taken : List α
  results : List β
  collected : List β
  isDone : Bool
  deriving Repr

namespace WorkerPool

variable {α β : Type}

/-- At least one worker, and no more than there are items. -/
def workerCount (workers items : Nat) : Nat := max 1 (min workers items)

/-- Without items there is nothing to wait for. -/
def start (items : List α) (workers : Nat) : WorkerPool α β where
  unsent := items
  isOpen := true
  queue := []
  workers := List.replicate (workerCount workers items.length) .idle
  taken := []
  results := []
  collected := []
  isDone := items.isEmpty

def inProgress (p : WorkerPool α β) : List α :=
  p.workers.filterMap fun
    | .busy x => some x
    | _ => none

/-- One step of a pool whose queues have room for `capacity` entries. All items are sent before the
first result is collected. -/
inductive Step (work : α → β) (capacity : Nat) : WorkerPool α β → WorkerPool α β → Prop where
  | send {p : WorkerPool α β} {x : α} {xs : List α} (live : p.isDone = false)
      (next : p.unsent = x :: xs) (room : p.queue.length < capacity) :
      Step work capacity p { p with unsent := xs, queue := p.queue ++ [x] }
  | close {p : WorkerPool α β} (live : p.isDone = false) (sent : p.unsent = [])
      (still : p.isOpen = true) :
      Step work capacity p { p with isOpen := false }
  | take {p : WorkerPool α β} {x : α} {xs : List α} {before after : List (Worker α)}
      (next : p.queue = x :: xs) (free : p.workers = before ++ .idle :: after) :
      Step work capacity p
        { p with queue := xs, workers := before ++ .busy x :: after, taken := p.taken ++ [x] }
  | finish {p : WorkerPool α β} {x : α} {before after : List (Worker α)}
      (works : p.workers = before ++ .busy x :: after) (room : p.results.length < capacity) :
      Step work capacity p
        { p with workers := before ++ .idle :: after, results := p.results ++ [work x] }
  | leave {p : WorkerPool α β} {before after : List (Worker α)} (ended : p.isOpen = false)
      (empty : p.queue = []) (free : p.workers = before ++ .idle :: after) :
      Step work capacity p { p with workers := before ++ .gone :: after }
  | collect {p : WorkerPool α β} {y : β} {ys : List β} (ended : p.isOpen = false)
      (next : p.results = y :: ys) :
      Step work capacity p { p with results := ys, collected := p.collected ++ [y] }
  | done {p : WorkerPool α β} (live : p.isDone = false) (ended : p.isOpen = false)
      (empty : p.results = []) (left : ∀ w ∈ p.workers, w = .gone) :
      Step work capacity p { p with isDone := true }

/-- What can be reached from the start. -/
inductive Reachable (work : α → β) (items : List α) (workers : Nat) : WorkerPool α β → Prop where
  | start : Reachable work items workers (start items workers)
  | step {p q : WorkerPool α β} (reached : Reachable work items workers p)
      (next : Step work items.length p q) : Reachable work items workers q

end WorkerPool

namespace Job

def simulate (policy : Policy) (j : Job) : JobResult :=
  let v := policy.verdict j.traffic
  ⟨j, .simulated v.ingress.isAllowed v.egress.isAllowed⟩

/-- A command that does not start is a failed check. -/
def exec {σ : Type} (client : Client σ) (j : Job) (command : List String) :
    StateM σ (Option ExecOutput) := do
  match ← (client.exec j.source.pod.ns j.source.pod.name j.source.container command).run with
  | .ok o => return some o
  | .error _ => return none

def run {σ : Type} (client : Client σ) (j : Job) : StateM σ JobResult := do
  let connectivity : Connectivity := match ← j.exec client j.command with
    | some o => .ofAllowed o.isSuccess
    | none => .checkFailed
  return ⟨j, .ofCluster connectivity⟩

/-- The container that a job runs in. -/
def sourceKey (j : Job) : List String := [j.source.pod.ns, j.source.pod.name, j.source.container]

def verdictOfCode : Option Int → Verdict
  | some 0 => .ofCluster .allowed
  | some _ => .ofCluster .blocked
  | none => .ofCluster .checkFailed

end Job

/-- The jobs of each source container, in key order. -/
def groupBySource (jobs : List Job) : List (List Job) :=
  (Ordered.distinct (jobs.map (·.sourceKey))).map fun key => jobs.filter (·.sourceKey == key)

def runBatch {σ : Type} (client : Client σ) (batch : List Job) : StateM σ (List JobResult) :=
  match batch with
  | [] => return []
  | first :: _ => do
    let script := Batch.script (batch.map (·.command))
    let codes := match ← first.exec client ["sh", "-c", script] with
      | some o => Batch.parseOutput o.stdout
      | none => []
    return batch.zipIdx.map fun (j, i) => ⟨j, Job.verdictOfCode (Batch.exitCode? codes i)⟩

/-- Jobs and whole scripts are run in order; the order in which they end does not matter to the
table. -/
def runJobs {σ : Type} (client : Client σ) (batched : Bool) (jobs : List Job) :
    StateM σ (List JobResult) := do
  if batched then return (← (groupBySource jobs).mapM (runBatch client)).flatten
  else jobs.mapM (·.run client)

/-- The table of all jobs, of which `results` answers the dispatched ones. -/
def assemble (r : Resources) (jobs : Jobs) (results : List JobResult) : ProbeTable :=
  .ofResults r (jobs.undispatched ++ results)

def simulateProbe (policy : Policy) (r : Resources) (config : ProbeConfig) : ProbeTable :=
  let jobs := r.jobs config
  assemble r jobs (jobs.valid.map (·.simulate policy))

def runProbe {σ : Type} (client : Client σ) (batched : Bool) (r : Resources)
    (config : ProbeConfig) : StateM σ ProbeTable := do
  let jobs := r.jobs config
  return assemble r jobs (← runJobs client batched jobs.valid)

end PodTraffic
