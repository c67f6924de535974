import PodTraffic.Cluster.Memory
import PodTraffic.Proofs.Command
import PodTraffic.Proofs.Ordered
import PodTraffic.Proofs.Stateful
import PodTraffic.Proofs.WorkerPool
import PodTraffic.Runner

/-!
# Scripts give every job its own exit code

A script holds the commands of its jobs in order, and what it prints is decoded by the index on each
line, wherever the line stands and whatever else is printed. Jobs are run by the script of their
source container; taken together, the scripts run every job once.
-/
namespace PodTraffic

section Groups

variable {jobs batch : List Job} {j : Job}

theorem mem_groupBySource : batch ∈ groupBySource jobs ↔
    ∃ j ∈ jobs, batch = jobs.filter (·.sourceKey == j.sourceKey) := by
  rw [groupBySource, List.mem_map]
  constructor
  · intro h
    obtain ⟨key, hkey, rfl⟩ := h
    obtain ⟨j, hj, rfl⟩ := List.mem_map.mp (Ordered.mem_distinct.mp hkey)
    exact ⟨j, hj, rfl⟩
  · intro h
    obtain ⟨j, hj, rfl⟩ := h
    exact ⟨j.sourceKey, Ordered.mem_distinct.mpr (List.mem_map_of_mem hj), rfl⟩

/-- Every job is in one of the batches. -/
theorem mem_flatten_groupBySource : j ∈ (groupBySource jobs).flatten ↔ j ∈ jobs := by
  simp only [List.mem_flatten, mem_groupBySource]
  constructor
  · intro h
    obtain ⟨batch, ⟨j', -, rfl⟩, hj⟩ := h
    exact List.mem_of_mem_filter hj
  · intro hj
    exact ⟨_, ⟨j, hj, rfl⟩, List.mem_filter.mpr ⟨hj, beq_self_eq_true _⟩⟩

end Groups

/-- What is picked by each of some keys is everything that has one of them. -/
theorem flatMap_filter_perm {α κ : Type} [BEq κ] [LawfulBEq κ] (f : α → κ) {keys : List κ}
    (hkeys : keys.Nodup) {l : List α} (hl : ∀ x ∈ l, f x ∈ keys) :
    (keys.flatMap fun key => l.filter (f · == key)).Perm l := by
  induction keys generalizing l with
  | nil =>
    have hnil : l = [] := List.eq_nil_iff_forall_not_mem.mpr fun x hx => nomatch hl x hx
    rw [hnil]
    exact .nil
  | cons key keys ih =>
    obtain ⟨hkey, hkeys⟩ := List.nodup_cons.mp hkeys
    let others := l.filter fun x => !(f x == key)
    have hothers : ∀ x ∈ others, f x ∈ keys := by
      intro x hx
      obtain ⟨hx, hne⟩ := List.mem_filter.mp hx
      exact (List.mem_cons.mp (hl x hx)).resolve_left (by simpa using hne)
    have hsame : (keys.flatMap fun k => l.filter (f · == k)) =
        keys.flatMap fun k => others.filter (f · == k) := by
      refine List.flatMap_congr fun k hk => ?_
      have hne : k ≠ key := ne_of_mem_of_not_mem hk hkey
      rw [List.filter_filter]
      refine List.filter_congr fun x _ => ?_
      cases hx : f x == k with
      | true => simp [eq_of_beq hx, hne]
      | false => simp
    rw [List.flatMap_cons, hsame]
    exact ((ih hkeys hothers).append_left _).trans (List.filter_append_perm _ l)

/-- A job and the exit code of its command. -/
structure JobRun where
  job : Job
  code : Nat

namespace JobRun

/-- The runs in the container of that key. -/
def ofSource (runs : List JobRun) (key : List String) : List JobRun :=
  runs.filter (·.job.sourceKey == key)

/-- What is to be reported of a run. -/
def result (run : JobRun) : JobResult := ⟨run.job, Job.verdictOfCode (some run.code)⟩

/-- What is to be reported of a batch. -/
def batchResults (runs : List JobRun) : List Job → List JobResult
  | [] => []
  | first :: _ => (ofSource runs first.sourceKey).map result

variable {runs : List JobRun} {run : JobRun} {batch : List Job} {key : List String}

theorem filter_sourceKey (runs : List JobRun) (key : List String) :
    (runs.map (·.job)).filter (·.sourceKey == key) = (ofSource runs key).map (·.job) :=
  List.filter_map

theorem mem_groupBySource : batch ∈ groupBySource (runs.map (·.job)) ↔
    ∃ run ∈ runs, batch = (ofSource runs run.job.sourceKey).map (·.job) := by
  simp [PodTraffic.mem_groupBySource, filter_sourceKey]

theorem exists_ofSource_eq_cons (h : run ∈ runs) :
    ∃ first rest, ofSource runs run.job.sourceKey = first :: rest ∧ first ∈ runs ∧
      first.job.sourceKey = run.job.sourceKey := by
  have hrun : run ∈ ofSource runs run.job.sourceKey :=
    List.mem_filter.mpr ⟨h, beq_self_eq_true _⟩
  obtain ⟨first, rest, hbatch⟩ := List.exists_cons_of_ne_nil (List.ne_nil_of_mem hrun)
  obtain ⟨hfirst, hkey⟩ := List.mem_filter.mp (hbatch ▸ List.mem_cons_self :
    first ∈ ofSource runs run.job.sourceKey)
  exact ⟨first, rest, hbatch, hfirst, eq_of_beq hkey⟩

theorem batchResults_ofSource (h : run ∈ runs) :
    batchResults runs ((ofSource runs run.job.sourceKey).map (·.job)) =
      (ofSource runs run.job.sourceKey).map result := by
  obtain ⟨first, rest, hbatch, -, hkey⟩ := exists_ofSource_eq_cons h
  rw [hbatch, List.map_cons, batchResults, hkey, hbatch]

/-- Taken together, the batches answer every run once. -/
theorem flatten_batchResults_perm (runs : List JobRun) :
    ((groupBySource (runs.map (·.job))).map (batchResults runs)).flatten.Perm
      (runs.map result) := by
  have hbatches : (groupBySource (runs.map (·.job))).map (batchResults runs) =
      (Ordered.distinct (runs.map (·.job.sourceKey))).map fun key =>
        (ofSource runs key).map result := by
    rw [groupBySource, List.map_map, List.map_map]
    refine List.map_congr_left fun key hkey => ?_
    obtain ⟨run, hrun, rfl⟩ := List.mem_map.mp (Ordered.mem_distinct.mp hkey)
    simp only [Function.comp_apply, filter_sourceKey]
    exact batchResults_ofSource hrun
  have hsources : ((Ordered.distinct (runs.map (·.job.sourceKey))).flatMap (ofSource runs)).Perm
      runs :=
    flatMap_filter_perm (fun run : JobRun => run.job.sourceKey) (Ordered.nodup_distinct _)
      fun run hrun => Ordered.mem_distinct.mpr (List.mem_map_of_mem hrun)
  rw [hbatches, ← List.flatMap_def, ← List.map_flatMap]
  exact hsources.map result

end JobRun

section Scripts

variable {σ : Type} {client : Client σ} {I : σ → Prop} {runs : List JobRun}

/-- In every state with `I`, the script of a container prints the exit codes of the runs there. -/
def Client.PrintsCodes (client : Client σ) (I : σ → Prop) (runs : List JobRun) : Prop :=
  ∀ run ∈ runs, ∀ s, I s →
    let batch := JobRun.ofSource runs run.job.sourceKey
    ∃ o s', (run.job.exec client ["sh", "-c", Batch.script (batch.map (·.job.command))]).run s =
        (some o, s') ∧
      Batch.Prints (batch.map (·.code)) o.stdout ∧ I s'

/-- Results that workers may bring back who run the batches, each in some state with `I`. -/
def Client.BatchesReturn (client : Client σ) (I : σ → Prop) (jobs : List Job)
    (results : List JobResult) : Prop :=
  ∃ (answer : List Job → List JobResult) (workers : Nat)
      (pool : WorkerPool (List Job) (List JobResult)),
    (∀ batch ∈ groupBySource jobs, ∃ s, I s ∧ answer batch = ((runBatch client batch).run s).1) ∧
      WorkerPool.Reachable answer (groupBySource jobs) workers pool ∧ pool.isDone = true ∧
        pool.collected.flatten = results

/-- The codes that a batch prints become the verdicts of its jobs. -/
theorem map_verdictOfCode {batch : List JobRun} {output : String}
    (hprints : Batch.Prints (batch.map (·.code)) output)
    (hlength : batch.length ≤ Batch.maxIndex + 1) (hcodes : ∀ run ∈ batch, run.code < 2 ^ 31) :
    ((batch.map (·.job)).zipIdx.map fun (j, i) =>
      (⟨j, Job.verdictOfCode (Batch.exitCode? (Batch.parseOutput output) i)⟩ : JobResult)) =
      batch.map JobRun.result := by
  have hcode : ∀ i, Batch.exitCode? (Batch.parseOutput output) i =
      (batch.map (·.code))[i]?.map Int.ofNat :=
    hprints.exitCode?_eq (by simpa using hlength) (by simpa using hcodes)
  calc ((batch.map (·.job)).zipIdx.map fun (j, i) =>
      (⟨j, Job.verdictOfCode (Batch.exitCode? (Batch.parseOutput output) i)⟩ : JobResult))
    _ = batch.zipIdx.map fun e => e.1.result := by
      rw [List.zipIdx_map, List.map_map]
      refine List.map_congr_left fun ⟨run, i⟩ hmem => ?_
      have hrun : batch[i]? = some run := List.mem_zipIdx_iff_getElem?.mp hmem
      have hexit : Batch.exitCode? (Batch.parseOutput output) i = some (Int.ofNat run.code) := by
        rw [hcode, List.getElem?_map, hrun]
        rfl
      change (⟨run.job, Job.verdictOfCode (Batch.exitCode? (Batch.parseOutput output) i)⟩ :
        JobResult) = run.result
      rw [hexit]
      rfl
    _ = (batch.zipIdx.map (·.1)).map JobRun.result := by
      rw [List.map_map]
      rfl
    _ = batch.map JobRun.result := by rw [List.zipIdx_map_fst]

theorem Client.PrintsCodes.run_batch (h : client.PrintsCodes I runs)
    (hlength : runs.length ≤ Batch.maxIndex + 1) (hcodes : ∀ run ∈ runs, run.code < 2 ^ 31) :
    ∀ batch ∈ groupBySource (runs.map (·.job)), ∀ s, I s →
      ∃ s', (runBatch client batch).run s = (JobRun.batchResults runs batch, s') ∧ I s' := by
  intro batch hbatch s hs
  obtain ⟨run, hrun, rfl⟩ := JobRun.mem_groupBySource.mp hbatch
  rw [JobRun.batchResults_ofSource hrun]
  obtain ⟨first, rest, hcons, hfirst, hkey⟩ := JobRun.exists_ofSource_eq_cons hrun
  obtain ⟨o, s', hexec, hprints, hs'⟩ := h first hfirst s hs
  rw [hkey] at hexec hprints
  have hverdicts := map_verdictOfCode hprints ((List.length_filter_le _ _).trans hlength)
    fun run hrun => hcodes run (List.mem_of_mem_filter hrun)
  refine ⟨s', ?_, hs'⟩
  rw [hcons] at hexec hverdicts ⊢
  rw [List.map_cons, runBatch, ← List.map_cons, List.map_map, Stateful.run_stateM_bind]
  change (first.job.exec client ["sh", "-c", Batch.script _]).run s = _ at hexec
  rw [Function.comp_def, hexec]
  exact Prod.ext hverdicts rfl

theorem Client.PrintsCodes.run_jobs (h : client.PrintsCodes I runs)
    (hlength : runs.length ≤ Batch.maxIndex + 1) (hcodes : ∀ run ∈ runs, run.code < 2 ^ 31) {s : σ}
    (hs : I s) :
    ((runJobs client true (runs.map (·.job))).run s).1.Perm (runs.map JobRun.result) := by
  obtain ⟨s', hrun, -⟩ := Stateful.run_mapM (h.run_batch hlength hcodes) hs
  have hresults : ((runJobs client true (runs.map (·.job))).run s).1 =
      (((groupBySource (runs.map (·.job))).mapM (runBatch client)).run s).1.flatten := rfl
  rw [hresults, hrun]
  exact JobRun.flatten_batchResults_perm runs

theorem Client.PrintsCodes.perm_of_batchesReturn (h : client.PrintsCodes I runs)
    (hlength : runs.length ≤ Batch.maxIndex + 1) (hcodes : ∀ run ∈ runs, run.code < 2 ^ 31)
    {results : List JobResult} (hreturn : client.BatchesReturn I (runs.map (·.job)) results) :
    results.Perm (runs.map JobRun.result) := by
  obtain ⟨answer, workers, pool, hanswer, hreached, hdone, rfl⟩ := hreturn
  have hcollected := hreached.collected_perm_of_eq hdone fun batch hbatch => by
    obtain ⟨s, hs, heq⟩ := hanswer batch hbatch
    obtain ⟨s', hrun, -⟩ := h.run_batch hlength hcodes batch hbatch s hs
    rw [heq, hrun]
  exact hcollected.flatten.trans (JobRun.flatten_batchResults_perm runs)

end Scripts

/-- Commands for hosts without blanks and quotes are read back from their script with their indices,
and what the script prints is decoded to the exit codes by index. Where every container prints what
its commands end with, every job gets the verdict of its own exit code, in whatever containers the
jobs run and in whatever order the scripts end. The jobs are no more than an index can count. -/
theorem JobRun.own_exit_codes {runs : List JobRun}
    (hhosts : ∀ run ∈ runs, Batch.IsPlain run.job.destination.host)
    (hcodes : ∀ run ∈ runs, run.code < 2 ^ 31) (hlength : runs.length ≤ UInt64.size) :
    Batch.parseScript (Batch.script (runs.map (·.job.command))) =
        runs.zipIdx.map (fun (run, i) => (i, run.job.command)) ∧
      (∀ output, Batch.Prints (runs.map (·.code)) output → ∀ i,
        Batch.exitCode? (Batch.parseOutput output) i = runs[i]?.map fun run => (run.code : Int)) ∧
      ∀ {σ : Type} (client : Client σ) (I : σ → Prop), client.PrintsCodes I runs →
        (∀ s, I s →
          ((runJobs client true (runs.map (·.job))).run s).1.Perm (runs.map JobRun.result)) ∧
        ∀ results, client.BatchesReturn I (runs.map (·.job)) results →
          results.Perm (runs.map JobRun.result) := by
  have hindex : runs.length ≤ Batch.maxIndex + 1 := hlength
  refine ⟨?_, fun output hprints i => ?_, fun client I hclient =>
    ⟨fun s hs => hclient.run_jobs hindex hcodes hs, fun results hreturn =>
      hclient.perm_of_batchesReturn hindex hcodes hreturn⟩⟩
  · have hplain : ∀ command ∈ runs.map (·.job.command), ∀ arg ∈ command, Batch.IsPlain arg := by
      intro command hcommand
      obtain ⟨run, hrun, rfl⟩ := List.mem_map.mp hcommand
      exact Batch.isPlain_command (hhosts run hrun)
    rw [Batch.parseScript_script hplain (by simpa using hindex), List.zipIdx_map, List.map_map]
    rfl
  · rw [hprints.exitCode?_eq (by simpa using hindex) (by simpa using hcodes), List.getElem?_map,
      Option.map_map]
    rfl

/-- Two containers that run two jobs each, given in turn. One of them prints its codes in the other
order and with other lines between them. -/
theorem JobRun.own_exit_codes_in_turn :
    let check (source host : String) (port : Nat) : Job := {
      source := ⟨{ ns := "x", name := source, labels := .empty, containers := [] }, .empty, "cont"⟩
      destination := .external host
      port := ⟨port, none, .tcp⟩
      key := probeKey (.number port) .tcp }
    let client : Client Cluster := { Cluster.client .enforce with
      exec := fun _ pod _ _ => return { stdout :=
        if pod = "a" then "netpol-result 1 0\nretry\r\nnetpol-result 0 1\nbye"
        else "netpol-result 0 0\nnetpol-result 1 1\n" } }
    let runs : List JobRun := [⟨check "a" "10.0.0.1" 80, 1⟩, ⟨check "b" "fd00::1" 80, 0⟩,
      ⟨check "a" "10.0.0.1" 81, 0⟩, ⟨check "b" "fd00::1" 81, 1⟩]
    groupBySource (runs.map (·.job)) = [[check "a" "10.0.0.1" 80, check "a" "10.0.0.1" 81],
        [check "b" "fd00::1" 80, check "b" "fd00::1" 81]] ∧
      Batch.parseScript (Batch.script (runs.map (·.job.command))) = [
        (0, (check "a" "10.0.0.1" 80).command), (1, (check "b" "fd00::1" 80).command),
        (2, (check "a" "10.0.0.1" 81).command), (3, (check "b" "fd00::1" 81).command)] ∧
      Batch.exitCode? (Batch.parseOutput
        "netpol-result 2 0\nnetpol-result 3 1\n\nnetpol-result 0 1\nnetpol-result 1 0") 2 = some 0 ∧
      ((runJobs client true (runs.map (·.job))).run {}).1.Perm [
        ⟨check "a" "10.0.0.1" 80, .ofCluster .blocked⟩,
        ⟨check "b" "fd00::1" 80, .ofCluster .allowed⟩,
        ⟨check "a" "10.0.0.1" 81, .ofCluster .allowed⟩,
        ⟨check "b" "fd00::1" 81, .ofCluster .blocked⟩] := by
  intro check client runs
  have hinOrder : Batch.Prints [0, 1] "netpol-result 0 0\nnetpol-result 1 1\n" :=
    ⟨["netpol-result 0 0", "netpol-result 1 1", ""], by decide, by decide, by decide⟩
  have hmixed : Batch.Prints [1, 0] "netpol-result 1 0\nretry\r\nnetpol-result 0 1\nbye" :=
    ⟨["netpol-result 1 0", "retry\r", "netpol-result 0 1", "bye"], by decide, by decide, by decide⟩
  have hall : Batch.Prints [1, 0, 0, 1]
      "netpol-result 2 0\nnetpol-result 3 1\n\nnetpol-result 0 1\nnetpol-result 1 0" :=
    ⟨["netpol-result 2 0", "netpol-result 3 1", "", "netpol-result 0 1", "netpol-result 1 0"],
      by decide, by decide, by decide⟩
  have hclient : client.PrintsCodes (fun _ => True) runs := by
    intro run hrun s _
    simp only [runs, List.mem_cons, List.not_mem_nil, or_false] at hrun
    rcases hrun with rfl | rfl | rfl | rfl
    · exact ⟨_, s, rfl, hmixed, trivial⟩
    · exact ⟨_, s, rfl, hinOrder, trivial⟩
    · exact ⟨_, s, rfl, hmixed, trivial⟩
    · exact ⟨_, s, rfl, hinOrder, trivial⟩
  obtain ⟨hscript, hcodes, hresults⟩ :=
    @JobRun.own_exit_codes runs (by decide) (by decide) (by decide)
  exact ⟨by decide, hscript, hcodes _ hall 2, (hresults client _ hclient).1 {} trivial⟩

end PodTraffic
