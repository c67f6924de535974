import PodTraffic.Proofs.Cluster.Exec
import PodTraffic.Proofs.Policy.Compile
import PodTraffic.Proofs.Probe
import PodTraffic.Proofs.WorkerPool

/-!
# Probes of a cluster confirm the simulation

A cluster that mirrors a model answers each job as its policies do, whether it runs the job alone or
within a script. As a job has its own place in the table, it does not matter in which order workers
get there.
-/
namespace PodTraffic

section Batches

variable {jobs batch : List Job}

theorem dispatchable_of_mem_groupBySource {r : Resources} (hr : r.Probeable)
    (hjobs : ∀ j ∈ jobs, j.Dispatchable r) (hlength : jobs.length ≤ Batch.maxIndex + 1)
    (hbatch : batch ∈ groupBySource jobs) : Batch.Dispatchable r batch := by
  obtain ⟨first, -, rfl⟩ := mem_groupBySource.mp hbatch
  refine ⟨fun j hj => hjobs j (List.mem_of_mem_filter hj), fun j hj j' hj' => ?_,
    (List.length_filter_le _ _).trans hlength⟩
  obtain ⟨hj, hkey⟩ := List.mem_filter.mp hj
  obtain ⟨hj', hkey'⟩ := List.mem_filter.mp hj'
  have hkeys : j.sourceKey = j'.sourceKey := (beq_iff_eq.mp hkey).trans (beq_iff_eq.mp hkey').symm
  simp only [Job.sourceKey, List.cons.injEq] at hkeys
  exact hr.eq_of_names (hjobs j hj).mem_pods (hjobs j' hj').mem_pods hkeys.1 hkeys.2.1

end Batches

/-- The results are the verdicts of the jobs, in any order. -/
def Judged (verdict : Job → Verdict) (jobs : List Job) (results : List JobResult) : Prop :=
  ∀ x, x ∈ results ↔ ∃ j ∈ jobs, ⟨j, verdict j⟩ = x

namespace Cluster

/-- Results that workers may bring back who run the work on a cluster, each at its own time: the
commands of the others change nothing but their number. -/
def WorkersReturn {α β : Type} (c : Cluster) (work : α → StateM Cluster β) (items : List α)
    (results : List β) : Prop :=
  ∃ (answer : α → β) (workers : Nat) (pool : WorkerPool α β),
    (∀ x ∈ items, ∃ n, answer x = ((work x).run (c.afterCommands n)).1) ∧
      WorkerPool.Reachable answer items workers pool ∧ pool.isDone = true ∧
        pool.collected = results

/-- Results of the jobs, brought back one by one or script by script. -/
inductive JobsReturn (c : Cluster) (jobs : List Job) : Bool → List JobResult → Prop where
  | single {results : List JobResult}
      (h : c.WorkersReturn (·.run (client .enforce)) jobs results) :
      JobsReturn c jobs false results
  | batched {results : List (List JobResult)}
      (h : c.WorkersReturn (runBatch (client .enforce)) (groupBySource jobs) results) :
      JobsReturn c jobs true results.flatten

theorem WorkersReturn.perm {α β : Type} {c : Cluster} {work : α → StateM Cluster β}
    {items : List α} {results : List β} {f : α → β} (h : c.WorkersReturn work items results)
    (hwork : ∀ x ∈ items, ∀ n, ((work x).run (c.afterCommands n)).1 = f x) :
    results.Perm (items.map f) := by
  obtain ⟨answer, workers, pool, hanswer, hreached, hdone, rfl⟩ := h
  refine hreached.collected_perm_of_eq hdone fun x hx => ?_
  obtain ⟨n, hn⟩ := hanswer x hx
  rw [hn, hwork x hx n]

/-- Work that is done in order, on a cluster that keeps serving the model. -/
theorem run_mapM {α β : Type} {work : α → StateM Cluster β} {f : α → β} {items : List α}
    {c : Cluster} (hwork : ∀ x ∈ items, ∀ n, ∃ m,
      (work x).run (c.afterCommands n) = (f x, c.afterCommands m)) (n : Nat) :
    ∃ m, (items.mapM work).run (c.afterCommands n) = (items.map f, c.afterCommands m) := by
  obtain ⟨c', hrun, m, rfl⟩ := Stateful.run_mapM (I := fun c' => ∃ m, c' = c.afterCommands m)
    (fun x hx c' hc' => by
      obtain ⟨n, rfl⟩ := hc'
      obtain ⟨m, hm⟩ := hwork x hx n
      exact ⟨_, hm, m, rfl⟩) ⟨n, rfl⟩
  exact ⟨m, hrun⟩

variable {c : Cluster} {r : Resources} {policy : Policy} {jobs : List Job}
  {results : List JobResult} {batched : Bool}

theorem answered_flatten : Judged policy.enforced jobs
    ((groupBySource jobs).map fun batch => batch.map policy.answer).flatten := by
  intro x
  rw [← List.map_flatten, List.mem_map]
  simp only [mem_flatten_groupBySource]
  rfl

theorem Serves.run_single (h : c.Serves r policy) (hr : r.Probeable)
    (hjobs : ∀ j ∈ jobs, j.Dispatchable r) : ∀ j ∈ jobs, ∀ n, ∃ m,
      (j.run (client .enforce)).run (c.afterCommands n) =
        (policy.answer j, c.afterCommands m) :=
  fun j hj n => ⟨n + 1, (h.afterCommands n).run_job hr (hjobs j hj)⟩

theorem Serves.run_batched (h : c.Serves r policy) (hr : r.Probeable)
    (hjobs : ∀ j ∈ jobs, j.Dispatchable r) (hlength : jobs.length ≤ Batch.maxIndex + 1) :
    ∀ batch ∈ groupBySource jobs, ∀ n, ∃ m,
      (runBatch (client .enforce) batch).run (c.afterCommands n) =
        (batch.map policy.answer, c.afterCommands m) := by
  intro batch hbatch n
  exact (h.afterCommands n).run_batch hr (dispatchable_of_mem_groupBySource hr hjobs hlength hbatch)

/-- Run in order, the jobs are answered as the policies decide. -/
theorem Serves.answered_runJobs (h : c.Serves r policy) (hr : r.Probeable)
    (hjobs : ∀ j ∈ jobs, j.Dispatchable r) (hlength : jobs.length ≤ Batch.maxIndex + 1)
    (batched : Bool) :
    Judged policy.enforced jobs ((runJobs (client .enforce) batched jobs).run c).1 := by
  cases batched with
  | false =>
    obtain ⟨m, hrun⟩ := run_mapM (h.run_single hr hjobs) c.commandsRun
    have hresults : (runJobs (client .enforce) false jobs).run c =
        (jobs.map policy.answer, c.afterCommands m) := hrun
    intro x
    rw [hresults]
    exact List.mem_map
  | true =>
    obtain ⟨m, hrun⟩ := run_mapM (h.run_batched hr hjobs hlength) c.commandsRun
    have hresults : ((runJobs (client .enforce) true jobs).run c).1 =
        (((groupBySource jobs).mapM (runBatch (client .enforce))).run
          (c.afterCommands c.commandsRun)).1.flatten := rfl
    rw [hresults, hrun]
    exact answered_flatten

/-- Run by workers, the jobs are answered as the policies decide. -/
theorem Serves.answered_of_jobsReturn (h : c.Serves r policy) (hr : r.Probeable)
    (hjobs : ∀ j ∈ jobs, j.Dispatchable r) (hlength : jobs.length ≤ Batch.maxIndex + 1)
    (hreturn : c.JobsReturn jobs batched results) : Judged policy.enforced jobs results := by
  cases hreturn with
  | single hworkers =>
    have hperm := hworkers.perm (f := policy.answer) fun j hj n => by
      obtain ⟨m, hm⟩ := h.run_single hr hjobs j hj n
      rw [hm]
    intro x
    rw [hperm.mem_iff]
    exact List.mem_map
  | batched hworkers =>
    have hperm := hworkers.perm (f := (·.map policy.answer)) fun batch hbatch n => by
      obtain ⟨m, hm⟩ := h.run_batched hr hjobs hlength batch hbatch n
      rw [hm]
    intro x
    rw [hperm.flatten.mem_iff]
    exact answered_flatten x

end Cluster

/-- The tables fill the same cells, which are those where the jobs report, with the same outcomes,
and every check of them was run. -/
structure ProbeTable.Confirms (jobs : Jobs) (t t' : ProbeTable) : Prop where
  filled : ∀ row column key, (∃ v, verdict? t row column key = some v) ↔
    ∃ res, ∃ j ∈ jobs.bucket res, j.fromKey = row ∧ j.toKey = column ∧ j.key = key
  cells : ∀ row column key, (verdict? t row column key).map (·.combined) =
    (verdict? t' row column key).map (·.combined)
  ran : ∀ row column key, (verdict? t row column key).map (·.combined) ≠ some .checkFailed

/-- The verdict of a job that is dispatched, or why it is not. -/
def PortResolution.outcome (v : Verdict) : PortResolution → Verdict
  | .valid => v
  | .badNamedPort => .invalid .invalidNamedPort
  | .badPortProtocol => .invalid .invalidPortProtocol

section Tables

variable {r : Resources} {config : ProbeConfig} {verdict verdict' : Job → Verdict}
  {results results' : List JobResult}

theorem Judged.mem_iff {jobs : Jobs} (h : Judged verdict jobs.valid results) {x : JobResult} :
    x ∈ jobs.undispatched ++ results ↔
      ∃ res, x.job ∈ jobs.bucket res ∧ x.verdict = res.outcome (verdict x.job) := by
  obtain ⟨j, v⟩ := x
  simp only [Jobs.undispatched, List.mem_append, List.mem_map, JobResult.mk.injEq, h _]
  constructor
  · intro h
    rcases h with (⟨j, hj, rfl, rfl⟩ | ⟨j, hj, rfl, rfl⟩) | ⟨j, hj, rfl, rfl⟩
    · exact ⟨.badNamedPort, hj, rfl⟩
    · exact ⟨.badPortProtocol, hj, rfl⟩
    · exact ⟨.valid, hj, rfl⟩
  · intro h
    obtain ⟨res, hj, rfl⟩ := h
    cases res with
    | valid => exact .inr ⟨j, hj, rfl, rfl⟩
    | badNamedPort => exact .inl (.inl ⟨j, hj, rfl, rfl⟩)
    | badPortProtocol => exact .inl (.inr ⟨j, hj, rfl, rfl⟩)

/-- No two jobs report at one place. -/
theorem Judged.consistent (hkeys : r.KeysTellApart)
    (h : Judged verdict (r.jobs config).valid results) :
    ProbeTable.Consistent ((r.jobs config).undispatched ++ results) := by
  intro x hx y hy hfrom hto hkey
  obtain ⟨res, hxjob, hxverdict⟩ := h.mem_iff.mp hx
  obtain ⟨res', hyjob, hyverdict⟩ := h.mem_iff.mp hy
  obtain ⟨round, hround, hplans⟩ := Resources.mem_jobs.mp hxjob
  obtain ⟨round', hround', hplans'⟩ := Resources.mem_jobs.mp hyjob
  obtain ⟨rfl, hjob⟩ := hplans.eq_of_place hkeys hround hround' hplans' hfrom hto hkey
  rw [hxverdict, hyverdict, hjob]

theorem Judged.covers {jobs : Jobs} (h : Judged verdict jobs.valid results)
    (h' : Judged verdict' jobs.valid results')
    (hcombined : ∀ j, (verdict j).combined = (verdict' j).combined) :
    ProbeTable.Covers (jobs.undispatched ++ results) (jobs.undispatched ++ results') := by
  intro x hx
  obtain ⟨res, hjob, hverdict⟩ := h.mem_iff.mp hx
  refine ⟨⟨x.job, res.outcome (verdict' x.job)⟩, h'.mem_iff.mpr ⟨res, hjob, rfl⟩, rfl, ?_⟩
  rw [hverdict]
  cases res with
  | valid => exact (hcombined x.job).symm
  | badNamedPort => rfl
  | badPortProtocol => rfl

/-- Tables of the same outcomes confirm each other. -/
theorem Judged.confirms (hkeys : r.KeysTellApart)
    (h : Judged verdict (r.jobs config).valid results)
    (h' : Judged verdict' (r.jobs config).valid results')
    (hcombined : ∀ j, (verdict j).combined = (verdict' j).combined)
    (hran : ∀ j, (verdict j).combined ≠ .checkFailed) :
    (assemble r (r.jobs config) results).Confirms (r.jobs config)
      (assemble r (r.jobs config) results') where
  filled := by
    intro row column key
    simp only [assemble, ProbeTable.verdict?_ofResults (h.consistent hkeys)]
    constructor
    · rintro ⟨v, x, hx, hplace, -⟩
      obtain ⟨res, hj, -⟩ := h.mem_iff.mp hx
      exact ⟨res, x.job, hj, hplace.row, hplace.column, hplace.key⟩
    · rintro ⟨res, j, hj, hrow, hcolumn, hkey⟩
      exact ⟨_, ⟨j, res.outcome (verdict j)⟩, h.mem_iff.mpr ⟨res, hj, rfl⟩,
        ⟨hrow, hcolumn, hkey⟩, rfl⟩
  cells := ProbeTable.combined_eq (h.consistent hkeys) (h'.consistent hkeys)
    (h.covers h' hcombined) (h'.covers h fun j => (hcombined j).symm)
  ran := by
    intro row column key hcell
    obtain ⟨v, hv, hfailed⟩ := Option.map_eq_some_iff.mp hcell
    obtain ⟨x, hx, -, rfl⟩ := (ProbeTable.verdict?_ofResults (h.consistent hkeys)).mp hv
    obtain ⟨res, -, hverdict⟩ := h.mem_iff.mp hx
    rw [hverdict] at hfailed
    cases res with
    | valid => exact hran x.job hfailed
    | badNamedPort => cases hfailed
    | badPortProtocol => cases hfailed

end Tables

namespace Cluster

/-- Every probe of a cluster that mirrors the model confirms the simulation of the policies that the
cluster stores, run in order or by workers, check by check or script by script. The jobs are no
more than an index can count. -/
theorem Mirrors.probe_confirms {c : Cluster} {r : Resources} (hc : c.Mirrors r) (hr : r.Probeable)
    (hstored : ∀ m ∈ c.policies.values, ∃ p, Policy.compile [m] = .ok p) {config : ProbeConfig}
    (hconfig : config.InRange) (hlength : (r.jobs config).valid.length ≤ UInt64.size) :
    ∃ policy, Policy.compile c.policies.values = .ok policy ∧ ∀ batched,
      ((runProbe (client .enforce) batched r config).run c).1.Confirms
          (r.jobs config) (simulateProbe policy r config) ∧
        ∀ results, c.JobsReturn (r.jobs config).valid batched results →
          (assemble r (r.jobs config) results).Confirms (r.jobs config)
            (simulateProbe policy r config) := by
  obtain ⟨policy, hpolicy⟩ := Policy.exists_compile_of_each hstored
  have hserves : c.Serves r policy := ⟨hc, hpolicy⟩
  have hjobs : ∀ j ∈ (r.jobs config).valid, j.Dispatchable r := fun j hj =>
    Resources.dispatchable_of_mem_valid hr hconfig hj
  have hindex : (r.jobs config).valid.length ≤ Batch.maxIndex + 1 := hlength
  have hsimulated : Judged (fun j => (j.simulate policy).verdict) (r.jobs config).valid
      ((r.jobs config).valid.map (·.simulate policy)) := fun _ => List.mem_map
  have hcombined : ∀ j, (policy.enforced j).combined = (j.simulate policy).verdict.combined :=
    fun _ => rfl
  have hran : ∀ j, (policy.enforced j).combined ≠ .checkFailed := by
    intro j
    change Connectivity.ofAllowed _ ≠ .checkFailed
    cases (policy.verdict j.traffic).isAllowed <;> decide
  have hconfirms : ∀ results, Judged policy.enforced (r.jobs config).valid results →
      (assemble r (r.jobs config) results).Confirms (r.jobs config)
        (simulateProbe policy r config) :=
    fun _ h => h.confirms hr.keysTellApart hsimulated hcombined hran
  refine ⟨policy, hpolicy, fun batched => ⟨?_, fun results hreturn => ?_⟩⟩
  · exact hconfirms _ (hserves.answered_runJobs hr hjobs hindex batched)
  · exact hconfirms results (hserves.answered_of_jobsReturn hr hjobs hindex hreturn)

/-- A pod that serves two ports and one that a policy closes for all but the first port. -/
theorem Mirrors.probe_confirms_two_pods :
    let a : Pod := {
      ns := "x", name := "a", labels := podLabels "a", ip := "192.168.0.1"
      containers := [.serving 80 .tcp, .serving 81 .udp] }
    let b : Pod := {
      ns := "y", name := "b", labels := podLabels "b", ip := "192.168.0.2"
      containers := [.serving 80 .tcp] }
    let r : Resources := {
      namespaces := .ofList [("x", defaultNamespaceLabels "x"), ("y", defaultNamespaceLabels "y")]
      pods := [a, b], externalIps := ["10.0.0.1"] }
    let closed : NetworkPolicy := ⟨{ ns := some "x", name := some "closed" }, some
      { policyTypes := some ["Ingress"]
        ingress := some [{ ports := some [{ port := some (.int 80) }] }] }⟩
    let running (p : Pod) : PodObject :=
      { p.object defaultImage with status := some ⟨some "Running", some p.ip⟩ }
    let c : Cluster := {
      namespaces := r.namespaces
      pods := .ofList [(⟨"x", "a"⟩, running a), (⟨"y", "b"⟩, running b)]
      services := .ofList [(⟨"x", a.service⟩, a.serviceObject), (⟨"y", b.service⟩, b.serviceObject)]
      policies := .ofList [(⟨"x", "closed"⟩, closed)] }
    ∃ policy, Policy.compile c.policies.values = .ok policy ∧ ∀ batched,
      ((runProbe (client .enforce) batched r .allAvailable).run c).1.Confirms
          (r.jobs .allAvailable) (simulateProbe policy r .allAvailable) ∧
        ∀ results, c.JobsReturn (r.jobs .allAvailable).valid batched results →
          (assemble r (r.jobs .allAvailable) results).Confirms
            (r.jobs .allAvailable) (simulateProbe policy r .allAvailable) := by
  intro a b r closed running c
  have hpods : ∀ p ∈ r.pods, p = a ∨ p = b := by simp [r]
  have hr : r.Probeable := {
    names := by decide
    distinct := by decide
    labelled := by decide
    served := by decide
    external := by
      intro ip hip
      obtain rfl := List.mem_singleton.mp hip
      exact ⟨.ofParts .v4 8 [10, 0, 0, 1], by decide, by decide⟩
    ports := by decide }
  have hc : c.Mirrors r := {
    namespaces := rfl
    pods := by
      intro p hp
      rcases hpods p hp with rfl | rfl
      · exact ⟨running a, by decide, _, _, rfl⟩
      · exact ⟨running b, by decide, _, _, rfl⟩
    onlyPods := by
      intro key o ho
      have hentry := SortedMap.get?_eq_some_iff.mp ho
      have hentries : c.pods.entries = [(⟨"x", "a"⟩, running a), (⟨"y", "b"⟩, running b)] := by
        decide
      rw [hentries] at hentry
      simp only [List.mem_cons, List.not_mem_nil, or_false, Prod.mk.injEq] at hentry
      rcases hentry with ⟨rfl, rfl⟩ | ⟨rfl, rfl⟩
      · exact ⟨a, by simp [r], rfl, _, _, rfl⟩
      · exact ⟨b, by simp [r], rfl, _, _, rfl⟩
    services := by decide }
  have hstored : ∀ m ∈ c.policies.values, ∃ p, Policy.compile [m] = .ok p := by
    intro m hm
    obtain rfl := List.mem_singleton.mp hm
    exact ⟨_, rfl⟩
  exact hc.probe_confirms hr hstored trivial (by decide)

end Cluster
end PodTraffic
