import PodTraffic.Proofs.Runner

/-!
# A probe covers every pair

From each pod with containers to each destination there is one verdict for each port that is
probed, and no other. It is that of the one job which reports there, so a table depends on the
verdicts that a runner returns, and not on their order.
-/
namespace PodTraffic

/-- The verdict of a job, by how its port resolves: what the runner says, or why it was not
dispatched. -/
def Reported (results : List JobResult) (j : Job) (v : Verdict) : PortResolution → Prop
  | .valid => ⟨j, v⟩ ∈ results
  | .badNamedPort => v = .invalid .invalidNamedPort
  | .badPortProtocol => v = .invalid .invalidPortProtocol

theorem Judged.reported_iff {verdict : Job → Verdict} {jobs : Jobs} {results : List JobResult}
    (h : Judged verdict jobs.valid results) {res : PortResolution} {j : Job}
    (hj : j ∈ jobs.bucket res) {v : Verdict} :
    Reported results j v res ↔ v = res.outcome (verdict j) := by
  cases res with
  | valid =>
    refine (h ⟨j, v⟩).trans ⟨fun hjudged => ?_, fun hv => ⟨j, hj, by rw [hv]; rfl⟩⟩
    obtain ⟨j', -, heq⟩ := hjudged
    obtain ⟨rfl, rfl⟩ := JobResult.mk.inj heq
    rfl
  | badNamedPort => rfl
  | badPortProtocol => rfl

section Assembled

variable {r : Resources} {config : ProbeConfig} {results : List JobResult}
  (hkeys : (r.pods.map (·.key) ++ r.externalIps).Nodup)
  (hresults : (results.map (·.job)).Perm (r.jobs config).valid)

include hkeys hresults

/-- One result for each job is a verdict for each job. -/
theorem exists_judged : ∃ verdict, Judged verdict (r.jobs config).valid results := by
  have hverdict : ∀ j, ∃ v, j ∈ (r.jobs config).valid → ⟨j, v⟩ ∈ results := by
    intro j
    by_cases hj : j ∈ (r.jobs config).valid
    · obtain ⟨x, hx, rfl⟩ := List.mem_map.mp (hresults.mem_iff.mpr hj)
      exact ⟨x.verdict, fun _ => hx⟩
    · exact ⟨.ofCluster .unknown, fun h => absurd h hj⟩
  choose verdict hverdict using hverdict
  have hnodup : (results.map (·.job)).Nodup :=
    hresults.nodup_iff.mpr (Resources.nodup_bucket hkeys config .valid)
  refine ⟨verdict, fun x => ⟨fun hx => ?_, fun hx => ?_⟩⟩
  · have hjob : x.job ∈ (r.jobs config).valid := hresults.mem_iff.mp (List.mem_map_of_mem hx)
    exact ⟨x.job, hjob, List.inj_on_of_nodup_map hnodup (hverdict x.job hjob) hx rfl⟩
  · obtain ⟨j, hj, rfl⟩ := hx
    exact hverdict j hj

theorem consistent_of_perm :
    ProbeTable.Consistent ((r.jobs config).undispatched ++ results) := by
  obtain ⟨verdict, hjudged⟩ := exists_judged hkeys hresults
  exact hjudged.consistent (Resources.keysTellApart_of_nodup hkeys)

/-- A verdict in the table is that of a job which reports there. -/
theorem verdict?_assemble {row column key : String} {v : Verdict} :
    ProbeTable.verdict? (assemble r (r.jobs config) results) row column key = some v ↔
      ∃ res, ∃ j ∈ (r.jobs config).bucket res,
        j.fromKey = row ∧ j.toKey = column ∧ j.key = key ∧ Reported results j v res := by
  obtain ⟨verdict, hjudged⟩ := exists_judged hkeys hresults
  rw [assemble, ProbeTable.verdict?_ofResults (consistent_of_perm hkeys hresults)]
  constructor
  · intro h
    obtain ⟨x, hx, hplace, rfl⟩ := h
    obtain ⟨res, hj, hverdict⟩ := hjudged.mem_iff.mp hx
    exact ⟨res, x.job, hj, hplace.row, hplace.column, hplace.key,
      (hjudged.reported_iff hj).mpr hverdict⟩
  · intro h
    obtain ⟨res, j, hj, hrow, hcolumn, hkey, hreported⟩ := h
    exact ⟨⟨j, v⟩, hjudged.mem_iff.mpr ⟨res, hj, (hjudged.reported_iff hj).mp hreported⟩,
      ⟨hrow, hcolumn, hkey⟩, rfl⟩

/-- A verdict stands where a round checks a destination from a pod with containers. -/
theorem exists_verdict_iff {p : Pod} (hp : p ∈ r.pods) (hcontainers : p.containers ≠ [])
    {column key : String} (hcolumn : column ∈ r.destinationKeys) :
    (∃ v, ProbeTable.verdict? (assemble r (r.jobs config) results) p.key column key = some v) ↔
      key ∈ (r.rounds config).map fun round => probeKey round.1 round.2 := by
  obtain ⟨verdict, hjudged⟩ := exists_judged hkeys hresults
  simp only [verdict?_assemble hkeys hresults, List.mem_map]
  constructor
  · intro h
    obtain ⟨v, res, j, hj, -, -, rfl, -⟩ := h
    obtain ⟨round, hround, hplans⟩ := Resources.mem_jobs.mp hj
    exact ⟨round, hround, hplans.key.symm⟩
  · intro h
    obtain ⟨round, hround, rfl⟩ := h
    obtain ⟨res, j, hplans, hfrom, hto⟩ :=
      Resources.exists_plans hp hcontainers hcolumn round.1 round.2
    have hj : j ∈ (r.jobs config).bucket res := Resources.mem_jobs.mpr ⟨round, hround, hplans⟩
    exact ⟨res.outcome (verdict j), res, j, hj, hfrom, hto, hplans.key,
      (hjudged.reported_iff hj).mpr rfl⟩

theorem exists_cell {p : Pod} (hp : p ∈ r.pods) (hcontainers : p.containers ≠ [])
    {column : String} (hcolumn : column ∈ r.destinationKeys) :
    ∃ cell, TruthTable.get? (assemble r (r.jobs config) results) p.key column = some cell ∧
      cell.keys.Perm ((r.rounds config).map fun round => probeKey round.1 round.2) := by
  have hrounds : r.rounds config ≠ [] := Resources.rounds_ne_nil hp hcontainers
  have hverdict : ∀ key, (∃ v, ProbeTable.verdict? (assemble r (r.jobs config) results) p.key
      column key = some v) ↔ key ∈ (r.rounds config).map fun round => probeKey round.1 round.2 :=
    fun _ => exists_verdict_iff hkeys hresults hp hcontainers hcolumn
  cases hcell : TruthTable.get? (assemble r (r.jobs config) results) p.key column with
  | none =>
    obtain ⟨round, hround⟩ := List.exists_mem_of_ne_nil _ hrounds
    obtain ⟨v, hv⟩ := (hverdict _).mpr (List.mem_map_of_mem hround)
    simp [ProbeTable.verdict?, hcell] at hv
  | some cell =>
    refine ⟨cell, rfl, ?_⟩
    rw [List.perm_ext_iff_of_nodup cell.keys_nodup (Resources.nodup_probeKeys r config)]
    intro key
    rw [SortedMap.mem_keys_iff, ← hverdict key, ProbeTable.verdict?, hcell]
    rfl

omit hkeys in
theorem get?_assemble_eq_none {row column : String}
    (h : (∀ p ∈ r.pods, p.key = row → p.containers = []) ∨ column ∉ r.destinationKeys) :
    TruthTable.get? (assemble r (r.jobs config) results) row column = none := by
  have hplanned : ∀ res, ∀ j ∈ (r.jobs config).bucket res,
      ¬(j.fromKey = row ∧ j.toKey = column) := by
    intro res j hj hplace
    obtain ⟨rfl, rfl⟩ := hplace
    obtain ⟨round, -, hplans⟩ := Resources.mem_jobs.mp hj
    obtain ⟨p, hp, hcontainers, hkey⟩ := hplans.fromKey
    exact h.elim (fun hnone => hcontainers (hnone p hp hkey)) fun hno => hno hplans.toKey
  rw [assemble, ProbeTable.get?_ofResults_eq_none_iff]
  intro x hx
  simp only [Jobs.undispatched, List.mem_append, List.mem_map] at hx
  rcases hx with (⟨j, hj, rfl⟩ | ⟨j, hj, rfl⟩) | hx
  · exact hplanned .badNamedPort j hj
  · exact hplanned .badPortProtocol j hj
  · exact hplanned .valid x.job (hresults.mem_iff.mp (List.mem_map_of_mem hx))

/-- The row of a pod has as many verdicts as the pod makes checks. -/
theorem sum_cellSize {p : Pod} (hp : p ∈ r.pods) :
    (r.destinationKeys.map (ProbeTable.cellSize (assemble r (r.jobs config) results) p.key)).sum =
      (r.rounds config).length * r.checks p := by
  by_cases hcontainers : p.containers = []
  · have hrow : ∀ p' ∈ r.pods, p'.key = p.key → p'.containers = [] := fun p' hp' hkey =>
      (Resources.keysTellApart_of_nodup hkeys).pods p' hp' p hp hkey ▸ hcontainers
    have hzero : ProbeTable.cellSize (assemble r (r.jobs config) results) p.key = fun _ => 0 := by
      funext column
      rw [ProbeTable.cellSize, get?_assemble_eq_none hresults (.inl hrow)]
      rfl
    simp [hzero, Resources.checks, hcontainers]
  · have hsize : ∀ column ∈ r.destinationKeys,
        ProbeTable.cellSize (assemble r (r.jobs config) results) p.key column =
          (r.rounds config).length := by
      intro column hcolumn
      obtain ⟨cell, hcell, hperm⟩ := exists_cell hkeys hresults hp hcontainers hcolumn
      simp [ProbeTable.cellSize, hcell, hperm.length_eq]
    have hlength : r.destinationKeys.length = r.pods.length + r.externalIps.length := by
      rw [Resources.destinationKeys, List.length_append, Resources.podKeys,
        (Ordered.distinct_perm hkeys.of_append_left).length_eq, List.length_map]
    rw [List.map_congr_left hsize, List.map_const', List.sum_replicate, hlength, Resources.checks,
      if_neg hcontainers, smul_eq_mul, Nat.mul_comm]

theorem sum_counts_assemble :
    ((ProbeTable.counts (assemble r (r.jobs config) results)).map (·.2)).sum =
      (r.jobs config).size := by
  obtain ⟨hfroms, htos⟩ :=
    ProbeTable.shape_ofResults r ((r.jobs config).undispatched ++ results)
  have hrows : r.podKeys.Perm (r.pods.map (·.key)) := Ordered.distinct_perm hkeys.of_append_left
  rw [ProbeTable.sum_counts, ProbeTable.length_verdicts, assemble, hfroms, htos,
    (hrows.map _).sum_eq, List.map_map, Resources.size_jobs, ← List.sum_map_mul_left]
  exact congrArg List.sum (List.map_congr_left fun p hp => sum_cellSize hkeys hresults hp)

end Assembled

/-- The table tells the verdict of every job, and nothing else. -/
structure ProbeTable.Complete (t : ProbeTable) (r : Resources) (config : ProbeConfig)
    (results : List JobResult) : Prop where
  /-- Between a pod with containers and a destination there is one verdict for each port that is
  probed, which is that of a job. -/
  filled : ∀ p ∈ r.pods, p.containers ≠ [] → ∀ column ∈ r.destinationKeys,
    ∃ cell, TruthTable.get? t p.key column = some cell ∧
      cell.keys.Perm ((r.rounds config).map fun round => probeKey round.1 round.2) ∧
        ∀ key v, cell.get? key = some v → ∃ res, ∃ j ∈ (r.jobs config).bucket res,
          j.fromKey = p.key ∧ j.toKey = column ∧ j.key = key ∧ Reported results j v res
  told : ∀ res, ∀ j ∈ (r.jobs config).bucket res, ∀ v, Reported results j v res →
    verdict? t j.fromKey j.toKey j.key = some v
  unset : ∀ row column, (∀ p ∈ r.pods, p.key = row → p.containers = []) ∨
    column ∉ r.destinationKeys → TruthTable.get? t row column = none
  counted : ((counts t).map (·.2)).sum = (r.jobs config).size

/-- Where destinations are told apart by their keys, the table of a probe is complete and exact, and
the order in which a runner returns the results does not matter. -/
theorem assemble_complete {r : Resources} (hkeys : (r.pods.map (·.key) ++ r.externalIps).Nodup)
    (config : ProbeConfig) {results : List JobResult}
    (hresults : (results.map (·.job)).Perm (r.jobs config).valid) :
    (assemble r (r.jobs config) results).Complete r config results ∧
      ∀ results', results'.Perm results →
        assemble r (r.jobs config) results' = assemble r (r.jobs config) results := by
  refine ⟨⟨?_, ?_, fun _ _ => get?_assemble_eq_none hresults,
    sum_counts_assemble hkeys hresults⟩, fun results' hperm => ?_⟩
  · intro p hp hcontainers column hcolumn
    obtain ⟨cell, hcell, hperm⟩ := exists_cell hkeys hresults hp hcontainers hcolumn
    refine ⟨cell, hcell, hperm, fun key v hv => ?_⟩
    refine (verdict?_assemble hkeys hresults).mp ?_
    rw [ProbeTable.verdict?, hcell]
    exact hv
  · intro res j hj v hreported
    exact (verdict?_assemble hkeys hresults).mpr ⟨res, j, hj, rfl, rfl, rfl, hreported⟩
  · exact ProbeTable.ofResults_perm (consistent_of_perm hkeys hresults) (hperm.append_left _)

/-- A pod that serves a port, one without containers and an external address. -/
theorem assemble_complete_unserved :
    let a : Pod := {
      ns := "x", name := "a", labels := podLabels "a", ip := "192.168.0.1"
      containers := [.serving 80 .tcp] }
    let b : Pod := {
      ns := "y", name := "b", labels := podLabels "b", ip := "192.168.0.2", containers := [] }
    let r : Resources := { namespaces := .empty, pods := [a, b], externalIps := ["10.0.0.1"] }
    let jobs := r.jobs .allAvailable
    let results := jobs.valid.map fun j => JobResult.mk j (.ofCluster .allowed)
    (assemble r jobs results).Complete r .allAvailable results ∧
      assemble r jobs results.reverse = assemble r jobs results ∧
        ((ProbeTable.counts (assemble r jobs results)).map (·.2)).sum = 3 := by
  intro a b r jobs results
  have hkeys : (r.pods.map (·.key) ++ r.externalIps).Nodup := by decide
  have hresults : (results.map (·.job)).Perm (r.jobs .allAvailable).valid := by
    simp [results, jobs, Function.comp_def]
  obtain ⟨hcomplete, horder⟩ := assemble_complete hkeys .allAvailable hresults
  refine ⟨hcomplete, horder results.reverse results.reverse_perm, ?_⟩
  rw [hcomplete.counted]
  decide

end PodTraffic
