import PodTraffic.Job
import PodTraffic.Proofs.Address.Text
import PodTraffic.Proofs.Fallible
import PodTraffic.Proofs.Ordered
import PodTraffic.Proofs.Text.Cut
import PodTraffic.Proofs.Text.Integer

/-!
# Planned jobs

What is planned for a model, job by job, and why the place where a job reports tells which job it
is.
-/
namespace PodTraffic

instance : Std.LawfulEqOrd ServedPort where
  eq_of_compare := by
    intro a b h
    change compareLex (compareOn fun s : ServedPort => s.number) (compareOn (·.protocol)) a b =
      .eq at h
    simp only [Ordered.compareLex_eq_iff, Ordered.compareOn_eq_iff] at h
    cases a
    cases b
    simp_all

namespace Jobs

def bucket (jobs : Jobs) : PortResolution → List Job
  | .valid => jobs.valid
  | .badNamedPort => jobs.badNamedPort
  | .badPortProtocol => jobs.badPortProtocol

theorem size_eq (jobs : Jobs) : jobs.size = (jobs.bucket .valid).length +
    (jobs.bucket .badNamedPort).length + (jobs.bucket .badPortProtocol).length := rfl

theorem bucket_append (a b : Jobs) (res : PortResolution) :
    (a ++ b).bucket res = a.bucket res ++ b.bucket res := by
  cases res <;> rfl

theorem bucket_foldl {α : Type} (plan : α → Jobs) (rounds : List α) (jobs : Jobs)
    (res : PortResolution) :
    (rounds.foldl (fun jobs round => jobs ++ plan round) jobs).bucket res =
      jobs.bucket res ++ rounds.flatMap fun round => (plan round).bucket res := by
  induction rounds generalizing jobs with
  | nil => simp
  | cons round rest ih =>
    rw [List.foldl_cons, ih, bucket_append, List.flatMap_cons, List.append_assoc]

end Jobs

namespace Resources

/-- The destination is one of the model and answers the port so. -/
def Answers (r : Resources) (port : PortValue) (protocol : Protocol) (res : PortResolution)
    (d : JobDestination) (q : PortQuery) : Prop :=
  match d with
  | .pod p nsLabels =>
    p ∈ r.pods ∧ nsLabels = r.nsLabels p.ns ∧ p.resolve port protocol = (res, q)
  | .external ip => ip ∈ r.externalIps ∧ resolveExternal port protocol = (res, q)

/-- The job checks the port from a pod of the model to a destination of it. -/
structure Plans (r : Resources) (port : PortValue) (protocol : Protocol) (res : PortResolution)
    (j : Job) : Prop where
  source : ∃ p ∈ r.pods, r.jobSource? p protocol = some j.source
  answers : r.Answers port protocol res j.destination j.port
  key : j.key = probeKey port protocol

theorem mem_jobsFrom {r : Resources} {source : JobSource} {port : PortValue}
    {protocol : Protocol} {res : PortResolution} {j : Job} :
    (res, j) ∈ r.jobsFrom source port protocol ↔
      j.source = source ∧ r.Answers port protocol res j.destination j.port ∧
        j.key = probeKey port protocol := by
  obtain ⟨source', d, q, key⟩ := j
  simp only [jobsFrom, List.mem_append, List.mem_map, Prod.mk.injEq, Job.mk.injEq]
  constructor
  · intro h
    rcases h with ⟨p, hp, hres, rfl, rfl, hq, rfl⟩ | ⟨ip, hip, hres, rfl, rfl, hq, rfl⟩
    · exact ⟨rfl, ⟨hp, rfl, Prod.ext hres hq⟩, rfl⟩
    · exact ⟨rfl, ⟨hip, Prod.ext hres hq⟩, rfl⟩
  · intro h
    obtain ⟨rfl, hanswers, rfl⟩ := h
    cases d with
    | pod p nsLabels =>
      obtain ⟨hp, rfl, hresolve⟩ := hanswers
      exact .inl ⟨p, hp, by rw [hresolve], rfl, rfl, by rw [hresolve], rfl⟩
    | external ip =>
      obtain ⟨hip, hresolve⟩ := hanswers
      exact .inr ⟨ip, hip, by rw [hresolve], rfl, rfl, by rw [hresolve], rfl⟩

/-- The jobs of one round, before they are sorted by how their ports resolve. -/
def planned (r : Resources) (port : PortValue) (protocol : Protocol) :
    List (PortResolution × Job) :=
  r.pods.flatMap fun p =>
    match r.jobSource? p protocol with
    | some source => r.jobsFrom source port protocol
    | none => []

theorem bucket_jobsForPort (r : Resources) (port : PortValue) (protocol : Protocol)
    (res : PortResolution) : (r.jobsForPort port protocol).bucket res =
      ((r.planned port protocol).filter (·.1 == res)).map (·.2) := by
  cases res <;> rfl

theorem mem_planned {r : Resources} {port : PortValue} {protocol : Protocol}
    {res : PortResolution} {j : Job} :
    (res, j) ∈ r.planned port protocol ↔ r.Plans port protocol res j := by
  refine List.mem_flatMap.trans ?_
  constructor
  · intro h
    obtain ⟨p, hp, hmem⟩ := h
    cases hsource : r.jobSource? p protocol with
    | none => simp [hsource] at hmem
    | some source =>
      rw [hsource] at hmem
      obtain ⟨rfl, hanswers, hkey⟩ := mem_jobsFrom.mp hmem
      exact ⟨⟨p, hp, hsource⟩, hanswers, hkey⟩
  · intro h
    obtain ⟨⟨p, hp, hsource⟩, hanswers, hkey⟩ := h
    refine ⟨p, hp, ?_⟩
    rw [hsource]
    exact mem_jobsFrom.mpr ⟨rfl, hanswers, hkey⟩

theorem mem_jobsForPort {r : Resources} {port : PortValue} {protocol : Protocol}
    {res : PortResolution} {j : Job} :
    j ∈ (r.jobsForPort port protocol).bucket res ↔ r.Plans port protocol res j := by
  rw [bucket_jobsForPort, ← mem_planned, List.mem_map]
  constructor
  · intro h
    obtain ⟨⟨res', j'⟩, hfilter, rfl⟩ := h
    obtain ⟨hmem, hres⟩ := List.mem_filter.mp hfilter
    obtain rfl : res' = res := beq_iff_eq.mp hres
    exact hmem
  · intro hmem
    exact ⟨(res, j), List.mem_filter.mpr ⟨hmem, beq_self_eq_true _⟩, rfl⟩

/-- The ports that a probe checks one after another. -/
def rounds (r : Resources) : ProbeConfig → List (PortValue × Protocol)
  | .allAvailable => r.servedPorts.map fun s => (.number s.number, s.protocol)
  | .port port protocol => [(port, protocol)]

theorem bucket_jobs (r : Resources) (config : ProbeConfig) (res : PortResolution) :
    (r.jobs config).bucket res =
      (r.rounds config).flatMap fun round => (r.jobsForPort round.1 round.2).bucket res := by
  cases config with
  | port port protocol => simp [jobs, rounds]
  | allAvailable =>
    have hempty : ({} : Jobs).bucket res = [] := by
      cases res <;> rfl
    rw [jobs, jobsForAll, Jobs.bucket_foldl, hempty, List.nil_append, rounds, List.flatMap_map]

theorem mem_jobs {r : Resources} {config : ProbeConfig} {res : PortResolution} {j : Job} :
    j ∈ (r.jobs config).bucket res ↔
      ∃ round ∈ r.rounds config, r.Plans round.1 round.2 res j := by
  simp only [bucket_jobs, List.mem_flatMap, mem_jobsForPort]

theorem jobSource?_eq_some {r : Resources} {p : Pod} {protocol : Protocol} {source : JobSource}
    (h : r.jobSource? p protocol = some source) :
    source.pod = p ∧ source.nsLabels = r.nsLabels p.ns ∧
      ∃ c ∈ p.containers, source.container = c.name := by
  unfold jobSource? at h
  simp only [Option.bind_eq_bind, Option.bind_eq_some_iff, Option.pure_def,
    Option.some.injEq] at h
  obtain ⟨c, hc, rfl⟩ := h
  refine ⟨rfl, rfl, c, ?_, rfl⟩
  cases hfound : p.containers.find? (·.protocol == protocol) with
  | some c' =>
    obtain rfl : c' = c := by simpa [hfound] using hc
    exact List.mem_of_find?_eq_some hfound
  | none => exact List.mem_of_head? (by simpa [hfound] using hc)

/-- Only a pod without containers has nowhere to run a job. -/
theorem jobSource?_eq_none_iff {r : Resources} {p : Pod} {protocol : Protocol} :
    r.jobSource? p protocol = none ↔ p.containers = [] := by
  cases hcontainers : p.containers with
  | nil => simp [jobSource?, hcontainers]
  | cons c cs =>
    cases hfound : (c :: cs).find? (·.protocol == protocol) <;>
      simp [jobSource?, hcontainers, hfound]

theorem probeKey_injective {n n' : Nat} {protocol protocol' : Protocol}
    (h : probeKey (.number n) protocol = probeKey (.number n') protocol') :
    n = n' ∧ protocol = protocol' := by
  have hslash : ∀ m : Nat, '/' ∉ Nat.toDigits 10 m := Text.not_mem_toDigits (by decide)
  have htext : ∀ (m : Nat) (p : Protocol), (probeKey (.number m) p).toList =
      Nat.toDigits 10 m ++ '/' :: p.name.toList := by
    intro m p
    simp [probeKey, PortValue.text]
  have hchars := congrArg String.toList h
  rw [htext, htext] at hchars
  obtain ⟨hnumber, hprotocol⟩ := Text.eq_of_append_mark (hslash n) (hslash n') hchars
  refine ⟨Text.toDigits_injective hnumber, ?_⟩
  have hname := String.toList_injective hprotocol
  cases protocol <;> cases protocol' <;> first | rfl | exact absurd hname (by decide)

theorem round_eq_of_probeKey {r : Resources} {config : ProbeConfig}
    {round round' : PortValue × Protocol} (h : round ∈ r.rounds config)
    (h' : round' ∈ r.rounds config) (hkey : probeKey round.1 round.2 = probeKey round'.1 round'.2) :
    round = round' := by
  cases config with
  | port port protocol =>
    rw [rounds, List.mem_singleton] at h h'
    rw [h, h']
  | allAvailable =>
    obtain ⟨s, -, rfl⟩ := List.mem_map.mp h
    obtain ⟨s', -, rfl⟩ := List.mem_map.mp h'
    obtain ⟨hnumber, hprotocol⟩ := probeKey_injective hkey
    exact Prod.ext (congrArg PortValue.number hnumber) hprotocol

/-- Pods are told apart by their keys, and from external addresses. -/
structure KeysTellApart (r : Resources) : Prop where
  pods : ∀ p ∈ r.pods, ∀ p' ∈ r.pods, p.key = p'.key → p = p'
  external : ∀ p ∈ r.pods, p.key ∉ r.externalIps

/-- A destination is known by its key, and answers a port in one way. -/
theorem Answers.eq_of_key {r : Resources} (hkeys : r.KeysTellApart) {port : PortValue}
    {protocol : Protocol} {res res' : PortResolution} {d d' : JobDestination} {q q' : PortQuery}
    (h : r.Answers port protocol res d q) (h' : r.Answers port protocol res' d' q')
    (hkey : d.key = d'.key) : res = res' ∧ d = d' ∧ q = q' := by
  cases d with
  | pod t nsLabels =>
    obtain ⟨ht, rfl, hresolve⟩ := h
    cases d' with
    | pod t' nsLabels' =>
      obtain ⟨ht', rfl, hresolve'⟩ := h'
      obtain rfl := hkeys.pods t ht t' ht' hkey
      rw [hresolve] at hresolve'
      obtain ⟨rfl, rfl⟩ := Prod.mk.inj hresolve'
      exact ⟨rfl, rfl, rfl⟩
    | external ip =>
      have hip : t.key = ip := hkey
      exact absurd (hip ▸ h'.1) (hkeys.external t ht)
  | external ip =>
    obtain ⟨hip, hresolve⟩ := h
    cases d' with
    | pod t' nsLabels' =>
      have hip' : ip = t'.key := hkey
      exact absurd (hip' ▸ hip) (hkeys.external t' h'.1)
    | external ip' =>
      obtain ⟨-, hresolve'⟩ := h'
      obtain rfl : ip = ip' := hkey
      rw [hresolve] at hresolve'
      obtain ⟨rfl, rfl⟩ := Prod.mk.inj hresolve'
      exact ⟨rfl, rfl, rfl⟩

theorem Plans.source_eq {r : Resources} (hkeys : r.KeysTellApart) {port : PortValue}
    {protocol : Protocol} {res res' : PortResolution} {j j' : Job}
    (h : r.Plans port protocol res j) (h' : r.Plans port protocol res' j')
    (hfrom : j.fromKey = j'.fromKey) : j.source = j'.source := by
  obtain ⟨p, hp, hsource⟩ := h.source
  obtain ⟨p', hp', hsource'⟩ := h'.source
  obtain rfl : p = p' := by
    refine hkeys.pods p hp p' hp' ?_
    rwa [Job.fromKey, Job.fromKey, (jobSource?_eq_some hsource).1,
      (jobSource?_eq_some hsource').1] at hfrom
  rw [hsource] at hsource'
  exact Option.some.inj hsource'

/-- Jobs that report at one place are one job. -/
theorem Plans.eq_of_place {r : Resources} (hkeys : r.KeysTellApart) {config : ProbeConfig}
    {round round' : PortValue × Protocol} (hround : round ∈ r.rounds config)
    (hround' : round' ∈ r.rounds config) {res res' : PortResolution} {j j' : Job}
    (h : r.Plans round.1 round.2 res j) (h' : r.Plans round'.1 round'.2 res' j')
    (hfrom : j.fromKey = j'.fromKey) (hto : j.toKey = j'.toKey) (hkey : j.key = j'.key) :
    res = res' ∧ j = j' := by
  obtain rfl : round = round' := round_eq_of_probeKey hround hround' (by
    rw [← h.key, ← h'.key, hkey])
  have hsource := h.source_eq hkeys h' hfrom
  obtain ⟨hres, hdestination, hport⟩ := h.answers.eq_of_key hkeys h'.answers hto
  refine ⟨hres, ?_⟩
  cases j
  cases j'
  simp only [Job.mk.injEq]
  exact ⟨hsource, hdestination, hport, hkey⟩

theorem mem_destinationKeys {r : Resources} {key : String} :
    key ∈ r.destinationKeys ↔ (∃ p ∈ r.pods, p.key = key) ∨ key ∈ r.externalIps := by
  rw [destinationKeys, podKeys, List.mem_append, Ordered.mem_distinct, List.mem_map]

theorem rounds_ne_nil {r : Resources} {config : ProbeConfig} {p : Pod}
    (hp : p ∈ r.pods) (hcontainers : p.containers ≠ []) : r.rounds config ≠ [] := by
  cases config with
  | port port protocol => exact List.cons_ne_nil _ _
  | allAvailable =>
    obtain ⟨c, hc⟩ := List.exists_mem_of_ne_nil _ hcontainers
    have hserved : c.served ∈ r.servedPorts :=
      Ordered.mem_distinct.mpr (List.mem_flatMap.mpr ⟨p, hp, List.mem_map_of_mem hc⟩)
    exact List.ne_nil_of_mem (List.mem_map_of_mem hserved)

theorem Plans.fromKey {r : Resources} {port : PortValue} {protocol : Protocol}
    {res : PortResolution} {j : Job} (h : r.Plans port protocol res j) :
    ∃ p ∈ r.pods, p.containers ≠ [] ∧ p.key = j.fromKey := by
  obtain ⟨p, hp, hsource⟩ := h.source
  obtain ⟨hpod, -, c, hc, -⟩ := jobSource?_eq_some hsource
  exact ⟨p, hp, List.ne_nil_of_mem hc, by rw [Job.fromKey, hpod]⟩

theorem Plans.toKey {r : Resources} {port : PortValue} {protocol : Protocol}
    {res : PortResolution} {j : Job} (h : r.Plans port protocol res j) :
    j.toKey ∈ r.destinationKeys := by
  have hanswers := h.answers
  rw [Job.toKey, mem_destinationKeys]
  cases hd : j.destination with
  | pod t nsLabels =>
    rw [hd] at hanswers
    exact .inl ⟨t, hanswers.1, rfl⟩
  | external ip =>
    rw [hd] at hanswers
    exact .inr hanswers.1

/-- No destination is skipped, whatever becomes of the port there. -/
theorem exists_plans {r : Resources} {p : Pod} (hp : p ∈ r.pods) (hcontainers : p.containers ≠ [])
    {column : String} (hcolumn : column ∈ r.destinationKeys) (port : PortValue)
    (protocol : Protocol) :
    ∃ res j, r.Plans port protocol res j ∧ j.fromKey = p.key ∧ j.toKey = column := by
  cases hsource : r.jobSource? p protocol with
  | none => exact absurd (jobSource?_eq_none_iff.mp hsource) hcontainers
  | some source =>
    have hpod : source.pod.key = p.key := congrArg Pod.key (jobSource?_eq_some hsource).1
    rcases mem_destinationKeys.mp hcolumn with ⟨t, ht, rfl⟩ | hip
    · exact ⟨(t.resolve port protocol).1,
        ⟨source, .pod t (r.nsLabels t.ns), (t.resolve port protocol).2, probeKey port protocol⟩,
        ⟨⟨p, hp, hsource⟩, ⟨ht, rfl, rfl⟩, rfl⟩, hpod, rfl⟩
    · exact ⟨(resolveExternal port protocol).1,
        ⟨source, .external column, (resolveExternal port protocol).2, probeKey port protocol⟩,
        ⟨⟨p, hp, hsource⟩, ⟨hip, rfl⟩, rfl⟩, hpod, rfl⟩

theorem nodup_rounds (r : Resources) (config : ProbeConfig) : (r.rounds config).Nodup := by
  cases config with
  | port port protocol => exact List.nodup_singleton _
  | allAvailable =>
    refine (Ordered.nodup_distinct _).map ?_
    rintro ⟨n, protocol⟩ ⟨n', protocol'⟩ h
    simpa using h

theorem nodup_probeKeys (r : Resources) (config : ProbeConfig) :
    ((r.rounds config).map fun round => probeKey round.1 round.2).Nodup :=
  (nodup_rounds r config).map_on fun _ h _ h' hkey => round_eq_of_probeKey h h' hkey

section DistinctKeys

variable {r : Resources} (hkeys : (r.pods.map (·.key) ++ r.externalIps).Nodup)

include hkeys

theorem keysTellApart_of_nodup : r.KeysTellApart where
  pods := fun _ hp _ hp' h => List.inj_on_of_nodup_map hkeys.of_append_left hp hp' h
  external := fun _ hp hip =>
    (List.nodup_append.mp hkeys).2.2 _ (List.mem_map_of_mem hp) _ hip rfl

theorem nodup_jobsFrom (source : JobSource) (port : PortValue) (protocol : Protocol) :
    (r.jobsFrom source port protocol).Nodup := by
  have hto : (r.jobsFrom source port protocol).map (·.2.toKey) =
      r.pods.map (·.key) ++ r.externalIps := by
    simp [jobsFrom, Job.toKey, JobDestination.key, Function.comp_def]
  exact .of_map (·.2.toKey) (hto ▸ hkeys)

theorem nodup_planned (port : PortValue) (protocol : Protocol) :
    (r.planned port protocol).Nodup := by
  rw [planned, List.nodup_flatMap]
  refine ⟨fun p _ => ?_, ?_⟩
  · cases r.jobSource? p protocol with
    | none => exact .nil
    | some source => exact nodup_jobsFrom hkeys source port protocol
  · -- Jobs of two pods have different sources.
    refine (List.pairwise_map.mp hkeys.of_append_left).imp ?_
    rintro p p' hne ⟨res, j⟩ hj hj'
    have hsource : ∀ p, (res, j) ∈ (match r.jobSource? p protocol with
        | some source => r.jobsFrom source port protocol
        | none => []) → j.source.pod = p := by
      intro p hmem
      cases hsource : r.jobSource? p protocol with
      | none => simp [hsource] at hmem
      | some source =>
        rw [hsource] at hmem
        rw [(mem_jobsFrom.mp hmem).1, (jobSource?_eq_some hsource).1]
    exact hne (by rw [← hsource p hj, ← hsource p' hj'])

theorem nodup_bucket (config : ProbeConfig) (res : PortResolution) :
    ((r.jobs config).bucket res).Nodup := by
  rw [bucket_jobs, List.nodup_flatMap]
  refine ⟨fun round _ => ?_, ?_⟩
  · rw [bucket_jobsForPort]
    refine ((nodup_planned hkeys round.1 round.2).filter _).map_on ?_
    rintro ⟨res₁, j₁⟩ h₁ ⟨res₂, j₂⟩ h₂ rfl
    have hres₁ : res₁ = res := beq_iff_eq.mp (List.mem_filter.mp h₁).2
    have hres₂ : res₂ = res := beq_iff_eq.mp (List.mem_filter.mp h₂).2
    rw [hres₁, hres₂]
  · refine (nodup_rounds r config).imp_of_mem ?_
    intro round round' hround hround' hne j hj hj'
    refine hne (round_eq_of_probeKey hround hround' ?_)
    rw [← (mem_jobsForPort.mp hj).key, ← (mem_jobsForPort.mp hj').key]

end DistinctKeys

/-- The checks that a pod makes in one round. -/
def checks (r : Resources) (p : Pod) : Nat :=
  if p.containers = [] then 0 else r.pods.length + r.externalIps.length

theorem length_planned (r : Resources) (port : PortValue) (protocol : Protocol) :
    (r.planned port protocol).length = (r.pods.map r.checks).sum := by
  rw [planned, List.length_flatMap]
  congr 1
  refine List.map_congr_left fun p _ => ?_
  cases hsource : r.jobSource? p protocol with
  | none => simp [checks, jobSource?_eq_none_iff.mp hsource]
  | some source =>
    have hcontainers : p.containers ≠ [] := by
      intro hnone
      rw [jobSource?_eq_none_iff.mpr hnone] at hsource
      cases hsource
    simp [checks, hcontainers, jobsFrom]

theorem size_jobsForPort (r : Resources) (port : PortValue) (protocol : Protocol) :
    (r.jobsForPort port protocol).size = (r.pods.map r.checks).sum := by
  have hsorted : ∀ jobs : List (PortResolution × Job),
      (jobs.filter (·.1 == .valid)).length + (jobs.filter (·.1 == .badNamedPort)).length +
        (jobs.filter (·.1 == .badPortProtocol)).length = jobs.length := by
    intro jobs
    induction jobs with
    | nil => rfl
    | cons x rest ih =>
      obtain ⟨res, j⟩ := x
      cases res <;> simp <;> omega
  simp only [Jobs.size_eq, bucket_jobsForPort, List.length_map, hsorted, length_planned]

/-- Every round makes the same number of checks. -/
theorem size_jobs (r : Resources) (config : ProbeConfig) :
    (r.jobs config).size = (r.rounds config).length * (r.pods.map r.checks).sum := by
  have hsize : (r.jobs config).size =
      ((r.rounds config).map fun round => (r.jobsForPort round.1 round.2).size).sum := by
    simp only [Jobs.size_eq, bucket_jobs, List.length_flatMap, ← List.sum_map_add]
  simp [hsize, size_jobsForPort]

end Resources
end PodTraffic
