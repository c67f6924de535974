import PodTraffic.Proofs.Cluster.Consistent
import PodTraffic.Proofs.Cluster.Deploy
import PodTraffic.Proofs.Job

/-!
# Verified models

Verification compares a model with a cluster object by object, and takes the name label of a
namespace for granted. The jobs planned from a verified model carry the labels that the cluster
evaluates connections by, but for that label: they agree just where the model has it.
-/
namespace PodTraffic

namespace Cluster

variable {c : Cluster} {mode : ExecMode} {ns name : String}

section Lookups

variable {α : Type} {P : α → Prop} {f : α → Call Cluster Unit}

theorem checks_found (kind : ObjectKind) (name : String) {x? : Option α}
    (h : ∀ x, x? = some x → Stateful.Checks (f x) c (P x)) :
    Stateful.Checks (found kind name x? >>= f) c (∃ x, x? = some x ∧ P x) := by
  cases x? with
  | none => exact (Stateful.Checks.throw (notFound kind name) c).congr (by simp)
  | some x => exact (h x rfl).congr (by simp)

end Lookups

theorem checks_getNamespace {P : Labels → Prop} {f : Labels → Call Cluster Unit}
    (h : ∀ labels, c.namespaces.get? ns = some labels → Stateful.Checks (f labels) c (P labels)) :
    Stateful.Checks ((client mode).getNamespace ns >>= f) c
      (∃ labels, c.namespaces.get? ns = some labels ∧ P labels) :=
  checks_found .ns ns h

theorem checks_getPod {P : PodObject → Prop} {f : PodObject → Call Cluster Unit}
    (h : ∀ o, c.pods.get? ⟨ns, name⟩ = some o → Stateful.Checks (f o) c (P o)) :
    Stateful.Checks ((client mode).getPod ns name >>= f) c
      (∃ o, c.pods.get? ⟨ns, name⟩ = some o ∧ P o) :=
  checks_found .pod (NamePair.mk ns name).text h

theorem checks_getService : Stateful.Checks (discard ((client mode).getService ns name)) c
    (c.services.contains ⟨ns, name⟩ = true) := by
  have hget : Stateful.Checks ((client mode).getService ns name >>= fun _ => pure ()) c
      (∃ s, c.services.get? ⟨ns, name⟩ = some s ∧ True) :=
    checks_found .service (NamePair.mk ns name).text fun _ _ => .pure c
  exact hget.congr (by simp [SortedMap.contains_iff])

/-- What verification looks for. -/
structure Meets (c : Cluster) (r : Resources) : Prop where
  namespaces : ∀ ns labels, r.namespaces.get? ns = some labels →
    c.namespaces.get? ns = some (withNameLabel ns labels)
  pods : ∀ p ∈ r.pods, ∃ o, c.pods.get? p.names = some o ∧ o.labelMap = p.labels ∧
    (p.ip = "" ∨ o.ipText?.getD "" = p.ip) ∧ c.services.contains ⟨p.ns, p.service⟩ = true

end Cluster

namespace Resources

open Cluster (client)

variable {c c' : Cluster} {r : Resources} {p : Pod} {ns : String} {labels : Labels}

theorem checks_verifyNamespace (mode : ExecMode) (c : Cluster) (ns : String) (labels : Labels) :
    Stateful.Checks (verifyNamespace (client mode) ns labels) c
      (c.namespaces.get? ns = some (withNameLabel ns labels)) := by
  refine (Cluster.checks_getNamespace (P := (· = withNameLabel ns labels))
    fun actual _ => ?_).congr (by simp)
  simp only []
  split
  · next hne => exact (Stateful.Checks.throw _ c).congr (by simp [hne])
  · next heq => exact (Stateful.Checks.pure c).congr (by simpa using heq)

theorem checks_verifyPod (mode : ExecMode) (c : Cluster) (p : Pod) :
    Stateful.Checks (verifyPod (client mode) p) c
      (∃ o, c.pods.get? p.names = some o ∧ o.labelMap = p.labels ∧
        (p.ip = "" ∨ o.ipText?.getD "" = p.ip) ∧
        c.services.contains ⟨p.ns, p.service⟩ = true) := by
  refine Cluster.checks_getPod fun o _ => ?_
  simp only []
  split
  · next hlabels =>
    exact ((Stateful.Checks.throw _ c).seq (Q := True) False.elim).congr (by simp [hlabels])
  · next hlabels =>
    rw [not_ne_iff] at hlabels
    split
    · next hip =>
      rw [Bool.and_eq_true, Bool.not_eq_true', String.isEmpty_eq_false_iff, bne_iff_ne] at hip
      exact ((Stateful.Checks.throw _ c).seq (Q := True) False.elim).congr (by simp [hip])
    · next hip =>
      have hfound : p.ip = "" ∨ o.ipText?.getD "" = p.ip := by
        rw [← String.isEmpty_iff]
        grind
      exact Cluster.checks_getService.congr (by simp [hlabels, hfound])

/-- Verification changes nothing, and succeeds exactly on the clusters that meet the model. -/
theorem checks_verify (mode : ExecMode) (c : Cluster) (r : Resources) :
    Stateful.Checks (verify (client mode) r) c (c.Meets r) := by
  have hnamespaces : Stateful.Checks
      (r.namespaces.entries.forM fun e => verifyNamespace (client mode) e.1 e.2) c
      (∀ e ∈ r.namespaces.entries, c.namespaces.get? e.1 = some (withNameLabel e.1 e.2)) :=
    .forM fun e _ => checks_verifyNamespace mode c e.1 e.2
  have hpods := Stateful.Checks.forM fun p (_ : p ∈ r.pods) => checks_verifyPod mode c p
  refine (hnamespaces.seq fun _ => hpods).congr ?_
  constructor
  · intro h
    obtain ⟨hnamespaces, hpods⟩ := h
    exact ⟨fun ns labels hlabels =>
      hnamespaces (ns, labels) (SortedMap.get?_eq_some_iff.mp hlabels), hpods⟩
  · intro h
    exact ⟨fun e he => h.namespaces e.1 e.2 (SortedMap.get?_eq_some_iff.mpr he), h.pods⟩

end Resources

def JobDestination.inside : JobDestination → List (Pod × Labels)
  | .pod p nsLabels => [(p, nsLabels)]
  | .external _ => []

/-- The pods between which a job checks, with the labels that it carries for their namespaces. -/
def Job.ends (j : Job) : List (Pod × Labels) :=
  (j.source.pod, j.source.nsLabels) :: j.destination.inside

theorem Resources.mem_ends {r : Resources} {config : ProbeConfig} {res : PortResolution} {j : Job}
    (hj : j ∈ (r.jobs config).bucket res) {e : Pod × Labels} (he : e ∈ j.ends) :
    e.1 ∈ r.pods ∧ e.2 = r.nsLabels e.1.ns := by
  obtain ⟨round, -, hplans⟩ := mem_jobs.mp hj
  obtain ⟨p, hp, hsource⟩ := hplans.source
  obtain ⟨hpod, hlabels, -⟩ := jobSource?_eq_some hsource
  rcases List.mem_cons.mp he with rfl | he
  · exact ⟨hpod ▸ hp, by rw [hlabels, hpod]⟩
  · have hanswers := hplans.answers
    cases hd : j.destination with
    | external ip => simp [hd, JobDestination.inside] at he
    | pod q nsLabels =>
      rw [hd] at he hanswers
      obtain ⟨hq, hnsLabels, -⟩ := hanswers
      rw [List.mem_singleton.mp he]
      exact ⟨hq, hnsLabels⟩

namespace Cluster

variable {c c' : Cluster} {r : Resources} {p : Pod} {ns : String}

/-- A namespace of a verified model has the labels of the model, and its name. -/
theorem Meets.nsLabels_eq (h : c.Meets r) (hns : r.namespaces.contains ns = true) :
    c.nsLabels ns = withNameLabel ns (r.nsLabels ns) := by
  obtain ⟨labels, hlabels⟩ := SortedMap.contains_iff.mp hns
  simp [nsLabels, Resources.nsLabels, hlabels, h.namespaces ns labels hlabels]

theorem Meets.nsLabels_eq_iff (h : c.Meets r) (hc : c.Consistent)
    (hns : c.namespaces.contains ns = true) :
    c.nsLabels ns = r.nsLabels ns ↔ (r.nsLabels ns).get? nameLabel = some ns := by
  have hnamed : (c.nsLabels ns).get? nameLabel = some ns := by
    obtain ⟨labels, hlabels⟩ := SortedMap.contains_iff.mp hns
    simpa [nsLabels, hlabels] using hc.named ns labels hlabels
  constructor
  · intro heq
    rw [← heq, hnamed]
  · intro hname
    cases hmodel : r.namespaces.contains ns with
    | true => rw [h.nsLabels_eq hmodel, withNameLabel_eq_self hname]
    | false =>
      rw [Resources.nsLabels, SortedMap.get?_of_contains_eq_false hmodel] at hname
      cases hname

theorem Reached.deploy (hc : c.Reached) (mode : ExecMode) (image : String) (r : Resources) :
    Reached ((r.deploy (client mode) image).run.run c).2 :=
  (Resources.keeps_deploy (Reached.keeps mode)
    ⟨fun _ _ => trivial, fun _ _ => trivial, fun _ _ => trivial⟩ c hc).1

/-- What the cluster knows of the pods between which a job of a verified model checks: it holds them
with the labels of the job, and evaluates their connections by the same namespace labels just where
the job has the name label among them. -/
theorem Reached.verified_ends (hc : c.Reached) {mode : ExecMode}
    (hverify : (r.verify (client mode)).run.run c = (.ok (), c')) {config : ProbeConfig}
    {res : PortResolution} {j : Job} (hj : j ∈ (r.jobs config).bucket res) {e : Pod × Labels}
    (he : e ∈ j.ends) :
    ∃ o, c.pods.get? e.1.names = some o ∧ o.labelMap = e.1.labels ∧
      (r.namespaces.contains e.1.ns = true → c.nsLabels e.1.ns = withNameLabel e.1.ns e.2) ∧
      ((c.endpoint o).pod = (e.1.endpoint e.2).pod ↔ e.2.get? nameLabel = some e.1.ns) := by
  obtain ⟨-, hmeets⟩ := (Resources.checks_verify mode c r).run_eq_ok_iff.mp hverify
  obtain ⟨hp, hlabels⟩ := Resources.mem_ends hj he
  obtain ⟨o, ho, hpod, -⟩ := hmeets.pods e.1 hp
  obtain ⟨hhoused, hkey⟩ := hc.consistent.pods _ o ho
  have hns : c.namespaces.contains e.1.ns = true := hhoused
  have hname : o.ns.getD "" = e.1.ns := congrArg NamePair.first hkey
  refine ⟨o, ho, hpod, fun hmodel => by rw [hlabels, hmeets.nsLabels_eq hmodel], ?_⟩
  rw [hlabels, ← hmeets.nsLabels_eq_iff hc.consistent hns]
  simp [endpoint, Pod.endpoint, hname, hpod]

/-- One namespace of the model has its name label, the other does not. -/
theorem Reached.verified_ends_of_one_unnamed :
    let a : Pod := { ns := "x", name := "a", labels := podLabels "a",
                     containers := [.serving 80 .tcp] }
    let b : Pod := { ns := "y", name := "b", labels := podLabels "b",
                     containers := [.serving 80 .tcp] }
    let r : Resources :=
      { namespaces := .ofList [("x", defaultNamespaceLabels "x"), ("y", .empty)], pods := [a, b] }
    let c : Cluster := ((r.deploy (client .enforce) defaultImage).run.run {}).2
    ∃ j ∈ (r.jobs .allAvailable).bucket .valid, ∃ o o',
      c.pods.get? ⟨"x", "a"⟩ = some o ∧ (c.endpoint o).pod = j.traffic.source.pod ∧
      c.pods.get? ⟨"y", "b"⟩ = some o' ∧ (c.endpoint o').pod ≠ j.traffic.destination.pod := by
  intro a b r c
  let j : Job := ⟨⟨a, defaultNamespaceLabels "x", "cont-80-tcp"⟩, .pod b .empty,
    ⟨80, some "serve-80-tcp", .tcp⟩, "80/TCP"⟩
  have hc : Reached c := Reached.start.deploy .enforce defaultImage r
  obtain ⟨_, c', hverify, -⟩ := Stateful.exists_run_of_any
    (x := r.verify (client .enforce)) (s := c) (p := fun _ _ => true) (by decide +kernel)
  have hj : j ∈ (r.jobs .allAvailable).bucket .valid := by decide +kernel
  obtain ⟨o, ho, -, -, hsource⟩ :=
    hc.verified_ends hverify hj (e := (a, defaultNamespaceLabels "x")) (by simp [Job.ends, j])
  obtain ⟨o', ho', -, -, hdestination⟩ :=
    hc.verified_ends hverify hj (e := (b, .empty)) (by simp [Job.ends, j, JobDestination.inside])
  exact ⟨j, hj, o, o', ho, hsource.mpr (by decide), ho', fun heq => nomatch hdestination.mp heq⟩

/-- Verified, a model without name labels denies what its cluster allows. -/
theorem Reached.verified_unnamed :
    let a : Pod := { ns := "x", name := "a", labels := podLabels "a",
                     containers := [.serving 80 .tcp] }
    let r : Resources := { namespaces := .ofList [("x", .empty)], pods := [a] }
    let web : NetworkPolicy :=
      ⟨{ ns := some "x", name := some "web" }, some {
          ingress := some [{ peers := some [{
            namespaceSelector := some { matchLabels := some (.ofList [(nameLabel, "x")]) } }] }]
          policyTypes := some ["Ingress"] }⟩
    let c : Cluster := (((Request.createPolicy web).send (client .enforce)).run.run
      ((r.deploy (client .enforce) defaultImage).run.run {}).2).2
    Reached c ∧ ((r.verify (client .enforce)).run.run c).1 = .ok () ∧
      ∃ j ∈ (r.jobs .allAvailable).bucket .valid, ∃ o policy,
        c.pods.get? j.source.pod.names = some o ∧
        (c.endpoint o).pod ≠ (j.source.pod.endpoint j.source.nsLabels).pod ∧
        c.connect o j.target = .ok true ∧
        Policy.compile c.policies.values = .ok policy ∧
        (policy.verdict j.traffic).isAllowed = false := by
  intro a r web c
  let j : Job := ⟨⟨a, .empty, "cont-80-tcp"⟩, .pod a .empty,
    ⟨80, some "serve-80-tcp", .tcp⟩, "80/TCP"⟩
  have hc : Reached c := .call .enforce _ (Reached.start.deploy .enforce defaultImage r)
  obtain ⟨_, hverify, -⟩ := Fallible.exists_ok_of_any
    (x := ((r.verify (client .enforce)).run.run c).1) (p := fun _ => true) (by decide +kernel)
  have hj : j ∈ (r.jobs .allAvailable).bucket .valid := by decide +kernel
  obtain ⟨o, ho, hends⟩ : ∃ o, c.pods.get? ⟨"x", "a"⟩ = some o ∧
      ((c.endpoint o).pod != j.traffic.source.pod &&
        (c.connect o j.target).toOption.any fun allowed => allowed) = true :=
    (Option.any_eq_true _ _).mp (by decide +kernel)
  obtain ⟨hother, hconnect⟩ := Bool.and_eq_true_iff.mp hends
  obtain ⟨_, hallowed, rfl⟩ := Fallible.exists_ok_of_any hconnect
  obtain ⟨policy, hpolicy, hdenied⟩ := Fallible.exists_ok_of_any
    (x := Policy.compile c.policies.values)
    (p := fun policy => !(policy.verdict j.traffic).isAllowed) (by decide +kernel)
  exact ⟨hc, hverify, j, hj, o, policy, ho, bne_iff_ne.mp hother, hallowed, hpolicy,
    by simpa using hdenied⟩

end Cluster
end PodTraffic
