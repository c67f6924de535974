import PodTraffic.Proofs.Job

/-!
# Jobs are sorted by what the destination serves

A destination serves a port if one of its containers carries the number or the name on the protocol
that is asked for. Numbers are always sorted by that. A name is looked up without its protocol, so a
container can be hidden by an earlier one that carries the same name on another protocol; where no
name stands for two protocols, none is hidden.
-/
namespace PodTraffic

/-- The container has the port, on whatever protocol. -/
def Container.Carries (c : Container) : PortValue → Prop
  | .number n => c.port = n
  | .name s => c.portName = some s

instance (c : Container) : (port : PortValue) → Decidable (c.Carries port)
  | .number n => inferInstanceAs (Decidable (c.port = n))
  | .name s => inferInstanceAs (Decidable (c.portName = some s))

namespace Pod

def Serves (p : Pod) (port : PortValue) (protocol : Protocol) : Prop :=
  ∃ c ∈ p.containers, c.Carries port ∧ c.protocol = protocol

instance (p : Pod) (port : PortValue) (protocol : Protocol) : Decidable (p.Serves port protocol) :=
  inferInstanceAs (Decidable (∃ c ∈ p.containers, c.Carries port ∧ c.protocol = protocol))

/-- The port is a name that no container carries. -/
def Lacks (p : Pod) (port : PortValue) : Prop :=
  ∃ s, port = .name s ∧ ∀ c ∈ p.containers, c.portName ≠ some s

/-- The port is a name that the protocol has, but not in the first container that carries it. -/
def Hides (p : Pod) (port : PortValue) (protocol : Protocol) : Prop :=
  ∃ s before first after, port = .name s ∧ p.containers = before ++ first :: after ∧
    (∀ c ∈ before, c.portName ≠ some s) ∧ first.portName = some s ∧ first.protocol ≠ protocol ∧
    ∃ c ∈ after, c.portName = some s ∧ c.protocol = protocol

/-- No name stands for two protocols. -/
def TellsProtocols (p : Pod) : Prop :=
  ∀ c ∈ p.containers, ∀ c' ∈ p.containers, c.portName ≠ none → c.portName = c'.portName →
    c.protocol = c'.protocol

instance (p : Pod) : Decidable p.TellsProtocols :=
  inferInstanceAs (Decidable (∀ c ∈ p.containers, ∀ c' ∈ p.containers, c.portName ≠ none →
    c.portName = c'.portName → c.protocol = c'.protocol))

variable {p : Pod} {port : PortValue} {protocol : Protocol} {s : String} {n : Nat}
  {c first : Container}

theorem named?_eq_some_iff : p.named? s = some first ↔ ∃ before after,
    p.containers = before ++ first :: after ∧ (∀ c ∈ before, c.portName ≠ some s) ∧
      first.portName = some s := by
  rw [named?, List.find?_eq_some_iff_append]
  simp only [beq_iff_eq, Bool.not_eq_true', beq_eq_false_iff_ne]
  constructor
  · intro h
    obtain ⟨hfirst, before, after, hcontainers, hbefore⟩ := h
    exact ⟨before, after, hcontainers, hbefore, hfirst⟩
  · intro h
    obtain ⟨before, after, hcontainers, hbefore, hfirst⟩ := h
    exact ⟨hfirst, before, after, hcontainers, hbefore⟩

theorem named?_eq_none_iff : p.named? s = none ↔ p.Lacks (.name s) := by
  simp [named?, Lacks, List.find?_eq_none]

theorem mem_of_named? (h : p.named? s = some first) :
    first ∈ p.containers ∧ first.portName = some s :=
  ⟨List.mem_of_find?_eq_some h, by simpa using List.find?_some h⟩

theorem mem_of_numbered? (h : p.numbered? n protocol = some c) :
    c ∈ p.containers ∧ c.port = n ∧ c.protocol = protocol :=
  ⟨List.mem_of_find?_eq_some h, by simpa using List.find?_some h⟩

theorem numbered?_eq_none_iff :
    p.numbered? n protocol = none ↔ ¬ p.Serves (.number n) protocol := by
  simp [numbered?, Serves, Container.Carries, List.find?_eq_none]

theorem Hides.serves (h : p.Hides port protocol) : p.Serves port protocol := by
  obtain ⟨s, before, first, after, rfl, hcontainers, -, -, -, c, hc, hname, hprotocol⟩ := h
  refine ⟨c, ?_, hname, hprotocol⟩
  rw [hcontainers]
  exact List.mem_append_right before (.tail first hc)

/-- A container stands behind the first that carries its name, if it is not that one. -/
theorem hides_of_named? (h : p.named? s = some first) (hc : c ∈ p.containers)
    (hname : c.portName = some s) (hprotocol : first.protocol ≠ c.protocol) :
    p.Hides (.name s) c.protocol := by
  obtain ⟨before, after, hcontainers, hbefore, hfirst⟩ := named?_eq_some_iff.mp h
  refine ⟨s, before, first, after, rfl, hcontainers, hbefore, hfirst, hprotocol, c, ?_, hname, rfl⟩
  rw [hcontainers] at hc
  rcases List.mem_append.mp hc with hc | hc
  · exact absurd hname (hbefore c hc)
  · exact (List.mem_cons.mp hc).resolve_left fun heq => hprotocol (by rw [heq])

theorem protocol_ne_of_hides (hh : p.Hides (.name s) protocol) (h : p.named? s = some first) :
    first.protocol ≠ protocol := by
  obtain ⟨_, before, first', after, heq, hcontainers, hbefore, hfirst, hprotocol, -⟩ := hh
  cases heq
  rw [named?_eq_some_iff.mpr ⟨before, after, hcontainers, hbefore, hfirst⟩] at h
  cases h
  exact hprotocol

/-- Containers are hidden only where a name stands for two protocols. -/
theorem forall_not_hides_iff :
    (∀ port protocol, ¬ p.Hides port protocol) ↔ p.TellsProtocols := by
  constructor
  · intro h c hc c' hc' hnamed heq
    obtain ⟨s, hs⟩ := Option.ne_none_iff_exists'.mp hnamed
    have hfound : p.named? s ≠ none := by
      intro hnone
      obtain ⟨_, heq, hlacks⟩ := named?_eq_none_iff.mp hnone
      cases heq
      exact hlacks c hc hs
    obtain ⟨first, hfirst⟩ := Option.ne_none_iff_exists'.mp hfound
    have hall : ∀ k ∈ p.containers, k.portName = some s → first.protocol = k.protocol := by
      intro k hk hname
      by_contra hne
      exact h _ _ (hides_of_named? hfirst hk hname hne)
    exact (hall c hc hs).symm.trans (hall c' hc' (heq.symm.trans hs))
  · intro h port protocol hhides
    obtain ⟨s, before, first, after, -, hcontainers, -, hfirst, hne, c, hc, hname, rfl⟩ := hhides
    have hmem : first ∈ p.containers ∧ c ∈ p.containers := by
      rw [hcontainers]
      exact ⟨List.mem_append_right before List.mem_cons_self,
        List.mem_append_right before (.tail first hc)⟩
    exact hne (h first hmem.1 c hmem.2 (by simp [hfirst]) (hfirst.trans hname.symm))

theorem resolve_eq_valid_iff :
    (p.resolve port protocol).1 = .valid ↔ p.Serves port protocol ∧ ¬ p.Hides port protocol := by
  cases port with
  | number n =>
    have hhides : ¬ p.Hides (.number n) protocol := by
      rintro ⟨_, _, _, _, heq, -⟩
      cases heq
    cases h : p.numbered? n protocol with
    | none => simp [resolve, h, numbered?_eq_none_iff.mp h]
    | some c =>
      have hserves : p.Serves (.number n) protocol := ⟨c, mem_of_numbered? h⟩
      simp [resolve, h, hserves, hhides]
  | name s =>
    cases h : p.named? s with
    | none =>
      obtain ⟨_, heq, hlacks⟩ := named?_eq_none_iff.mp h
      cases heq
      have hserves : ¬ p.Serves (.name s) protocol :=
        fun ⟨c, hc, hname, _⟩ => hlacks c hc hname
      simp [resolve, h, hserves]
    | some first =>
      have hvalid : (p.resolve (.name s) protocol).1 = .valid ↔ first.protocol = protocol := by
        simp [resolve, h]
      obtain ⟨hmem, hname⟩ := mem_of_named? h
      rw [hvalid]
      constructor
      · intro hprotocol
        exact ⟨⟨first, hmem, hname, hprotocol⟩, fun hh => protocol_ne_of_hides hh h hprotocol⟩
      · intro hserves
        obtain ⟨⟨c, hc, hcname, rfl⟩, hshown⟩ := hserves
        by_contra hne
        exact hshown (hides_of_named? h hc hcname hne)

theorem resolve_eq_badNamedPort_iff :
    (p.resolve port protocol).1 = .badNamedPort ↔ p.Lacks port := by
  cases port with
  | number n =>
    have hlacks : ¬ p.Lacks (.number n) := by
      rintro ⟨_, heq, -⟩
      cases heq
    cases h : p.numbered? n protocol <;> simp [resolve, h, hlacks]
  | name s =>
    rw [← named?_eq_none_iff]
    cases h : p.named? s with
    | none => simp [resolve, h]
    | some first =>
      simp only [resolve, h, reduceCtorEq, iff_false]
      split <;> simp

/-- A valid answer is the port of a container that matches the request. -/
theorem exists_container_of_resolve (h : (p.resolve port protocol).1 = .valid) :
    ∃ c ∈ p.containers, c.Carries port ∧ c.protocol = protocol ∧
      (p.resolve port protocol).2 = ⟨c.port, c.portName, c.protocol⟩ := by
  cases port with
  | number n =>
    cases hc : p.numbered? n protocol with
    | none => simp [resolve, hc] at h
    | some c =>
      obtain ⟨hmem, rfl, rfl⟩ := mem_of_numbered? hc
      exact ⟨c, hmem, rfl, rfl, by simp [resolve, hc]⟩
  | name s =>
    cases hc : p.named? s with
    | none => simp [resolve, hc] at h
    | some first =>
      obtain ⟨hmem, hname⟩ := mem_of_named? hc
      have hprotocol : first.protocol = protocol := by simpa [resolve, hc] using h
      exact ⟨first, hmem, hname, hprotocol, by simp [resolve, hc, hname, hprotocol]⟩

end Pod

namespace Resources

/-- The job is planned, in whichever bucket, from the first pod to the second. -/
def Connects (r : Resources) (port : PortValue) (protocol : Protocol) (p t : Pod) (j : Job) :
    Prop :=
  (∃ res, j ∈ (r.jobsForPort port protocol).bucket res) ∧ j.source.pod = p ∧
    ∃ nsLabels, j.destination = .pod t nsLabels

/-- The job is valid just if the port counts as served, and otherwise in the bucket that tells
whether it is a name that the destination lacks. -/
structure SortsBy (r : Resources) (port : PortValue) (protocol : Protocol) (t : Pod)
    (served : Prop) (j : Job) : Prop where
  valid : j ∈ (r.jobsForPort port protocol).valid ↔ served
  badNamedPort : j ∈ (r.jobsForPort port protocol).badNamedPort ↔ t.Lacks port
  badPortProtocol : j ∈ (r.jobsForPort port protocol).badPortProtocol ↔ ¬ served ∧ ¬ t.Lacks port
  resolved : j ∈ (r.jobsForPort port protocol).valid → ∃ c ∈ t.containers, c.Carries port ∧
    c.protocol = protocol ∧ j.port = ⟨c.port, c.portName, c.protocol⟩

variable {r : Resources} {port : PortValue} {protocol : Protocol} {p t : Pod} {j : Job}

theorem SortsBy.congr {served served' : Prop} (h : r.SortsBy port protocol t served j)
    (hserved : served ↔ served') : r.SortsBy port protocol t served' j where
  valid := h.valid.trans hserved
  badNamedPort := h.badNamedPort
  badPortProtocol := by rw [h.badPortProtocol, hserved]
  resolved := h.resolved

/-- The job of two pods, the first of which has a container to run it. -/
def jobTo (r : Resources) (port : PortValue) (protocol : Protocol) (source : JobSource) (t : Pod) :
    Job :=
  ⟨source, .pod t (r.nsLabels t.ns), (t.resolve port protocol).2, probeKey port protocol⟩

theorem jobTo_mem_bucket_iff {source : JobSource} (hp : p ∈ r.pods) (ht : t ∈ r.pods)
    (hsource : r.jobSource? p protocol = some source) {res : PortResolution} :
    r.jobTo port protocol source t ∈ (r.jobsForPort port protocol).bucket res ↔
      (t.resolve port protocol).1 = res := by
  rw [mem_jobsForPort]
  constructor
  · intro h
    obtain ⟨-, -, hresolve⟩ := h.answers
    exact congrArg Prod.fst hresolve
  · rintro rfl
    exact ⟨⟨p, hp, hsource⟩, ⟨ht, rfl, rfl⟩, rfl⟩

theorem connects_iff {source : JobSource} (hp : p ∈ r.pods) (ht : t ∈ r.pods)
    (hsource : r.jobSource? p protocol = some source) :
    r.Connects port protocol p t j ↔ j = r.jobTo port protocol source t := by
  constructor
  · intro h
    obtain ⟨⟨res, hj⟩, hfrom, nsLabels, hto⟩ := h
    have hplans := mem_jobsForPort.mp hj
    obtain ⟨p', -, hsource'⟩ := hplans.source
    obtain rfl : p' = p := (jobSource?_eq_some hsource').1.symm.trans hfrom
    have hanswers := hplans.answers
    rw [hto] at hanswers
    obtain ⟨-, rfl, hresolve⟩ := hanswers
    rw [hsource] at hsource'
    cases j
    rw [jobTo, Job.mk.injEq]
    exact ⟨(Option.some.inj hsource').symm, hto, (congrArg Prod.snd hresolve).symm, hplans.key⟩
  · rintro rfl
    exact ⟨⟨_, (jobTo_mem_bucket_iff hp ht hsource).mpr rfl⟩, (jobSource?_eq_some hsource).1,
      _, rfl⟩

/-- From a pod with a container there is one job to each pod. -/
theorem exists_sorted_job (hp : p ∈ r.pods) (hcontainers : p.containers ≠ []) (ht : t ∈ r.pods)
    (port : PortValue) (protocol : Protocol) :
    ∃ j, (∀ j', r.Connects port protocol p t j' ↔ j' = j) ∧
      r.SortsBy port protocol t (t.Serves port protocol ∧ ¬ t.Hides port protocol) j := by
  have hruns : r.jobSource? p protocol ≠ none := mt jobSource?_eq_none_iff.mp hcontainers
  obtain ⟨source, hsource⟩ := Option.ne_none_iff_exists'.mp hruns
  have hbucket : ∀ res, r.jobTo port protocol source t ∈ (r.jobsForPort port protocol).bucket res ↔
      (t.resolve port protocol).1 = res := fun _ => jobTo_mem_bucket_iff hp ht hsource
  have hvalid := (hbucket .valid).trans Pod.resolve_eq_valid_iff
  have hnamed := (hbucket .badNamedPort).trans Pod.resolve_eq_badNamedPort_iff
  refine ⟨_, fun j' => connects_iff hp ht hsource, hvalid, hnamed, ?_, fun hj => ?_⟩
  · refine (hbucket .badPortProtocol).trans ?_
    rw [← Pod.resolve_eq_valid_iff, ← Pod.resolve_eq_badNamedPort_iff]
    cases (t.resolve port protocol).1 <;> decide
  · exact Pod.exists_container_of_resolve ((hbucket .valid).mp hj)

/-- Every pair of pods of which the first has a container has one job for a port. It is valid just
if the second pod serves the port and does not hide it, among the bad named ports just if the port
is a name that the second pod lacks, and with the bad protocols otherwise; if it is valid, its port
is that of a container that matches the request. Serving alone decides for all pairs and all ports
just if no pod of the model has a name for two protocols. -/
theorem jobs_sorted_by_service (r : Resources) :
    (∀ port protocol, ∀ p ∈ r.pods, p.containers ≠ [] → ∀ t ∈ r.pods,
      ∃ j, (∀ j', r.Connects port protocol p t j' ↔ j' = j) ∧
        r.SortsBy port protocol t (t.Serves port protocol ∧ ¬ t.Hides port protocol) j) ∧
      ((∀ port protocol, ∀ p ∈ r.pods, p.containers ≠ [] → ∀ t ∈ r.pods, ∀ j,
          r.Connects port protocol p t j →
            r.SortsBy port protocol t (t.Serves port protocol) j) ↔
        ∀ t ∈ r.pods, t.TellsProtocols) := by
  refine ⟨fun port protocol p hp hcontainers t ht =>
    exists_sorted_job hp hcontainers ht port protocol, fun h t ht => ?_, ?_⟩
  · refine Pod.forall_not_hides_iff.mp fun port protocol hhides => ?_
    -- a pod that hides a container has one, so the job from the pod to itself is at hand
    obtain ⟨c, hc, -⟩ := hhides.serves
    have hcontainers := List.ne_nil_of_mem hc
    obtain ⟨j, hj, hsorts⟩ := exists_sorted_job ht hcontainers ht port protocol
    have hclaimed := h port protocol t ht hcontainers t ht j ((hj j).mpr rfl)
    exact (hsorts.valid.mp (hclaimed.valid.mpr hhides.serves)).2 hhides
  · intro h port protocol p hp hcontainers t ht j hj
    obtain ⟨j', hj', hsorts⟩ := exists_sorted_job hp hcontainers ht port protocol
    obtain rfl := (hj' j).mp hj
    exact hsorts.congr (and_iff_left (Pod.forall_not_hides_iff.mpr (h t ht) port protocol))

/-- Two protocols on one number, under two names. -/
theorem jobs_sorted_by_service_two_names :
    let client : Pod := {
      ns := "x", name := "a", labels := podLabels "a", containers := [.serving 80 .tcp] }
    let server : Pod := {
      ns := "x", name := "b", labels := podLabels "b"
      containers := [⟨"first", 53, .udp, some "dns"⟩, ⟨"second", 53, .tcp, some "dns-tcp"⟩] }
    let r : Resources := {
      namespaces := .ofList [("x", defaultNamespaceLabels "x")], pods := [client, server] }
    client ∈ r.pods ∧ client.containers ≠ [] ∧ server ∈ r.pods ∧
      (∀ t ∈ r.pods, t.TellsProtocols) ∧ server.Serves (.name "dns-tcp") .tcp ∧
      ∃ j, (∀ j', r.Connects (.name "dns-tcp") .tcp client server j' ↔ j' = j) ∧
        r.SortsBy (.name "dns-tcp") .tcp server (server.Serves (.name "dns-tcp") .tcp) j := by
  intro client server r
  have hclient : client ∈ r.pods := by simp [r]
  have hserver : server ∈ r.pods := by simp [r]
  have hcontainers : client.containers ≠ [] := by simp [client]
  have htells : ∀ t ∈ r.pods, t.TellsProtocols := by decide
  obtain ⟨hsorted, hclaimed⟩ := jobs_sorted_by_service r
  obtain ⟨j, hj, -⟩ := hsorted (.name "dns-tcp") .tcp client hclient hcontainers server hserver
  exact ⟨hclient, hcontainers, hserver, htells, by decide, j, hj,
    hclaimed.mpr htells _ _ client hclient hcontainers server hserver j ((hj j).mpr rfl)⟩

/-- The second of two containers that carry one name is not found, and the job of the port that it
serves is not run. -/
theorem not_valid_of_hidden_name :
    let p : Pod := {
      ns := "x", name := "a", labels := podLabels "a"
      containers := [⟨"first", 53, .udp, some "dns"⟩, ⟨"second", 53, .tcp, some "dns"⟩] }
    let r : Resources := {
      namespaces := .ofList [("x", defaultNamespaceLabels "x")], pods := [p] }
    p.Serves (.name "dns") .tcp ∧ ∃ j, r.Connects (.name "dns") .tcp p p j ∧
      j ∉ (r.jobsForPort (.name "dns") .tcp).valid ∧
      j ∈ (r.jobsForPort (.name "dns") .tcp).badPortProtocol := by
  intro p r
  refine ⟨by decide, ⟨⟨p, r.nsLabels "x", "second"⟩, .pod p (r.nsLabels "x"),
    ⟨53, some "dns", .tcp⟩, "dns/TCP"⟩, ⟨⟨.badPortProtocol, ?_⟩, rfl, _, rfl⟩, ?_, ?_⟩
  · decide
  · decide
  · decide

end Resources
end PodTraffic
