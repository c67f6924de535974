import PodTraffic.Proofs.Cluster.Mirror
import PodTraffic.Proofs.Trial.Reset

/-!
# Pods keep the containers that were deployed

A pod that a trial creates serves every port that some pod of the model serves then. If some pod
does, that is every port that was deployed; if none does, the new pod has no containers. A reset
leaves the pods that it finds under deployed names as they are but for their labels, so deployed
pods have their containers before every trial as long as none was created while nothing was served.
-/
namespace PodTraffic

/-- The pod stands under its names and runs, with the containers of the list in any order and
number. -/
structure PodObject.Serves (o : PodObject) (key : NamePair) (image : String)
    (served : List Container) : Prop extends o.Running key where
  holds : ∃ ks : List Container, o.containers = some (ks.map (·.object image)) ∧
    ∀ k, k ∈ ks ↔ k ∈ served

/-- A pod with the names of a deployed one is created only while some port is served, if any port
was deployed. -/
def Action.Supplied (deployed : Resources) (t : TrialState) : Action → Prop
  | .createPod ns name _ => (∃ p ∈ deployed.pods, p.names = ⟨ns, name⟩) →
    deployed.servedPorts ≠ [] → t.resources.servedPorts ≠ []
  | _ => True

namespace Container

variable {ks ks' : List Container}

/-- The first container that serves a port, among containers named for what they serve. -/
theorem find?_serving (h : ∀ k ∈ ks, k = .serving k.port k.protocol) (n : Nat)
    (protocol : Protocol) :
    (ks.find? fun k => k.port == n && k.protocol == protocol) =
      if Container.serving n protocol ∈ ks then some (.serving n protocol) else none := by
  split
  · next hmem =>
    have hsome : (ks.find? fun k => k.port == n && k.protocol == protocol).isSome = true :=
      List.find?_isSome.mpr ⟨_, hmem, by simp [serving]⟩
    obtain ⟨k, hk⟩ := Option.isSome_iff_exists.mp hsome
    have hfound := List.find?_some hk
    simp only [Bool.and_eq_true, beq_iff_eq] at hfound
    rw [hk, h k (List.mem_of_find?_eq_some hk), hfound.1, hfound.2]
  · next hmem =>
    refine List.find?_eq_none.mpr fun k hk hfound => hmem ?_
    simp only [Bool.and_eq_true, beq_iff_eq] at hfound
    rw [← hfound.1, ← hfound.2, ← h k hk]
    exact hk

end Container

namespace Resources

variable {r r' base : Resources} {k : Container}

theorem mem_newContainers :
    k ∈ r.newContainers ↔ ∃ p ∈ r.pods, ∃ k' ∈ p.containers, k = .serving k'.port k'.protocol := by
  simp only [newContainers, servedPorts, List.mem_map, Ordered.mem_distinct, List.mem_flatMap]
  constructor
  · rintro ⟨_, ⟨p, hp, k', hk', rfl⟩, rfl⟩
    exact ⟨p, hp, k', hk', rfl⟩
  · rintro ⟨p, hp, k', hk', rfl⟩
    exact ⟨k'.served, ⟨p, hp, k', hk', rfl⟩, rfl⟩

theorem eq_serving_of_mem_newContainers (hk : k ∈ r.newContainers) :
    k = .serving k.port k.protocol := by
  obtain ⟨p, -, k', -, rfl⟩ := mem_newContainers.mp hk
  rfl

theorem servedPorts_ne_nil_iff :
    r.servedPorts ≠ [] ↔ ∃ p ∈ r.pods, ∃ k, k ∈ p.containers := by
  rw [servedPorts, Ne, Ordered.distinct_eq_nil_iff, List.flatMap_eq_nil_iff]
  simp [List.eq_nil_iff_forall_not_mem]

/-- The pods of a model to deploy have the containers that they would give a new pod. -/
theorem mem_containers_default {namespaces pods : List String} {ports : List Nat}
    {protocols : List Protocol} {externalIps : List String}
    (h : Resources.default namespaces pods ports protocols externalIps = .ok r) {p : Pod}
    (hp : p ∈ r.pods) : k ∈ p.containers ↔ k ∈ r.newContainers := by
  have hserving : ∀ q ∈ r.pods, ∀ k ∈ q.containers, k = .serving k.port k.protocol := by
    intro q hq k hk
    rw [(mem_default h hq).2.2] at hk
    obtain ⟨port, -, hk⟩ := List.mem_flatMap.mp hk
    obtain ⟨protocol, -, rfl⟩ := List.mem_map.mp hk
    rfl
  rw [mem_newContainers]
  constructor
  · exact fun hk => ⟨p, hp, k, hk, hserving p hp k hk⟩
  · rintro ⟨q, hq, k', hk', rfl⟩
    rw [← hserving q hq k' hk', (mem_default h hp).2.2, ← (mem_default h hq).2.2]
    exact hk'

/-- Addresses do not matter to what is served. -/
theorem servedPorts_of_withoutIps_eq (h : r'.withoutIps = r.withoutIps) :
    r'.servedPorts = r.servedPorts := by
  have hserved : r'.pods.map (fun p => p.containers.map (·.served)) =
      r.pods.map fun p => p.containers.map (·.served) :=
    map_pods_of_withoutIps_eq (fun _ => rfl) h
  rw [servedPorts, servedPorts, List.flatMap_def, List.flatMap_def, hserved]

/-- Every pod of the model serves what was deployed, or nothing. -/
def Shares (r base : Resources) : Prop :=
  ∀ p ∈ r.pods, p.containers = [] ∨ ∀ k, k ∈ p.containers ↔ k ∈ base.newContainers

/-- As long as some port is served, such a model gives a new pod what was deployed. -/
theorem Shares.mem_newContainers_iff (h : r.Shares base)
    (hserved : base.servedPorts ≠ [] → r.servedPorts ≠ []) :
    k ∈ r.newContainers ↔ k ∈ base.newContainers := by
  constructor
  · intro hk
    obtain ⟨p, hp, k', hk', rfl⟩ := mem_newContainers.mp hk
    rcases h p hp with hnone | hall
    · rw [hnone] at hk'
      cases hk'
    · have hbase := (hall k').mp hk'
      rw [← eq_serving_of_mem_newContainers hbase]
      exact hbase
  · intro hk
    obtain ⟨p, hp, k', hk', -⟩ := mem_newContainers.mp hk
    obtain ⟨q, hq, k'', hk''⟩ :=
      servedPorts_ne_nil_iff.mp (hserved (servedPorts_ne_nil_iff.mpr ⟨p, hp, k', hk'⟩))
    rcases h q hq with hnone | hall
    · rw [hnone] at hk''
      cases hk''
    · exact mem_newContainers.mpr ⟨q, hq, k, (hall k).mpr hk, eq_serving_of_mem_newContainers hk⟩

end Resources

namespace PodObject.Serves

variable {o : PodObject} {key : NamePair} {image : String} {served served' : List Container}

theorem congr (h : o.Serves key image served) (hserved : ∀ k, k ∈ served ↔ k ∈ served') :
    o.Serves key image served' := by
  obtain ⟨ks, hks, hmem⟩ := h.holds
  exact ⟨h.toRunning, ks, hks, fun k => (hmem k).trans (hserved k)⟩

theorem any_container (h : o.Serves key image served) {k : Container} (hk : k ∈ served) :
    o.containerList.any (·.name == k.name) = true := by
  obtain ⟨ks, hks, hmem⟩ := h.holds
  exact o.any_name (by rw [containerList, hks, Option.getD_some]) ((hmem k).mpr hk)

/-- A connection finds a port there if the list has it, and finds its name. -/
theorem map_servedPort?_eq (h : o.Serves key image served)
    (hserving : ∀ k ∈ served, k = .serving k.port k.protocol) (t : CommandTarget) :
    (Cluster.servedPort? o t).map (·.name) =
      (served.find? fun k => k.port == t.port && k.protocol == t.protocol).map (·.portName) := by
  obtain ⟨ks, hks, hmem⟩ := h.holds
  have hserving' : ∀ k ∈ ks, k = .serving k.port k.protocol :=
    fun k hk => hserving k ((hmem k).mp hk)
  rw [o.map_servedPort? (by rw [containerList, hks, Option.getD_some]),
    Container.find?_serving hserving', Container.find?_serving hserving]
  simp only [hmem]

end PodObject.Serves

/-- Objects of models may be created, under the names of a deployed pod only with its containers. -/
def Permit.ofSupply (image : String) (base : Resources) : Permit where
  namespaces _ := True
  pods o := ∃ p : Pod, o = p.object image ∧
    ((∃ q ∈ base.pods, q.names = p.names) → ∀ k, k ∈ p.containers ↔ k ∈ base.newContainers)
  services _ := True

namespace Cluster

variable {image : String} {base : Resources} {c c' : Cluster}

/-- What stands under the names of a deployed pod serves what was deployed. -/
def Supplies (image : String) (base : Resources) (c : Cluster) : Prop :=
  ∀ p ∈ base.pods, ∀ o, c.pods.get? p.names = some o → o.Serves p.names image base.newContainers

theorem Supplies.change (h : c.Supplies image base) (hc : Change (.ofSupply image base) c c') :
    c'.Supplies image base := by
  intro p hp o ho
  cases hc with
  | createNamespace | relabelNamespace | createPolicy | updatePolicy | dropPolicies | createService
    | dropService | count => exact h p hp o ho
  | dropNamespace ns =>
    simp only [dropNamespace, SortedMap.get?_filter, Option.filter_eq_some_iff] at ho
    exact h p hp o ho.1
  | createPod new hpermit hns hnew =>
    simp only [withPod, SortedMap.get?_insert] at ho
    split at ho
    · next hkey =>
      obtain ⟨q, rfl, hsupplied⟩ := hpermit
      have hnames : p.names = q.names := eq_of_beq hkey
      cases ho
      rw [hnames]
      exact ⟨⟨rfl, rfl, _, rfl⟩, q.containers, rfl, hsupplied ⟨p, hp, hnames⟩⟩
    · exact h p hp o ho
  | relabelPod key old labels hold =>
    simp only [withPodLabels, SortedMap.get?_insert] at ho
    split at ho
    · next hkey =>
      obtain rfl : p.names = key := eq_of_beq hkey
      cases ho
      have hserves := h p hp old hold
      exact ⟨⟨hserves.ns, hserves.name, hserves.status⟩, hserves.holds⟩
    · exact h p hp o ho
  | dropPod key =>
    simp only [withoutPod, SortedMap.get?_erase] at ho
    split at ho
    · cases ho
    · exact h p hp o ho

end Cluster

namespace Trial

variable {mode : ExecMode} {config : Config} {base : Resources} {s s' s₀ : Session Cluster}
  {t t' : TrialState} {c c' : Cluster} {a : Action} {image : String}

theorem Effect.shares (h : Effect image t c a t' c') (ht : t.resources.Shares base) :
    t'.resources.Shares base := by
  intro p hp
  cases h with
  | createPolicy | updatePolicy | deletePolicy | readPolicies => exact ht p hp
  | setPodLabels ns name labels r o hr ho =>
    obtain ⟨-, rfl⟩ := Resources.setPodLabels_eq_ok hr
    obtain ⟨q, hq, _, rfl⟩ := Resources.exists_of_mem_relabel hp
    exact ht q hq
  | setNamespaceLabels ns labels r hr hns =>
    obtain ⟨-, rfl⟩ := Resources.setNamespaceLabels_eq_ok hr
    exact ht p hp
  | createNamespace ns labels r hr =>
    obtain ⟨-, rfl⟩ := Resources.createNamespace_eq_ok hr
    exact ht p hp
  | deleteNamespace ns r hr hns =>
    obtain ⟨-, rfl⟩ := Resources.deleteNamespace_eq_ok hr
    exact ht p (List.mem_of_mem_filter hp)
  | createPod ns name labels r c' o ip hr hgains ho hip =>
    obtain ⟨q, hq, rfl⟩ := List.mem_map.mp hp
    rcases (Resources.mem_of_createPod hr).mp hq with hq | rfl
    · exact ht q hq
    · by_cases hserved : t.resources.servedPorts = []
      · exact .inl (by simp [Resources.newPod, Resources.newContainers, hserved])
      · exact .inr fun k => ht.mem_newContainers_iff fun _ => hserved
  | deletePod ns name r o s hr ho hs =>
    obtain ⟨-, rfl⟩ := Resources.deletePod_eq_ok hr
    exact ht p (List.mem_of_mem_filter hp)

/-- Trials that create deployed pods only while something is served create them as deployed. -/
theorem within_ofSupply (config : Config)
    (hserved : ∀ p ∈ base.pods, ∀ k, k ∈ p.containers ↔ k ∈ base.newContainers) :
    Within config (fun t _ a => a.Supplied base t) (.ofSupply config.cluster.image base) base
      fun t => t.resources.Shares base where
  covers := ⟨fun _ _ => trivial, fun p hp => ⟨p, rfl, fun _ => hserved p hp⟩, fun _ _ => trivial⟩
  start := by
    intro r hr p hp
    obtain ⟨q, hq, heq⟩ :=
      Resources.exists_of_withoutIps_eq (f := Pod.containers) (fun _ => rfl) hr hp
    exact .inr (heq ▸ hserved q hq)
  admits := by
    intro t c a ht ha
    cases a with
    | createPod ns name labels =>
      exact ⟨⟨_, rfl, fun hnames k => ht.mem_newContainers_iff (ha hnames)⟩, trivial⟩
    | _ => trivial
  effect _ _ _ _ _ ht _ heffect := heffect.shares ht

/-- Deployed pods have the containers that they would give a new pod. -/
theorem mem_containers_deployed {c₀ : Cluster}
    (hdeploy : deploy (Cluster.client mode) config.cluster c₀ = .ok s₀) :
    ∀ p ∈ s₀.deployed.pods, ∀ k, k ∈ p.containers ↔ k ∈ s₀.deployed.newContainers := by
  obtain ⟨base, hresources, -⟩ := deploy_eq_ok hdeploy
  have hdeployed := withoutIps_of_deploy hdeploy hresources
  intro p hp k
  obtain ⟨q, hq, heq⟩ :=
    Resources.exists_of_withoutIps_eq (f := Pod.containers) (fun _ => rfl) hdeployed hp
  rw [← heq, Resources.mem_containers_default (resources_eq_ok hresources) hq,
    Resources.newContainers, Resources.newContainers,
    Resources.servedPorts_of_withoutIps_eq hdeployed]

/-- Whatever trials did before, if they created pods with deployed names only while some port was
served, then before the next one every deployed pod runs with the containers that were deployed. So
each of its containers is found by name, and each of its ports is served, under its name. -/
theorem prepare_supplies (hreset : config.trial.resetBefore = true) {c₀ : Cluster}
    (hdeploy : deploy (Cluster.client mode) config.cluster c₀ = .ok s₀)
    (hbefore : ∀ p ∈ s₀.deployed.pods, ∀ o, c₀.pods.get? p.names = some o →
      o.Serves p.names config.cluster.image p.containers)
    (hs : Session.Reached (Cluster.client mode) config (fun t _ a => a.Supplied s₀.deployed t) s₀ s)
    {r : Resources} (hrun : (prepare (Cluster.client mode) config).run.run s = (.ok r, s')) :
    r.withoutIps = s₀.deployed.withoutIps ∧
      ∀ p ∈ r.pods, ∃ o, s'.cluster.pods.get? p.names = some o ∧
        o.Serves p.names config.cluster.image p.containers ∧
        (∀ k ∈ p.containers, o.containerList.any (·.name == k.name) = true) ∧
        ∀ target : CommandTarget, (Cluster.servedPort? o target).map (·.name) =
          (p.numbered? target.port target.protocol).map (·.portName) := by
  obtain ⟨base, hresources, -⟩ := deploy_eq_ok hdeploy
  have hdefault := resources_eq_ok hresources
  have hdeployed := withoutIps_of_deploy hdeploy hresources
  have hserved := mem_containers_deployed hdeploy
  have hw := within_ofSupply config hserved
  have hkeeps : (Cluster.client mode).Keeps (.ofSupply config.cluster.image s₀.deployed)
      (Cluster.Supplies config.cluster.image s₀.deployed) :=
    Cluster.keeps_client mode fun _ _ hc h => h.change hc
  have hc₀ : c₀.Supplies config.cluster.image s₀.deployed :=
    fun p hp o ho => (hbefore p hp o ho).congr (hserved p hp)
  have hs₀ := kept_of_deploy hkeeps hc₀ hdeploy hresources
    (hw.covers.of_withoutIps_eq hdeployed.symm)
  have hkept := kept_of_reached hkeeps hw ⟨hs₀.cluster, rfl⟩ hs
  have hprepare : Stateful.Keeps
      (Session.Kept (Cluster.Supplies config.cluster.image s₀.deployed) s₀.deployed)
      (prepare (Cluster.client mode) config) _ := keeps_prepare hkeeps hw.covers
  have hcluster := (hprepare.of_run hkept hrun).cluster
  have hr := hprepare.answer_of_run hkept hrun
  have hbacks := backs_of_prepare hreset
    (Resources.housed_of_withoutIps_eq (Resources.housed_default hdefault) hdeployed)
    hkept.deployed hrun
  refine ⟨hr, fun p hp => ?_⟩
  obtain ⟨q, hq, heq⟩ := Resources.exists_of_withoutIps_eq
    (f := fun p : Pod => (p.names, p.containers)) (fun _ => rfl) hr hp
  obtain ⟨hnames, hcontainers⟩ := Prod.mk.inj heq
  obtain ⟨o, ho⟩ := SortedMap.contains_iff.mp (hbacks p hp).pod
  have hserves : o.Serves p.names config.cluster.image p.containers := by
    rw [← hnames, ← hcontainers]
    exact (hcluster q hq o (hnames ▸ ho)).congr fun k => (hserved q hq k).symm
  have hserving : ∀ k ∈ p.containers, k = .serving k.port k.protocol := fun k hk =>
    Resources.eq_serving_of_mem_newContainers ((hserved q hq k).mp (hcontainers ▸ hk))
  exact ⟨o, ho, hserves, fun k hk => hserves.any_container hk,
    hserves.map_servedPort?_eq hserving⟩

/-- A trial replaces a pod while the other pod still serves, and ends. -/
theorem prepare_supplies_replaced :
    let config : Config := {
      cluster := { namespaces := ["x"], pods := ["a", "b"], ports := [80], protocols := ["TCP"] } }
    let client := Cluster.client .enforce
    let apply := TrialState.apply client config.cluster.image
    ∃ s₀ r₀ s₁ t₂ s₂ t₃ s₃ r s', deploy client config.cluster {} = .ok s₀ ∧
      (prepare client config).run.run s₀ = (.ok r₀, s₁) ∧
      (apply { resources := r₀ } (.deletePod "x" "a")).run.run s₁ = (.ok t₂, s₂) ∧
      (apply t₂ (.createPod "x" "a" .empty)).run.run s₂ = (.ok t₃, s₃) ∧
      (prepare client config).run.run s₃ = (.ok r, s') ∧
      r.withoutIps = s₀.deployed.withoutIps ∧
      ∀ p ∈ r.pods, ∃ o, s'.cluster.pods.get? p.names = some o ∧
        o.Serves p.names config.cluster.image p.containers ∧
        (∀ k ∈ p.containers, o.containerList.any (·.name == k.name) = true) ∧
        ∀ target : CommandTarget, (Cluster.servedPort? o target).map (·.name) =
          (p.numbered? target.port target.protocol).map (·.portName) := by
  intro config client apply
  let trial : TrialM Cluster Bool := do
    let r ← prepare client config
    let t ← apply { resources := r } (.deletePod "x" "a")
    let _ ← apply t (.createPod "x" "a" .empty)
    let _ ← prepare client config
    return t.resources.servedPorts != []
  have hruns : ((deploy client config.cluster {}).toOption.any fun s₀ =>
      (trial.run.run s₀).1.toOption.any fun served => served) = true := by
    decide +kernel
  obtain ⟨s₀, hs₀, hruns⟩ := Fallible.exists_ok_of_any hruns
  obtain ⟨served, s', hrun, hserved⟩ :=
    Stateful.exists_run_of_any (p := fun served _ => served) hruns
  obtain ⟨r₀, s₁, hprepare, hrun⟩ := Stateful.exists_of_run_bind hrun
  obtain ⟨t₂, s₂, hdelete, hrun⟩ := Stateful.exists_of_run_bind hrun
  obtain ⟨t₃, s₃, hcreate, hrun⟩ := Stateful.exists_of_run_bind hrun
  obtain ⟨r, _, hagain, hrun⟩ := Stateful.exists_of_run_bind hrun
  cases hrun
  have hsupplied : t₂.resources.servedPorts ≠ [] := by simpa using hserved
  have hreached : Session.Reached client config (fun t _ a => a.Supplied s₀.deployed t) s₀ s₃ :=
    .left .start (.acted (a := .createPod "x" "a" .empty)
      (.acted (a := .deletePod "x" "a") (.prepared hprepare) trivial hdelete)
      (fun _ _ => hsupplied) hcreate)
  exact ⟨s₀, r₀, s₁, t₂, s₂, t₃, s₃, r, s', hs₀, hprepare, hdelete, hcreate, hagain,
    prepare_supplies rfl hs₀ (fun _ _ _ ho => nomatch ho) hreached hagain⟩

/-- A pod that is replaced while nothing is served has no containers, and a reset leaves it so. -/
theorem prepare_leaves_unserved :
    let config : Config := {
      cluster := { namespaces := ["x"], pods := ["a", "b"], ports := [80], protocols := ["TCP"] }
      trial := { retries := 0 } }
    let client := Cluster.client .enforce
    let replacing : TestCase := .make "" [] [{ actions := [.deletePod "x" "a", .deletePod "x" "b",
      .createPod "x" "a" (podLabels "a")] }]
    ∃ s₀ r s', deploy client config.cluster {} = .ok s₀ ∧
      (prepare client config).run.run ((runAll client config [replacing]).run s₀).2 = (.ok r, s') ∧
      ∃ p ∈ r.pods, p.containers ≠ [] ∧
        (s'.cluster.pods.get? p.names).map (·.containers) = some (some []) := by
  intro config client replacing
  let unserved (r : Resources) (s : Session Cluster) : Bool :=
    decide (∃ p ∈ r.pods, p.containers ≠ [] ∧
      (s.cluster.pods.get? p.names).map (·.containers) = some (some []))
  let prepared (s₀ : Session Cluster) :=
    (prepare client config).run.run ((runAll client config [replacing]).run s₀).2
  have hruns : ((deploy client config.cluster {}).toOption.any fun s₀ =>
      (prepared s₀).1.toOption.any fun r => unserved r (prepared s₀).2) = true := by
    decide +kernel
  obtain ⟨s₀, hs₀, hruns⟩ := Fallible.exists_ok_of_any hruns
  obtain ⟨r, s', hrun, hunserved⟩ := Stateful.exists_run_of_any (p := unserved) hruns
  exact ⟨s₀, r, s', hs₀, hrun, of_decide_eq_true hunserved⟩

end Trial
end PodTraffic
