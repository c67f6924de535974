import PodTraffic.Proofs.Trial.Reached
import PodTraffic.Proofs.Trial.Tracks

/-!
# Resets undo what trials did

Whatever trials left behind, preparing the next one ends well: the namespaces that they created go,
the namespaces, pods and labels that were deployed come back, no policy stays, and the model that
the trial starts from tracks the cluster.
-/
namespace PodTraffic

/-- Namespaces are created under names that keys can be told apart by. -/
def Action.Plain : Action → Prop
  | .createNamespace ns _ => NoSlash ns
  | _ => True

theorem Action.Plain.allowed {a : Action} (ha : a.Plain) :
    ∀ ns labels, a = .createNamespace ns labels → NoSlash ns := by
  rintro ns labels rfl
  exact ha

/-- A configuration whose names tell namespaces and pods apart, also in keys. -/
structure ClusterConfig.NamesApart (c : ClusterConfig) : Prop where
  namespaces : c.namespaces.Nodup
  pods : c.pods.Nodup
  slash : ∀ ns ∈ c.namespaces, NoSlash ns

/-- An orderly cluster without namespaces beyond those deployed and those noted as created. -/
structure Session.Tidy (base : Resources) (s : Session Cluster) : Prop
    extends Session.Kept (Cluster.Orderly NoSlash) base s where
  noted : ∀ ns, s.cluster.namespaces.contains ns = true →
    s.deployed.namespaces.contains ns = true ∨ ns ∈ s.created

namespace Resources

variable {r r' : Resources}

/-- Addresses do not matter to where pods are, -/
theorem housed_of_withoutIps_eq (h : ∀ p ∈ r.pods, r.namespaces.contains p.ns = true)
    (heq : r'.withoutIps = r.withoutIps) : ∀ p ∈ r'.pods, r'.namespaces.contains p.ns = true := by
  intro p hp
  have hnamespaces : r'.namespaces = r.namespaces := congrArg (·.namespaces) heq
  obtain ⟨q, hq, hqp⟩ := exists_of_withoutIps_eq (f := Pod.ns) (fun _ => rfl) heq hp
  rw [hnamespaces, ← hqp]
  exact h q hq

/-- nor to the order of a model. -/
theorem WellFormed.of_withoutIps_eq (h : r.WellFormed) (heq : r'.withoutIps = r.withoutIps) :
    r'.WellFormed := by
  have hnamespaces : r'.namespaces = r.namespaces := congrArg (·.namespaces) heq
  have hnames : r'.pods.map (·.names) = r.pods.map (·.names) :=
    map_pods_of_withoutIps_eq (fun _ => rfl) heq
  refine ⟨?_, housed_of_withoutIps_eq h.housed heq, ?_⟩
  · rw [hnames]
    exact h.sorted
  · rw [hnamespaces]
    exact h.named

end Resources

namespace Trial

variable {mode : ExecMode} {config : Config} {base : Resources} {s s' s₀ : Session Cluster}
  {t : TrialState} {allowed : String → Prop}

/-- A noted namespace is deleted, with all that it holds. -/
theorem run_dropCreated (mode : ExecMode) (ns : String) (h : s.cluster.Orderly allowed) :
    ∃ c, (dropCreated (Cluster.client mode) ns).run.run s =
        (.ok (), { s with cluster := c, created := s.created.filter (· != ns) }) ∧
      c.Orderly fun ns' => allowed ns' ∧ ns' ≠ ns := by
  have hcall : ∃ c, (Resources.ignoreNotFound (Cluster.deleteNamespace ns)).run.run s.cluster =
      (.ok (), c) ∧ c.Orderly fun ns' => allowed ns' ∧ ns' ≠ ns := by
    cases hns : s.cluster.namespaces.contains ns with
    | true =>
      exact ⟨_, Stateful.run_tryCatch_of_ok (Cluster.run_deleteNamespace hns), h.dropNamespace ns⟩
    | false =>
      refine ⟨s.cluster, Stateful.run_tryCatch_of_error (Cluster.run_deleteNamespace_of_absent hns),
        h.mono fun ns' hns' => ⟨h.namespaces ns' hns', ?_⟩⟩
      rintro rfl
      rw [hns] at hns'
      cases hns'
  obtain ⟨c, hrun, hc⟩ := hcall
  exact ⟨c, Stateful.run_bind_of_ok (run_call_of_ok hrun), hc⟩

theorem run_dropAll (mode : ExecMode) (h : s.cluster.Orderly allowed) :
    ∃ c, (s.created.forM (dropCreated (Cluster.client mode))).run.run s =
        (.ok (), { s with cluster := c, created := [] }) ∧
      c.Orderly fun ns => allowed ns ∧ ns ∉ s.created := by
  let P (done : List String) (s' : Session Cluster) : Prop :=
    ∃ c created, s' = { s with cluster := c, created } ∧
      (∀ ns ∈ created, ns ∈ s.created ∧ ns ∉ done) ∧ c.Orderly fun ns => allowed ns ∧ ns ∉ done
  have hstart : P [] s := ⟨s.cluster, s.created, rfl, by simp, h.mono fun ns hns => by
    simpa using h.namespaces ns hns⟩
  have hstep : ∀ done s', ∀ ns ∈ s.created, P done s' →
      ∃ s'', (dropCreated (Cluster.client mode) ns).run.run s' = (.ok (), s'') ∧
        P (done ++ [ns]) s'' := by
    rintro done _ ns - ⟨c, created, rfl, hcreated, hc⟩
    obtain ⟨c', hrun, hc'⟩ := run_dropCreated mode ns (s := { s with cluster := c, created }) hc
    refine ⟨_, hrun, c', _, rfl, fun ns' hns' => ?_, hc'.mono fun ns' hns' => ?_⟩
    · obtain ⟨hmem, hne⟩ := List.mem_filter.mp hns'
      obtain ⟨hold, hdone⟩ := hcreated ns' hmem
      exact ⟨hold, by simpa [hdone] using hne⟩
    · obtain ⟨⟨hallowed, hdone⟩, hne⟩ := hc'.namespaces ns' hns'
      exact ⟨hallowed, by simp [hdone, hne]⟩
  obtain ⟨_, hrun, c, created, rfl, hcreated, hc⟩ := Stateful.run_forM P hstart hstep
  have hnil : created = [] :=
    List.eq_nil_iff_forall_not_mem.mpr fun ns hns => (hcreated ns hns).2 (hcreated ns hns).1
  exact ⟨c, by rw [hrun, hnil], hc⟩

/-- In a trial that began with a reset, the model tracks the cluster. -/
structure InStep (base : Resources) (t : TrialState) (s : Session Cluster) : Prop
    extends s.Tidy base where
  wellFormed : t.resources.WellFormed
  tracks : s.cluster.Tracks t.resources

/-- A reset ends well, and no policy is stored then. -/
theorem run_reset (mode : ExecMode) (config : ClusterConfig) (hr : s.deployed.WellFormed)
    (hslash : ∀ ns, s.deployed.namespaces.contains ns = true → NoSlash ns)
    (hc : s.cluster.Orderly NoSlash)
    (hnoted : ∀ ns, s.cluster.namespaces.contains ns = true →
      s.deployed.namespaces.contains ns = true ∨ ns ∈ s.created) :
    ∃ ips c, (reset (Cluster.client mode) config).run.run s =
        (.ok (), { cluster := c, deployed := s.deployed.withPodIps ips, created := [] }) ∧
      c.Tracks (s.deployed.withPodIps ips) ∧ c.policies = .empty ∧ c.Orderly NoSlash := by
  obtain ⟨c₁, hdrop, hc₁⟩ := run_dropAll mode
    (hc.mono fun ns hns => (⟨hc.namespaces ns hns, hnoted ns hns⟩ :
      NoSlash ns ∧ (s.deployed.namespaces.contains ns = true ∨ ns ∈ s.created)))
  have hdeployed : c₁.Orderly fun ns => s.deployed.namespaces.contains ns = true :=
    hc₁.mono fun ns hns => by
      obtain ⟨⟨-, hor⟩, hgone⟩ := hc₁.namespaces ns hns
      exact hor.resolve_right hgone
  obtain ⟨ips, c₂, hreconcile, htracks, -, hc₂⟩ :=
    Cluster.run_reconcile mode config.image hr hslash hdeployed
  -- no policy outlives its namespace, and those in deployed namespaces are deleted last
  let keep (key : NamePair) : Bool := !s.deployed.namespaceNames.contains key.first
  have hempty : (c₂.policies.filter fun key _ => keep key) = .empty := by
    refine SortedMap.ext_get? fun key => ?_
    rw [SortedMap.get?_filter_keys keep, SortedMap.get?_empty]
    cases hp : c₂.policies.get? key with
    | none => exact ite_self _
    | some p =>
      have hkey := hc₂.namespaces _ (hc₂.policies key p hp).1
      have hmem : key.first ∈ s.deployed.namespaceNames :=
        SortedMap.contains_iff_mem_keys.mp hkey
      have hgone : keep key = false := by simp [keep, hmem]
      rw [hgone]
      rfl
  have hcurrent := run_call_of_ok (s := { cluster := c₁, deployed := s.deployed }) hreconcile
  let c₃ : Cluster := { c₂ with policies := c₂.policies.filter fun key _ => keep key }
  refine ⟨ips, c₃, ?_, ⟨htracks.namespaces, htracks.pods, htracks.services⟩, hempty,
    (hc₂.change (.dropPolicies _)).mono fun ns hns => hslash ns (hc₂.namespaces ns hns)⟩
  exact (Stateful.run_get_bind _ s).trans <| (Stateful.run_bind_of_ok hdrop).trans <|
    (Stateful.run_get_bind _ _).trans <| (Stateful.run_bind_of_ok hcurrent).trans rfl

section Reset

variable {permits : TrialState → Cluster → Action → Prop}
  (hreset : config.trial.resetBefore = true) (hbase : base.WellFormed)
  (hslash : ∀ ns, base.namespaces.contains ns = true → NoSlash ns)
  (hplain : ∀ t c a, permits t c a → a.Plain)

section

include hreset hbase hslash

/-- Preparing ends well in every tidy session, with the model that was deployed in step with the
cluster. -/
theorem run_prepare (mode : ExecMode) (hs : s.Tidy base) :
    ∃ s', (prepare (Cluster.client mode) config).run.run s = (.ok s'.deployed, s') ∧
      InStep base { resources := s'.deployed } s' ∧ s'.cluster.policies = .empty := by
  have hnamespaces : s.deployed.namespaces = base.namespaces :=
    congrArg (·.namespaces) hs.deployed
  have hr : s.deployed.WellFormed := hbase.of_withoutIps_eq hs.deployed
  obtain ⟨ips, c, hrun, htracks, hempty, hc⟩ := run_reset mode config.cluster hr
    (by rw [hnamespaces]; exact hslash) hs.cluster hs.noted
  let s' : Session Cluster := { cluster := c, deployed := s.deployed.withPodIps ips, created := [] }
  have hr' : s'.deployed.WellFormed := hr.withPodIps ips
  have hchecked : (checked (Cluster.client mode) config).run.run s' = (.ok s'.deployed, s') := by
    refine (Stateful.run_get_bind _ s').trans ?_
    simp only []
    split
    · exact (Stateful.run_bind_of_ok (run_call_of_ok (htracks.run_verify hr' mode))).trans rfl
    · rfl
  refine ⟨s', ?_, ⟨⟨⟨hc, ?_⟩, fun ns hns => .inl ?_⟩, hr', htracks⟩, hempty⟩
  · rw [prepare_eq, if_pos hreset]
    exact (Stateful.run_bind_of_ok hrun).trans hchecked
  · exact (Resources.withoutIps_withPodIps _ _).trans hs.deployed
  · exact htracks.namespaces ▸ hns

end

/-- Only an action that creates a namespace adds one. -/
theorem Effect.contains_namespaces {image : String} {t' : TrialState} {c c' : Cluster}
    {a : Action} (h : Effect image t c a t' c') {ns : String}
    (hns : c'.namespaces.contains ns = true) :
    c.namespaces.contains ns = true ∨ ∃ labels, a = .createNamespace ns labels := by
  cases h with
  | createPolicy | updatePolicy | deletePolicy | readPolicies | setPodLabels | deletePod =>
    exact .inl hns
  | setNamespaceLabels ns' labels r hr hns' =>
    simp only [Cluster.withNamespace, SortedMap.contains_insert, Bool.or_eq_true, beq_iff_eq]
      at hns
    rcases hns with rfl | hns
    · exact .inl hns'
    · exact .inl hns
  | createNamespace ns' labels r hr =>
    simp only [Cluster.withNamespace, SortedMap.contains_insert, Bool.or_eq_true, beq_iff_eq]
      at hns
    rcases hns with rfl | hns
    · exact .inr ⟨labels, rfl⟩
    · exact .inl hns
  | deleteNamespace ns' r hr hns' =>
    simp only [Cluster.dropNamespace, SortedMap.contains_erase, Bool.and_eq_true] at hns
    exact .inl hns.2
  | createPod ns' name labels r c' o ip hr hgains ho hip => exact .inl (hgains.namespaces ▸ hns)

namespace InStep

variable {t' : TrialState} {a : Action} {image : String}

theorem sound (h : InStep base t s) : s.cluster.Sound t.resources :=
  ⟨fun _ hp => h.tracks.backs hp, fun key o ho => (h.cluster.pods key o ho).2⟩

theorem acted (h : InStep base t s) (ha : a.Plain)
    (hrun : (t.apply (Cluster.client mode) image a).run.run s = (.ok t', s')) :
    InStep base t' s' := by
  obtain ⟨heffect, hdeployed, hcreated⟩ := effect_of_run hrun
  have hkept : s'.Kept (Cluster.Orderly NoSlash) base :=
    (keeps_apply (Cluster.Orderly.keeps_client mode NoSlash)
      (Permit.admits_ofModels ha.allowed image t)).of_run h.toKept hrun
  refine ⟨⟨hkept, fun ns hns => ?_⟩, heffect.wellFormed h.wellFormed,
    heffect.tracks h.wellFormed h.tracks h.cluster⟩
  rw [hdeployed, hcreated]
  -- only creation adds a namespace, and it notes the namespace unless it was deployed
  rcases heffect.contains_namespaces hns with hold | ⟨labels, rfl⟩
  · refine (h.noted ns hold).imp id fun hmem => ?_
    cases a with
    | createNamespace ns' labels =>
      rw [Session.noted]
      split
      · exact hmem
      · exact Ordered.mem_insertNew.mpr (.inr hmem)
    | _ => exact hmem
  · rw [Session.noted]
    split
    · next hns' => exact .inl hns'
    · exact .inr (Ordered.mem_insertNew.mpr (.inl rfl))

end InStep

/-- Probes change nothing but the number of commands that were run. -/
theorem run_attempt (mode : ExecMode) (config : TrialConfig) (r : Resources) (ports : ProbeConfig)
    (simulated : ProbeTable) (s : Session Cluster) :
    ∃ answer n, (attempt (Cluster.client mode) config r ports simulated).run.run s =
      (answer, { s with cluster := { s.cluster with commandsRun := n } }) := by
  have hexec : ∀ ns pod container command,
      Stateful.Keeps (fun c => ∃ n, c = { s.cluster with commandsRun := n })
        ((Cluster.client mode).exec ns pod container command) fun _ => True :=
    Cluster.keeps_exec mode fun c n hc => by
      obtain ⟨m, rfl⟩ := hc
      exact ⟨n, rfl⟩
  obtain ⟨n, hn⟩ := preserves_runProbe hexec config.batched r ports s.cluster ⟨_, rfl⟩
  have hprobe : (ExceptT.lift (runProbe (Cluster.client mode) config.batched r ports) :
      Call Cluster ProbeTable).run.run s.cluster =
        (.ok ((runProbe (Cluster.client mode) config.batched r ports).run s.cluster).1,
          { s.cluster with commandsRun := n }) := by
    rw [← hn]
    rfl
  exact ⟨_, n, Stateful.run_bind_of_ok (run_call_of_ok hprobe)⟩

theorem InStep.probed (h : InStep base t s) (mode : ExecMode) (config : TrialConfig)
    (ports : ProbeConfig) (simulated : ProbeTable) :
    InStep base t
      ((attempt (Cluster.client mode) config t.resources ports simulated).run.run s).2 := by
  obtain ⟨answer, n, hrun⟩ := run_attempt mode config t.resources ports simulated s
  rw [hrun]
  have hc := h.cluster
  exact ⟨⟨⟨⟨hc.namespaces, hc.pods, hc.policies⟩, h.deployed⟩, h.noted⟩, h.wellFormed,
    h.tracks.namespaces, h.tracks.pods, h.tracks.services⟩

include hreset hbase hslash hplain

theorem Reaches.inStep (hs : s.Tidy base)
    (ht : Reaches (Cluster.client mode) config permits s t s') : InStep base t s' := by
  induction ht with
  | prepared hrun =>
    obtain ⟨s'', hprepare, hstep, -⟩ := run_prepare hreset hbase hslash mode hs
    cases hrun.symm.trans hprepare
    exact hstep
  | acted ht hpermits hrun ih => exact ih.acted (hplain _ _ _ hpermits) hrun
  | probed ht ports simulated ih => exact ih.probed mode config.trial ports simulated

/-- Every session that is reached is tidy. -/
theorem tidy_of_reached (hs₀ : s₀.Tidy base)
    (hs : Session.Reached (Cluster.client mode) config permits s₀ s) : s.Tidy base := by
  induction hs with
  | start => exact hs₀
  | unprepared hs hrun ih =>
    obtain ⟨s'', hprepare, -⟩ := run_prepare hreset hbase hslash mode ih
    cases hrun.symm.trans hprepare
  | left hs ht ih => exact (ht.inStep hreset hbase hslash hplain ih).toTidy
  | refused hs ht hpermits hrun ih =>
    have hstep := ht.inStep hreset hbase hslash hplain ih
    rw [eq_of_run_error hstep.sound hrun]
    exact hstep.toTidy

end Reset

/-- The checks before a trial change nothing. -/
theorem run_checked (mode : ExecMode) (config : Config) (s : Session Cluster) :
    ∃ answer, (checked (Cluster.client mode) config).run.run s = (answer, s) ∧
      ∀ r, answer = .ok r → r = s.deployed := by
  obtain ⟨answer, hverify⟩ := Cluster.exists_run_verify mode s.deployed s.cluster
  have hrun : (checked (Cluster.client mode) config).run.run s = _ := Stateful.run_get_bind _ s
  rw [hrun]
  simp only []
  split
  · cases answer with
    | error e =>
      exact ⟨_, Stateful.run_bind_of_error (run_call hverify), nofun⟩
    | ok =>
      refine ⟨_, Stateful.run_bind_of_ok (run_call_of_ok hverify), fun r hr => ?_⟩
      cases hr
      rfl
  · refine ⟨_, rfl, fun r hr => ?_⟩
    cases hr
    rfl

/-- After a reset every pod of the model is there, whatever names are in use. -/
theorem backs_of_prepare (hreset : config.trial.resetBefore = true)
    (housed : ∀ p ∈ base.pods, base.namespaces.contains p.ns = true)
    (hs : s.deployed.withoutIps = base.withoutIps) {r : Resources}
    (hrun : (prepare (Cluster.client mode) config).run.run s = (.ok r, s')) :
    ∀ p ∈ r.pods, s'.cluster.Backs p := by
  rw [prepare_eq, if_pos hreset] at hrun
  obtain ⟨_, s₃, hran, hchecked⟩ := Stateful.exists_of_run_bind hrun
  obtain ⟨_, s₁, hdrop, hran⟩ :=
    Stateful.exists_of_run_bind ((Stateful.run_get_bind _ s).symm.trans hran)
  obtain ⟨current, s₂, hcall, hran⟩ :=
    Stateful.exists_of_run_bind ((Stateful.run_get_bind _ s₁).symm.trans hran)
  obtain ⟨c, hreconcile, rfl⟩ := exists_of_run_call hcall
  obtain ⟨answer, hchecked', hanswer⟩ := run_checked mode config s₃
  have hpair := hchecked'.symm.trans hchecked
  obtain rfl : s₃ = s' := congrArg Prod.snd hpair
  obtain rfl : r = s₃.deployed := hanswer r (congrArg Prod.fst hpair)
  -- the model keeps its names, and what follows the reconciliation only drops policies
  have hany := keeps_models mode
  have hdropped : s₁.Kept (fun _ => True) base :=
    (Stateful.Keeps.forM fun ns _ => keeps_dropCreated hany ns).of_run ⟨trivial, hs⟩ hdrop
  have hs₁ : s₁.deployed.withoutIps = base.withoutIps := hdropped.deployed
  have hbacks :=
    Cluster.backs_of_reconcile (Resources.housed_of_withoutIps_eq housed hs₁) hreconcile
  obtain ⟨ips, rfl⟩ := (Resources.keeps_reconcile hany
    (Permit.covers_ofModels (fun _ _ => trivial) _)).answer_of_run trivial hreconcile
  cases hran
  intro p hp
  obtain ⟨q, hq, rfl⟩ := List.mem_map.mp hp
  have hq := hbacks q hq
  exact ⟨hq.pod, hq.service⟩

section Deployed

variable (hnames : config.cluster.NamesApart)
  (hdeploy : deploy (Cluster.client mode) config.cluster {} = .ok s₀)

include hnames hdeploy

/-- A deployed model is in order, its names can be told apart, and deployment leaves a tidy
session. -/
theorem exists_tidy_of_deploy :
    ∃ base : Resources, base.WellFormed ∧
      (∀ ns, base.namespaces.contains ns = true → NoSlash ns) ∧ s₀.Tidy base := by
  obtain ⟨base, hresources, -⟩ := deploy_eq_ok hdeploy
  have hdefault := resources_eq_ok hresources
  have hslash : ∀ ns, base.namespaces.contains ns = true → NoSlash ns := by
    intro ns hns
    obtain ⟨labels, hlabels⟩ := SortedMap.contains_iff.mp hns
    exact hnames.slash ns ((Resources.get?_default hdefault).mp hlabels).1
  have hkept := kept_of_deploy (Cluster.Orderly.keeps_client mode _) Cluster.Orderly.empty hdeploy
    hresources (Permit.covers_ofModels (fun _ hns => hns) _)
  have hnamespaces : s₀.deployed.namespaces = base.namespaces :=
    congrArg (·.namespaces) hkept.deployed
  refine ⟨base, Resources.wellFormed_default hdefault hnames.namespaces hnames.pods, hslash,
    ⟨hkept.cluster.mono fun ns hns => hslash ns (hkept.cluster.namespaces ns hns), hkept.deployed⟩,
    fun ns hns => .inl ?_⟩
  rw [hnamespaces]
  exact hkept.cluster.namespaces ns hns

/-- Whatever trials did before, preparing the next one ends well. Then the cluster holds the
namespaces and pods that were deployed, with their labels, a service for each pod and no policy, and
the trial starts from the model that was deployed, with the addresses that the pods have now. -/
theorem prepare_restores (hreset : config.trial.resetBefore = true)
    (hs : Session.Reached (Cluster.client mode) config (fun _ _ a => a.Plain) s₀ s) :
    ∃ r s', (prepare (Cluster.client mode) config).run.run s = (.ok r, s') ∧
      s'.cluster.namespaces = s₀.deployed.namespaces ∧
      s'.cluster.pods.entries.map (fun e => (e.1, e.2.labelMap)) =
        s₀.deployed.pods.map (fun p => (p.names, p.labels)) ∧
      (∀ p ∈ s₀.deployed.pods, s'.cluster.services.contains ⟨p.ns, p.service⟩ = true) ∧
      s'.cluster.policies = .empty ∧
      r.withoutIps = s₀.deployed.withoutIps ∧
      s'.cluster.pods.entries.map (fun e => (e.1, e.2.ipText?)) =
        r.pods.map fun p => (p.names, some p.ip) := by
  obtain ⟨base, hbase, hslash, hs₀⟩ := exists_tidy_of_deploy hnames hdeploy
  have htidy := tidy_of_reached hreset hbase hslash (fun _ _ _ ha => ha) hs₀ hs
  obtain ⟨s', hrun, hstep, hempty⟩ := run_prepare hreset hbase hslash mode htidy
  have hsame : s'.deployed.withoutIps = s₀.deployed.withoutIps :=
    hstep.deployed.trans hs₀.deployed.symm
  have hentries := hstep.tracks.entries_eq hstep.wellFormed
  refine ⟨s'.deployed, s', hrun, ?_, ?_, fun p hp => ?_, hempty, hsame, ?_⟩
  · exact hstep.tracks.namespaces.trans (congrArg (·.namespaces) hsame)
  · have htold := congrArg (List.map fun e => (e.1, e.2.1)) hentries
    rw [List.map_map, List.map_map] at htold
    exact htold.trans (Resources.map_pods_of_withoutIps_eq (fun _ => rfl) hsame)
  · obtain ⟨q, hq, heq⟩ := Resources.exists_of_withoutIps_eq
      (f := fun p : Pod => (p.ns, p.service)) (fun _ => rfl) hsame.symm hp
    obtain ⟨hns, hservice⟩ := Prod.mk.inj heq
    rw [← hns, ← hservice]
    exact hstep.tracks.services q hq
  · have htold := congrArg (List.map fun e => (e.1, e.2.2)) hentries
    rw [List.map_map, List.map_map] at htold
    exact htold

end Deployed

/-- One case deletes a namespace and fills another, the next ends with an action that is refused. -/
theorem prepare_restores_two_namespaces :
    let config : Config := {
      cluster := {
        namespaces := ["x", "y"], pods := ["a", "b"], ports := [80], protocols := ["TCP"] }
      trial := { retries := 0 } }
    let client := Cluster.client .enforce
    let closed : NetworkPolicy := ⟨{ ns := some "x", name := some "closed" },
      some { policyTypes := some ["Ingress"] }⟩
    let cases : List TestCase := [
      .make "" [] [{ actions := [.createNamespace "z" .empty, .createPod "z" "a" .empty,
        .deleteNamespace "y", .createPolicy closed] }],
      .make "" [] [{ actions := [.deletePod "x" "a", .setPodLabels "x" "b" .empty,
        .createNamespace "z" .empty, .deletePod "x" "a"] }]]
    ∃ s₀ r s', deploy client config.cluster {} = .ok s₀ ∧
      (prepare client config).run.run ((runAll client config cases).run s₀).2 = (.ok r, s') ∧
      s'.cluster.namespaces = s₀.deployed.namespaces ∧
      s'.cluster.pods.entries.map (fun e => (e.1, e.2.labelMap)) =
        s₀.deployed.pods.map (fun p => (p.names, p.labels)) ∧
      (∀ p ∈ s₀.deployed.pods, s'.cluster.services.contains ⟨p.ns, p.service⟩ = true) ∧
      s'.cluster.policies = .empty ∧
      r.withoutIps = s₀.deployed.withoutIps ∧
      s'.cluster.pods.entries.map (fun e => (e.1, e.2.ipText?)) =
        r.pods.map fun p => (p.names, some p.ip) := by
  intro config client closed cases
  have hdeployed : ((deploy client config.cluster {}).toOption.any fun _ => true) = true := by
    decide +kernel
  obtain ⟨s₀, hs₀, -⟩ := Fallible.exists_ok_of_any hdeployed
  have hnames : config.cluster.NamesApart := ⟨by decide, by decide, by decide⟩
  have hplain : ∀ c ∈ cases, ∀ step ∈ c.steps, ∀ a ∈ step.actions, ∀ (_ : TrialState)
      (_ : Cluster), a.Plain := by
    simp [cases, TestCase.make, Action.Plain, NoSlash]
  obtain ⟨r, s', h⟩ :=
    prepare_restores hnames hs₀ rfl (Session.Reached.start.runAll hplain)
  exact ⟨s₀, r, s', hs₀, h⟩

end Trial
end PodTraffic
