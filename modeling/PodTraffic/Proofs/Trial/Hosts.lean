import PodTraffic.Proofs.Cluster.Mirror
import PodTraffic.Proofs.Trial.Reset

/-!
# Whom a host name reaches

The host name of a pod names a service, and the service selects pods by a label that trials may
change. So the name reaches the first pod of the namespace that carries the label, which is the pod
that the name was made for only as long as that pod carries it and none before it does.
-/
namespace PodTraffic

namespace Cluster

variable {c : Cluster} {p : Pod} {o : PodObject}

/-- The first pod of the namespace, by name, whose `pod` label has the value. -/
structure FirstLabelled (c : Cluster) (ns value name : String) (o : PodObject) : Prop where
  pod : c.pods.get? ⟨ns, name⟩ = some o
  label : o.labelMap.get? "pod" = some value
  first : ∀ name' o', c.pods.get? ⟨ns, name'⟩ = some o' → o'.labelMap.get? "pod" = some value →
    compare (NamePair.mk ns name') ⟨ns, name⟩ ≠ .lt

theorem find?_inside_eq_some_iff {ns value : String} :
    (((c.pods.entries.filter fun e => e.1.first == ns).map (·.2)).find? fun o =>
        o.labelMap.get? "pod" == some value) = some o ↔
      ∃ name, c.FirstLabelled ns value name o := by
  rw [List.find?_map, List.find?_filter, Option.map_eq_some_iff]
  simp only [SortedMap.find?_entries_eq_some_iff, Function.comp_apply, decide_eq_true_eq,
    beq_iff_eq]
  constructor
  · rintro ⟨⟨⟨_, name⟩, o⟩, ⟨hmem, ⟨rfl, hlabel⟩, hfirst⟩, rfl⟩
    refine ⟨name, SortedMap.get?_eq_some_iff.mpr hmem, hlabel, fun name' o' ho' hlabel' => ?_⟩
    exact hfirst (⟨_, name'⟩, o') (SortedMap.get?_eq_some_iff.mp ho') ⟨rfl, hlabel'⟩
  · rintro ⟨name, ho, hlabel, hfirst⟩
    refine ⟨(⟨ns, name⟩, o), ⟨SortedMap.get?_eq_some_iff.mp ho, ⟨rfl, hlabel⟩, ?_⟩, rfl⟩
    rintro ⟨⟨_, name'⟩, o'⟩ hmem ⟨rfl, hlabel'⟩
    exact hfirst name' o' (SortedMap.get?_eq_some_iff.mpr hmem) hlabel'

/-- A host name reaches the first pod that carries the label of the service, if that is there. -/
theorem Fronts.resolveHost_eq_some_iff (hc : c.Fronts) (hns : IsDnsLabel p.ns)
    (hname : IsDnsLabel p.name) :
    c.resolveHost p.host = some o ↔ c.services.contains ⟨p.ns, p.service⟩ = true ∧
      ∃ name, c.FirstLabelled p.ns p.name name o := by
  rw [SortedMap.contains_iff]
  cases hs : c.services.get? ⟨p.ns, p.service⟩ with
  | none => simp [resolveHost_of_absent hns hname hs]
  | some s =>
    obtain ⟨q, hkey, rfl⟩ := hc _ s hs
    obtain ⟨hqns, hservice⟩ := NamePair.mk.inj hkey
    have hq : q.name = p.name := by
      rw [Pod.service, Pod.service, hqns] at hservice
      exact (serviceName_injective hservice).symm
    rw [resolveHost_of_service hns hname hs hq, find?_inside_eq_some_iff]
    simp

end Cluster

namespace Trial

variable {mode : ExecMode} {config : Config} {base : Resources} {s s' s₀ : Session Cluster}
  {t : TrialState} {permits : TrialState → Cluster → Action → Prop}

/-- Pods that are there when a trial starts stay there with their services, unless the model loses
them. -/
theorem Reaches.backs (ht : Reaches (Cluster.client mode) config permits s t s')
    (hstart : ∀ r s₁, (prepare (Cluster.client mode) config).run.run s = (.ok r, s₁) →
      ∀ p ∈ r.pods, s₁.cluster.Backs p) :
    ∀ p ∈ t.resources.pods, s'.cluster.Backs p := by
  induction ht with
  | prepared hrun => exact hstart _ _ hrun
  | acted ht hpermits hrun ih => exact (effect_of_run hrun).1.backs ih
  | probed ht ports simulated ih =>
    obtain ⟨answer, n, hrun⟩ := run_attempt mode config.trial _ ports simulated _
    rw [hrun]
    exact fun p hp => ⟨(ih p hp).pod, (ih p hp).service⟩

/-- They are there after a reset, and before any trial has run. -/
theorem backs_of_start {c₀ : Cluster}
    (hdeploy : deploy (Cluster.client mode) config.cluster c₀ = .ok s₀)
    (hresources : config.cluster.resources = .ok base)
    (hs : s.deployed.withoutIps = base.withoutIps)
    (hstart : config.trial.resetBefore = true ∨ s = s₀) {r : Resources} {s₁ : Session Cluster}
    (hrun : (prepare (Cluster.client mode) config).run.run s = (.ok r, s₁)) :
    ∀ p ∈ r.pods, s₁.cluster.Backs p := by
  have housed := Resources.housed_default (resources_eq_ok hresources)
  by_cases hreset : config.trial.resetBefore = true
  · exact backs_of_prepare hreset housed hs hrun
  · obtain rfl := hstart.resolve_left hreset
    obtain ⟨base', hbase', -, hdeployed⟩ := deploy_eq_ok hdeploy
    cases hresources.symm.trans hbase'
    obtain ⟨answer, hchecked, hanswer⟩ := run_checked mode config s
    rw [prepare_eq, if_neg hreset] at hrun
    have hpair := hchecked.symm.trans hrun
    obtain rfl : s = s₁ := congrArg Prod.snd hpair
    obtain rfl := hanswer r (congrArg Prod.fst hpair)
    intro p hp
    obtain ⟨q, hq, hnames⟩ :=
      Resources.exists_of_withoutIps_eq (f := Pod.names) (fun _ => rfl) hs hp
    exact (Cluster.backs_of_deploy housed hdeployed q hq).of_names hnames.symm

/-- Whatever trials do, pods stand under their own names, and services are services of pods. -/
theorem Reaches.orderly_fronts {c₀ : Cluster} (hc₀ : c₀.Orderly fun _ => True)
    (hfronts : c₀.Fronts) (hdeploy : deploy (Cluster.client mode) config.cluster c₀ = .ok s₀)
    (hresources : config.cluster.resources = .ok base)
    (hs : Session.Reached (Cluster.client mode) config (fun _ _ _ => True) s₀ s)
    (ht : Reaches (Cluster.client mode) config (fun _ _ _ => True) s t s') :
    s.deployed.withoutIps = base.withoutIps ∧ s'.cluster.Orderly (fun _ => True) ∧
      s'.cluster.Fronts := by
  have hkeeps : (Cluster.client mode).Keeps (.ofModels fun _ => True)
      fun c => c.Orderly (fun _ => True) ∧ c.Fronts :=
    Cluster.keeps_client mode fun _ _ hc h => ⟨h.1.change hc, h.2.change hc⟩
  have hcovers : (Permit.ofModels fun _ => True).Covers config.cluster.image base :=
    Permit.covers_ofModels (fun _ _ => trivial) _
  have hw : Within config (fun _ _ _ => True) (.ofModels fun _ => True) base fun _ => True :=
    ⟨hcovers, fun _ _ => trivial,
      fun t _ a _ _ => Permit.admits_ofModels (fun _ _ _ => trivial) _ t,
      fun _ _ _ _ _ _ _ _ => trivial⟩
  have hs₀ := kept_of_deploy hkeeps ⟨hc₀, hfronts⟩ hdeploy hresources hcovers
  have hkept := kept_of_reached hkeeps hw hs₀ hs
  exact ⟨hkept.deployed, (ht.kept hkeeps hw hkept).1.cluster⟩

/-- In every state that is reached, the host name of a pod of the model reaches the first pod of its
namespace, by name, whose label is the name of the pod, if the service of the pod is there. Both are
there in trials that began with a reset and in the first trial. Then it reaches the pod itself just
if the pod carries its name as label and no pod before it carries that name too. -/
theorem Reaches.host_reaches_iff {c₀ : Cluster} (hc₀ : c₀.Orderly fun _ => True)
    (hfronts : c₀.Fronts) (hdeploy : deploy (Cluster.client mode) config.cluster c₀ = .ok s₀)
    (hs : Session.Reached (Cluster.client mode) config (fun _ _ _ => True) s₀ s)
    (ht : Reaches (Cluster.client mode) config (fun _ _ _ => True) s t s')
    {p : Pod} (hp : p ∈ t.resources.pods) (hns : IsDnsLabel p.ns) (hname : IsDnsLabel p.name) :
    (∀ o, s'.cluster.resolveHost p.host = some o ↔
      s'.cluster.services.contains ⟨p.ns, p.service⟩ = true ∧
        ∃ name, s'.cluster.FirstLabelled p.ns p.name name o) ∧
    (config.trial.resetBefore = true ∨ s = s₀ →
      s'.cluster.services.contains ⟨p.ns, p.service⟩ = true ∧
        ∃ o, s'.cluster.pods.get? p.names = some o ∧
          (s'.cluster.resolveHost p.host = some o ↔
            s'.cluster.FirstLabelled p.ns p.name p.name o)) := by
  obtain ⟨base, hresources, -⟩ := deploy_eq_ok hdeploy
  obtain ⟨hdeployed, horderly, hfronts'⟩ := ht.orderly_fronts hc₀ hfronts hdeploy hresources hs
  have hiff : ∀ o, s'.cluster.resolveHost p.host = some o ↔
      s'.cluster.services.contains ⟨p.ns, p.service⟩ = true ∧
        ∃ name, s'.cluster.FirstLabelled p.ns p.name name o :=
    fun o => hfronts'.resolveHost_eq_some_iff hns hname
  refine ⟨hiff, fun hstart => ?_⟩
  have hbacks := ht.backs
    (fun r s₁ hrun => backs_of_start hdeploy hresources hdeployed hstart hrun) p hp
  obtain ⟨o, ho⟩ := SortedMap.contains_iff.mp hbacks.pod
  refine ⟨hbacks.service, o, ho, (hiff o).trans ⟨?_, fun h => ⟨hbacks.service, p.name, h⟩⟩⟩
  rintro ⟨-, name, hfirst⟩
  -- an object stands under its own names only
  have hkey : (NamePair.mk p.ns name) = p.names :=
    ((horderly.pods _ o hfirst.pod).2.key_eq).symm.trans (horderly.pods _ o ho).2.key_eq
  obtain rfl : name = p.name := congrArg NamePair.second hkey
  exact hfirst

/-- A pod whose name another pod carries as label after a relabelling. -/
theorem Reaches.host_reaches_iff_relabelled :
    let config : Config := {
      cluster := { namespaces := ["x"], pods := ["a", "b"], ports := [80], protocols := ["TCP"] } }
    let client := Cluster.client .enforce
    let actions : List Action :=
      [.setPodLabels "x" "b" .empty, .setPodLabels "x" "a" (podLabels "b")]
    ∃ s₀ t s', deploy client config.cluster {} = .ok s₀ ∧
      (do let r ← prepare client config
          actions.foldlM (TrialState.apply client config.cluster.image) { resources := r } :
        TrialM Cluster TrialState).run.run s₀ = (.ok t, s') ∧
      ∃ p ∈ t.resources.pods, p.names = ⟨"x", "b"⟩ ∧
        (∀ o, s'.cluster.resolveHost p.host = some o ↔
          s'.cluster.services.contains ⟨p.ns, p.service⟩ = true ∧
            ∃ name, s'.cluster.FirstLabelled p.ns p.name name o) ∧
        s'.cluster.services.contains ⟨p.ns, p.service⟩ = true ∧
        ∃ o, s'.cluster.pods.get? p.names = some o ∧
          (s'.cluster.resolveHost p.host = some o ↔
            s'.cluster.FirstLabelled p.ns p.name p.name o) := by
  intro config client actions
  let trial : TrialM Cluster TrialState := do
    let r ← prepare client config
    actions.foldlM (TrialState.apply client config.cluster.image) { resources := r }
  let named (t : TrialState) (_ : Session Cluster) : Bool :=
    decide (∃ p ∈ t.resources.pods, p.names = ⟨"x", "b"⟩ ∧ IsDnsLabel p.ns ∧ IsDnsLabel p.name)
  have hruns : ((deploy client config.cluster {}).toOption.any fun s₀ =>
      (trial.run.run s₀).1.toOption.any fun t => named t (trial.run.run s₀).2) = true := by
    decide +kernel
  obtain ⟨s₀, hs₀, hruns⟩ := Fallible.exists_ok_of_any hruns
  obtain ⟨t, s', hrun, hnamed⟩ := Stateful.exists_run_of_any (p := named) hruns
  obtain ⟨p, hp, hnames, hns, hname⟩ := of_decide_eq_true hnamed
  have ht : Reaches client config (fun _ _ _ => True) s₀ t s' :=
    .of_run (fun _ _ _ _ => trivial) hrun
  obtain ⟨hiff, hself⟩ := Reaches.host_reaches_iff .empty (fun _ _ h => nomatch h) hs₀ .start ht hp
    hns hname
  exact ⟨s₀, t, s', hs₀, hrun, p, hp, hnames, hiff, hself (.inr rfl)⟩

/-- Once a pod carries the name of another as label, the host name of that one reaches the first. -/
theorem Reaches.host_reaches_other :
    let config : Config := {
      cluster := { namespaces := ["x"], pods := ["a", "b"], ports := [80], protocols := ["TCP"] } }
    let client := Cluster.client .enforce
    let relabelling : Action := .setPodLabels "x" "a" (podLabels "b")
    ∃ s₀ t s', deploy client config.cluster {} = .ok s₀ ∧
      (do let r ← prepare client config
          TrialState.apply client config.cluster.image { resources := r } relabelling :
        TrialM Cluster TrialState).run.run s₀ = (.ok t, s') ∧
      ∃ p ∈ t.resources.pods, p.names = ⟨"x", "b"⟩ ∧
        s'.cluster.resolveHost p.host = s'.cluster.pods.get? ⟨"x", "a"⟩ ∧
        s'.cluster.pods.get? ⟨"x", "a"⟩ ≠ s'.cluster.pods.get? ⟨"x", "b"⟩ := by
  intro config client relabelling
  let trial : TrialM Cluster TrialState := do
    let r ← prepare client config
    TrialState.apply client config.cluster.image { resources := r } relabelling
  let misled (t : TrialState) (s : Session Cluster) : Bool :=
    decide (∃ p ∈ t.resources.pods, p.names = ⟨"x", "b"⟩ ∧
      s.cluster.resolveHost p.host = s.cluster.pods.get? ⟨"x", "a"⟩ ∧
      s.cluster.pods.get? ⟨"x", "a"⟩ ≠ s.cluster.pods.get? ⟨"x", "b"⟩)
  have hruns : ((deploy client config.cluster {}).toOption.any fun s₀ =>
      (trial.run.run s₀).1.toOption.any fun t => misled t (trial.run.run s₀).2) = true := by
    decide +kernel
  obtain ⟨s₀, hs₀, hruns⟩ := Fallible.exists_ok_of_any hruns
  obtain ⟨t, s', hrun, hmisled⟩ := Stateful.exists_run_of_any (p := misled) hruns
  exact ⟨s₀, t, s', hs₀, hrun, of_decide_eq_true hmisled⟩

end Trial
end PodTraffic
