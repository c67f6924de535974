import PodTraffic.Proofs.Cluster.Tracks
import PodTraffic.Trial.State

/-!
# What actions do

On a cluster in memory an action either has its effect, on the model and the cluster alike, or is
refused. A refusal leaves everything as it was, as long as the cluster has the pods and services of
the model and all of its pods run.
-/
namespace PodTraffic

/-- The namespaces that are noted once an action has been tried. -/
def Session.noted {σ : Type} (s : Session σ) : Action → List String
  | .createNamespace ns _ =>
    if s.deployed.namespaces.contains ns then s.created else Ordered.insertNew ns s.created
  | _ => s.created

/-- The pods and services of the model are there, and all pods run. -/
structure Cluster.Sound (c : Cluster) (r : Resources) : Prop where
  backs : ∀ p ∈ r.pods, c.Backs p
  running : ∀ key o, c.pods.get? key = some o → o.Running key

namespace Trial

open Cluster (Gains inside policyKey)

/-- The effect of an action on the state of a trial and on the cluster. -/
inductive Effect (image : String) (t : TrialState) (c : Cluster) :
    Action → TrialState → Cluster → Prop where
  | createPolicy (p : NetworkPolicy) (hnew : t.hasPolicy p.fullName = false)
      (hns : c.namespaces.contains p.ns = true) (hkey : c.policies.get? (policyKey p) = none) :
      Effect image t c (.createPolicy p) (t.putPolicy p) (c.withPolicy p)
  | updatePolicy (p present : NetworkPolicy) (hold : t.hasPolicy p.fullName = true)
      (hkey : c.policies.get? (policyKey p) = some present) :
      Effect image t c (.updatePolicy p) (t.putPolicy p) (c.withPolicy p)
  | deletePolicy (ns name : String) (p : NetworkPolicy)
      (hold : t.hasPolicy (NamePair.mk ns name).text = true)
      (hkey : c.policies.get? ⟨ns, name⟩ = some p) :
      Effect image t c (.deletePolicy ns name)
        { t with policies := t.policies.erase (NamePair.mk ns name).text }
        (c.withoutPolicy ⟨ns, name⟩)
  | readPolicies (namespaces : List String) :
      Effect image t c (.readPolicies namespaces)
        { t with policies :=
            .ofList ((inside namespaces c.policies).map fun p => (p.fullName, p)) } c
  | setPodLabels (ns name : String) (labels : Labels) (r : Resources) (o : PodObject)
      (hr : t.resources.setPodLabels ns name labels = .ok r)
      (ho : c.pods.get? ⟨ns, name⟩ = some o) :
      Effect image t c (.setPodLabels ns name labels) { t with resources := r }
        (c.withPodLabels ⟨ns, name⟩ o labels)
  | setNamespaceLabels (ns : String) (labels : Labels) (r : Resources)
      (hr : t.resources.setNamespaceLabels ns labels = .ok r)
      (hns : c.namespaces.contains ns = true) :
      Effect image t c (.setNamespaceLabels ns labels) { t with resources := r }
        (c.withNamespace ns labels)
  | createNamespace (ns : String) (labels : Labels) (r : Resources)
      (hr : t.resources.createNamespace ns labels = .ok r) :
      Effect image t c (.createNamespace ns labels) { t with resources := r }
        (c.withNamespace ns labels)
  | deleteNamespace (ns : String) (r : Resources)
      (hr : t.resources.deleteNamespace ns = .ok r) (hns : c.namespaces.contains ns = true) :
      Effect image t c (.deleteNamespace ns)
        { resources := r
          policies := t.policies.filter fun e => !TrialState.isInside ns e.1 }
        (c.dropNamespace ns)
  | createPod (ns name : String) (labels : Labels) (r : Resources) (c' : Cluster) (o : PodObject)
      (ip : String) (hr : t.resources.createPod ns name labels = .ok r)
      (hgains : Gains image [t.resources.newPod ns name labels] c c')
      (ho : c'.pods.get? ⟨ns, name⟩ = some o) (hip : o.ipText? = some ip) :
      Effect image t c (.createPod ns name labels)
        { t with resources := r.withPodIps (.ofList [((NamePair.mk ns name).text, ip)]) } c'
  | deletePod (ns name : String) (r : Resources) (o : PodObject) (s : ServiceObject)
      (hr : t.resources.deletePod ns name = .ok r) (ho : c.pods.get? ⟨ns, name⟩ = some o)
      (hs : c.services.get? ⟨ns, serviceName ns name⟩ = some s) :
      Effect image t c (.deletePod ns name) { t with resources := r }
        ((c.withoutService ⟨ns, serviceName ns name⟩).withoutPod ⟨ns, name⟩)

/-- How trying an action can end. -/
inductive Outcome (image : String) (t : TrialState) (s : Session Cluster) (a : Action) :
    Except TrialError TrialState × Session Cluster → Prop where
  | accepted (t' : TrialState) (c : Cluster) (h : Effect image t s.cluster a t' c) :
      Outcome image t s a (.ok t', { s with cluster := c, created := s.noted a })
  | refused (e : TrialError) (s' : Session Cluster) (h : s.cluster.Sound t.resources → s' = s) :
      Outcome image t s a (.error e, s')

section Runs

variable {σ α : Type}

theorem run_call {x : Call σ α} {s : Session σ} {answer : Except ClusterError α} {c : σ}
    (h : x.run.run s.cluster = (answer, c)) :
    (call x).run.run s = (answer.mapError .cluster, { s with cluster := c }) := by
  change ((x.run.run s.cluster).1.mapError TrialError.cluster,
    { s with cluster := (x.run.run s.cluster).2 }) = _
  rw [h]

theorem run_call_of_ok {x : Call σ α} {s : Session σ} {y : α} {c : σ}
    (h : x.run.run s.cluster = (.ok y, c)) :
    (call x).run.run s = (.ok y, { s with cluster := c }) := run_call h

theorem exists_of_run_call {x : Call σ α} {s s' : Session σ} {y : α}
    (h : (call x).run.run s = (.ok y, s')) :
    ∃ c, x.run.run s.cluster = (.ok y, c) ∧ s' = { s with cluster := c } := by
  cases hx : x.run.run s.cluster with
  | mk answer c =>
    rw [run_call hx] at h
    cases answer with
    | error e => cases h
    | ok y' =>
      cases h
      exact ⟨c, rfl, rfl⟩

end Runs

variable {image : String} {t : TrialState} {s : Session Cluster} {a : Action}
  {mode : ExecMode}

namespace Outcome

/-- A change that the model refuses ends the action. -/
theorem of_change {next : Except Refusal Resources} {f : Resources → TrialM Cluster TrialState}
    (h : ∀ r, next = .ok r → Outcome image t s a ((f r).run.run s)) :
    Outcome image t s a ((change next >>= f).run.run s) := by
  cases next with
  | ok r => exact h r rfl
  | error e => exact .refused _ _ fun _ => rfl

/-- So does a policy that is not there. -/
theorem of_requirePolicy {name : String} {f : Unit → TrialM Cluster TrialState}
    (h : t.hasPolicy name = true → Outcome image t s a ((f ()).run.run s)) :
    Outcome image t s a ((t.requirePolicy name >>= f).run.run s) := by
  unfold TrialState.requirePolicy
  cases hname : t.hasPolicy name with
  | true => exact h hname
  | false => exact .refused _ _ fun _ => rfl

/-- The call that ends an action is refused, changing nothing on a sound cluster, or has the effect
of the action. -/
theorem of_call {α : Type} {x : Call Cluster α} {f : α → TrialState}
    (hnoted : s.noted a = s.created)
    (h : (∃ e c, x.run.run s.cluster = (.error e, c) ∧
        (s.cluster.Sound t.resources → c = s.cluster)) ∨
      ∃ y c, x.run.run s.cluster = (.ok y, c) ∧ Effect image t s.cluster a (f y) c) :
    Outcome image t s a
      ((do let y ← call x; return f y : TrialM Cluster TrialState).run.run s) := by
  rcases h with ⟨e, c, hrun, hc⟩ | ⟨y, c, hrun, heffect⟩
  · rw [Stateful.run_bind_of_error (run_call hrun)]
    refine .refused _ _ fun hsound => ?_
    rw [hc hsound]
  · rw [Stateful.run_bind_of_ok (run_call hrun)]
    have haccepted := accepted (s := s) _ _ heffect
    rw [hnoted] at haccepted
    exact haccepted

theorem of_discard_call {α : Type} {x : Call Cluster α} {t' : TrialState}
    (hnoted : s.noted a = s.created)
    (h : (∃ e c, x.run.run s.cluster = (.error e, c) ∧
        (s.cluster.Sound t.resources → c = s.cluster)) ∨
      ∃ y c, x.run.run s.cluster = (.ok y, c) ∧ Effect image t s.cluster a t' c) :
    Outcome image t s a
      ((do discard (call x); return t' : TrialM Cluster TrialState).run.run s) := by
  have hrun : (do discard (call x); return t' : TrialM Cluster TrialState).run.run s =
      (do let _ ← call x; return t' : TrialM Cluster TrialState).run.run s := by
    change ((fun _ => ()) <$> call x >>= fun _ => pure t').run.run s = _
    rw [bind_map_left]
  rw [hrun]
  exact of_call hnoted h

end Outcome

theorem outcome_createPolicy (p : NetworkPolicy) :
    Outcome image t s (.createPolicy p)
      ((t.apply (Cluster.client mode) image (.createPolicy p)).run.run s) := by
  rw [TrialState.apply]
  cases hnew : t.hasPolicy p.fullName with
  | true => exact .refused _ _ fun _ => rfl
  | false =>
    refine .of_discard_call rfl ?_
    rcases Cluster.run_createPolicy p s.cluster with ⟨e, hrun⟩ | ⟨-, hns, hkey, hrun⟩
    · exact .inl ⟨e, _, hrun, fun _ => rfl⟩
    · exact .inr ⟨_, _, hrun, .createPolicy p hnew hns hkey⟩

theorem outcome_updatePolicy (p : NetworkPolicy) :
    Outcome image t s (.updatePolicy p)
      ((t.apply (Cluster.client mode) image (.updatePolicy p)).run.run s) := by
  rw [TrialState.apply]
  refine .of_requirePolicy fun hold => .of_discard_call rfl ?_
  rcases Cluster.run_updatePolicy p s.cluster with ⟨e, hrun⟩ | ⟨-, ⟨present, hkey⟩, hrun⟩
  · exact .inl ⟨e, _, hrun, fun _ => rfl⟩
  · exact .inr ⟨_, _, hrun, .updatePolicy p present hold hkey⟩

theorem outcome_deletePolicy (ns name : String) :
    Outcome image t s (.deletePolicy ns name)
      ((t.apply (Cluster.client mode) image (.deletePolicy ns name)).run.run s) := by
  rw [TrialState.apply]
  refine .of_requirePolicy fun hold => .of_call rfl ?_
  cases hkey : s.cluster.policies.get? ⟨ns, name⟩ with
  | none => exact .inl ⟨_, _, Cluster.run_deletePolicy_of_absent hkey, fun _ => rfl⟩
  | some p => exact .inr ⟨_, _, Cluster.run_deletePolicy hkey, .deletePolicy ns name p hold hkey⟩

theorem outcome_readPolicies (namespaces : List String) :
    Outcome image t s (.readPolicies namespaces)
      ((t.apply (Cluster.client mode) image (.readPolicies namespaces)).run.run s) := by
  rw [TrialState.apply]
  exact .of_call rfl (.inr ⟨_, _, rfl, .readPolicies namespaces⟩)

theorem outcome_setPodLabels (ns name : String) (labels : Labels) :
    Outcome image t s (.setPodLabels ns name labels)
      ((t.apply (Cluster.client mode) image (.setPodLabels ns name labels)).run.run s) := by
  rw [TrialState.apply]
  refine .of_change fun r hr => .of_discard_call rfl ?_
  cases ho : s.cluster.pods.get? ⟨ns, name⟩ with
  | none => exact .inl ⟨_, _, Cluster.run_setPodLabels_of_absent ho labels, fun _ => rfl⟩
  | some o =>
    exact .inr ⟨_, _, Cluster.run_setPodLabels ho labels, .setPodLabels ns name labels r o hr ho⟩

theorem outcome_setNamespaceLabels (ns : String) (labels : Labels) :
    Outcome image t s (.setNamespaceLabels ns labels)
      ((t.apply (Cluster.client mode) image (.setNamespaceLabels ns labels)).run.run s) := by
  rw [TrialState.apply]
  refine .of_change fun r hr => .of_discard_call rfl ?_
  cases hns : s.cluster.namespaces.contains ns with
  | false => exact .inl ⟨_, _, Cluster.run_setNamespaceLabels_of_absent hns labels, fun _ => rfl⟩
  | true => exact .inr ⟨_, _, Cluster.run_setNamespaceLabels hns labels,
      .setNamespaceLabels ns labels r hr hns⟩

theorem run_noteCreated (ns : String) (labels : Labels) (s : Session Cluster) :
    (noteCreated ns).run.run s =
      (.ok (), { s with created := s.noted (.createNamespace ns labels) }) := by
  have hrun : (noteCreated ns).run.run s = (.ok (), if s.deployed.namespaces.contains ns then s
    else { s with created := Ordered.insertNew ns s.created }) := rfl
  rw [hrun, Session.noted]
  split <;> rfl

theorem outcome_createNamespace (ns : String) (labels : Labels) :
    Outcome image t s (.createNamespace ns labels)
      ((t.apply (Cluster.client mode) image (.createNamespace ns labels)).run.run s) := by
  rw [TrialState.apply]
  refine .of_change fun r hr => ?_
  rw [Stateful.run_bind_of_ok (run_noteCreated ns labels s)]
  exact .accepted _ _ (.createNamespace ns labels r hr)

theorem outcome_deleteNamespace (ns : String) :
    Outcome image t s (.deleteNamespace ns)
      ((t.apply (Cluster.client mode) image (.deleteNamespace ns)).run.run s) := by
  rw [TrialState.apply]
  refine .of_change fun r hr => .of_call rfl ?_
  cases hns : s.cluster.namespaces.contains ns with
  | false => exact .inl ⟨_, _, Cluster.run_deleteNamespace_of_absent hns, fun _ => rfl⟩
  | true => exact .inr ⟨_, _, Cluster.run_deleteNamespace hns, .deleteNamespace ns r hr hns⟩

/-- A pod that runs has an address. -/
theorem run_awaitIp (mode : ExecMode) {c : Cluster} {ns name : String} {o : PodObject}
    (ho : c.pods.get? ⟨ns, name⟩ = some o) :
    (∃ ip, (TrialState.awaitIp (Cluster.client mode) ns name).run.run c = (.ok ip, c) ∧
        o.ipText? = some ip) ∨
      ∃ e, (TrialState.awaitIp (Cluster.client mode) ns name).run.run c = (.error e, c) ∧
        ¬ o.Running ⟨ns, name⟩ := by
  have hrun : (TrialState.awaitIp (Cluster.client mode) ns name).run.run c = _ :=
    Stateful.run_bind_of_ok (Cluster.run_getPod ho)
  rw [hrun]
  split
  · next ip hstatus =>
    split
    · next hip =>
      refine .inr ⟨_, rfl, fun hrunning => ?_⟩
      obtain ⟨id, hid⟩ := hrunning.status
      rw [hstatus] at hid
      cases hid
      exact Cluster.addressOf_ne_empty id (String.isEmpty_iff.mp hip)
    · refine .inl ⟨ip, rfl, ?_⟩
      rw [PodObject.ipText?, hstatus]
      rfl
  · next hstatus =>
    refine .inr ⟨_, rfl, fun hrunning => ?_⟩
    obtain ⟨id, hid⟩ := hrunning.status
    exact hstatus _ hid

/-- Starting a pod creates it and its service where they are missing, and waits for it. -/
theorem run_startPod (mode : ExecMode) (image : String) {p : Pod} {c : Cluster}
    (hns : c.namespaces.contains p.ns = true) :
    (TrialState.startPod (Cluster.client mode) image p).run.run c =
      (TrialState.awaitIp (Cluster.client mode) p.ns p.name).run.run
        ((c.ensureService p.serviceObject).ensurePod (p.object image)) := by
  obtain ⟨service, hservice⟩ := Cluster.run_ensureService (s := p.serviceObject) hns
  have hns' : (c.ensureService p.serviceObject).namespaces.contains p.ns = true := by
    rw [Cluster.ensureService_namespaces]
    exact hns
  obtain ⟨o, hpod⟩ := Cluster.run_ensurePod (o := p.object image) hns'
  refine (Stateful.run_bind_of_ok (Stateful.run_discard_of_ok hservice)).trans ?_
  exact Stateful.run_bind_of_ok (Stateful.run_discard_of_ok hpod)

theorem outcome_createPod (ns name : String) (labels : Labels) :
    Outcome image t s (.createPod ns name labels)
      ((t.apply (Cluster.client mode) image (.createPod ns name labels)).run.run s) := by
  rw [TrialState.apply]
  refine .of_change fun r hr => ?_
  have hp : r.pod? ns name = some (t.resources.newPod ns name labels) :=
    Resources.podAt_of_createPod hr
  rw [hp]
  simp only []
  refine .of_call rfl ?_
  cases hns : s.cluster.namespaces.contains ns with
  | false =>
    exact .inl ⟨_, _, Stateful.run_bind_of_error (Stateful.run_discard_of_error
      (Cluster.run_createService_of_absent hns)), fun _ => rfl⟩
  | true =>
    let p := t.resources.newPod ns name labels
    have hgains := Gains.ensure s.cluster image p
    have hstart := run_startPod mode image (p := p) hns
    obtain ⟨o, ho⟩ := SortedMap.contains_iff.mp (hgains.backs p (List.mem_singleton_self p)).pod
    rcases run_awaitIp mode ho with ⟨ip, hawait, hip⟩ | ⟨e, hawait, hnot⟩
    · exact .inr ⟨ip, _, hstart.trans hawait, .createPod ns name labels r _ o ip hr hgains ho hip⟩
    · refine .inl ⟨e, _, hstart.trans hawait, fun hsound => absurd ?_ hnot⟩
      rcases hgains.fresh _ o ho with hold | ⟨q, hq, hnames, id, rfl⟩
      · exact hsound.running _ o hold
      · rw [List.mem_singleton.mp hq]
        exact ⟨rfl, rfl, id, rfl⟩

theorem outcome_deletePod (ns name : String) :
    Outcome image t s (.deletePod ns name)
      ((t.apply (Cluster.client mode) image (.deletePod ns name)).run.run s) := by
  rw [TrialState.apply]
  refine .of_change fun r hr => ?_
  obtain ⟨⟨p, hp⟩, -⟩ := Resources.deletePod_eq_ok hr
  obtain ⟨hmem, hnames⟩ := Resources.podAt_eq_some hp
  have hp' : t.resources.pod? ns name = some p := hp
  rw [hp']
  cases hnames
  simp only []
  refine .of_call rfl ?_
  cases hs : s.cluster.services.get? ⟨p.ns, p.service⟩ with
  | none =>
    exact .inl ⟨_, _, Stateful.run_bind_of_error (Cluster.run_deleteService_of_absent hs),
      fun _ => rfl⟩
  | some service =>
    have hservice := Stateful.run_bind_of_ok (f := fun _ => Cluster.deletePod p.ns p.name)
      (Cluster.run_deleteService hs)
    cases ho : s.cluster.pods.get? p.names with
    | none =>
      refine .inl ⟨_, _, hservice.trans (Cluster.run_deletePod_of_absent ho), fun hsound => ?_⟩
      obtain ⟨o, ho'⟩ := SortedMap.contains_iff.mp (hsound.backs p hmem).pod
      rw [ho] at ho'
      cases ho'
    | some o =>
      exact .inr ⟨_, _, hservice.trans (Cluster.run_deletePod ho),
        .deletePod p.ns p.name r o service hr ho hs⟩

/-- Every action has its effect or is refused. -/
theorem outcome_apply (mode : ExecMode) (image : String) (t : TrialState) (s : Session Cluster)
    (a : Action) :
    Outcome image t s a ((t.apply (Cluster.client mode) image a).run.run s) := by
  cases a with
  | createPolicy p => exact outcome_createPolicy p
  | updatePolicy p => exact outcome_updatePolicy p
  | deletePolicy ns name => exact outcome_deletePolicy ns name
  | readPolicies namespaces => exact outcome_readPolicies namespaces
  | setPodLabels ns pod labels => exact outcome_setPodLabels ns pod labels
  | setNamespaceLabels ns labels => exact outcome_setNamespaceLabels ns labels
  | createNamespace ns labels => exact outcome_createNamespace ns labels
  | deleteNamespace ns => exact outcome_deleteNamespace ns
  | createPod ns pod labels => exact outcome_createPod ns pod labels
  | deletePod ns pod => exact outcome_deletePod ns pod

theorem effect_of_run {t' : TrialState} {s' : Session Cluster}
    (h : (t.apply (Cluster.client mode) image a).run.run s = (.ok t', s')) :
    Effect image t s.cluster a t' s'.cluster ∧ s'.deployed = s.deployed ∧
      s'.created = s.noted a := by
  have houtcome := outcome_apply mode image t s a
  rw [h] at houtcome
  cases houtcome with
  | accepted _ _ heffect => exact ⟨heffect, rfl, rfl⟩

/-- A refused action changes nothing. -/
theorem eq_of_run_error {e : TrialError} {s' : Session Cluster}
    (hsound : s.cluster.Sound t.resources)
    (h : (t.apply (Cluster.client mode) image a).run.run s = (.error e, s')) : s' = s := by
  have houtcome := outcome_apply mode image t s a
  rw [h] at houtcome
  cases houtcome with
  | refused _ _ heq => exact heq hsound

end Trial
end PodTraffic
