import PodTraffic.Cluster.Client
import PodTraffic.Proofs.Cluster.Calls
import PodTraffic.Proofs.Resources

/-!
# What deployment does

Bringing a model onto a cluster creates nothing but the objects of the model, on any client. On a
cluster in memory it always comes to its end: missing objects are created, objects that are there
stay, and labels become those of the model.
-/
namespace PodTraffic

/-- The objects of the model may be created. -/
structure Permit.Covers (permit : Permit) (image : String) (r : Resources) : Prop where
  namespaces : ∀ ns, r.namespaces.contains ns = true → permit.namespaces ns
  pods : ∀ p ∈ r.pods, permit.pods (p.object image)
  services : ∀ p ∈ r.pods, permit.services p.serviceObject

namespace Resources

section Keeps

variable {σ : Type} {client : Client σ} {permit : Permit} {I : σ → Prop} {image : String}
  {r : Resources}

theorem keeps_createAll (h : client.Keeps permit I) (hr : permit.Covers image r) :
    Stateful.Keeps I (createAll client image r) fun _ => True := by
  refine (Stateful.Keeps.forM fun e he => ?_).bind fun _ _ => .forM fun p hp => ?_
  · have hns : r.namespaces.contains e.1 = true :=
      SortedMap.contains_iff.mpr ⟨e.2, SortedMap.get?_eq_some_iff.mpr he⟩
    exact (h.createNamespace e.1 e.2 (hr.namespaces e.1 hns)).discard
  · exact (h.createService _ (hr.services p hp)).discard.bind fun _ _ =>
      (h.createPod _ (hr.pods p hp)).discard

theorem keeps_awaitIps (h : client.Keeps permit I) (r : Resources) :
    Stateful.Keeps I (awaitIps client r) fun r' => ∃ ips, r' = r.withPodIps ips := by
  refine (h.listPods _).bind fun pods _ => ?_
  simp only []
  split
  · exact .pure ⟨_, rfl⟩
  · exact .throw _

theorem keeps_deploy (h : client.Keeps permit I) (hr : permit.Covers image r) :
    Stateful.Keeps I (deploy client image r) fun r' => ∃ ips, r' = r.withPodIps ips :=
  (keeps_createAll h hr).bind fun _ _ => keeps_awaitIps h r

theorem keeps_resetLabels (h : client.Keeps permit I) (r : Resources) :
    Stateful.Keeps I (resetLabels client r) fun _ => True :=
  (Stateful.Keeps.forM fun e _ => (h.setNamespaceLabels e.1 e.2).discard).bind fun _ _ =>
    .forM fun p _ => (h.setPodLabels p.ns p.name p.labels).discard

theorem keeps_ignoreNotFound {call : Call σ Unit} (h : Stateful.Keeps I call fun _ => True) :
    Stateful.Keeps I (ignoreNotFound call) fun _ => True := by
  refine h.tryCatch fun e => ?_
  split
  · exact .pure trivial
  · exact .throw _

theorem keeps_deleteStray (h : client.Keeps permit I) (r : Resources) (o : PodObject) :
    Stateful.Keeps I (deleteStray client r o) fun _ => True := by
  unfold deleteStray
  split
  · split
    · exact .pure trivial
    · exact (keeps_ignoreNotFound (h.deleteService _ _)).bind fun _ _ =>
        keeps_ignoreNotFound (h.deletePod _ _)
  · exact .pure trivial

theorem keeps_reconcile (h : client.Keeps permit I) (hr : permit.Covers image r) :
    Stateful.Keeps I (reconcile client image r) fun r' => ∃ ips, r' = r.withPodIps ips :=
  (h.listPods _).bind fun _ _ => (Stateful.Keeps.forM fun o _ => keeps_deleteStray h r o).bind
    fun _ _ => (keeps_createAll h hr).bind fun _ _ => (keeps_resetLabels h r).bind
      fun _ _ => keeps_awaitIps h r

theorem keeps_verify (hns : ∀ ns, Stateful.Keeps I (client.getNamespace ns) fun _ => True)
    (hpod : ∀ ns name, Stateful.Keeps I (client.getPod ns name) fun _ => True)
    (hservice : ∀ ns name, Stateful.Keeps I (client.getService ns name) fun _ => True)
    (r : Resources) : Stateful.Keeps I (verify client r) fun _ => True := by
  refine (Stateful.Keeps.forM fun e _ => ?_).bind fun _ _ => .forM fun p _ => ?_
  · refine (hns _).bind fun _ _ => ?_
    simp only []
    split
    · exact .throw _
    · exact .pure trivial
  · refine (hpod _ _).bind fun _ _ => ?_
    simp only []
    split
    · exact (Stateful.Keeps.throw _).bind fun _ (habsurd : False) => habsurd.elim
    · split
      · exact (Stateful.Keeps.throw _).bind fun _ (habsurd : False) => habsurd.elim
      · exact (hservice _ _).discard

end Keeps

end Resources

namespace Cluster

variable {c c₁ c₂ : Cluster} {s : ServiceObject} {o : PodObject} {p : Pod} {ps qs : List Pod}
  {image : String}

/-- The cluster with the service, unless one is there. -/
def ensureService (s : ServiceObject) (c : Cluster) : Cluster :=
  if c.services.contains s.key then c else c.withService s

/-- The cluster with the pod, unless one is there. -/
def ensurePod (o : PodObject) (c : Cluster) : Cluster :=
  if c.pods.contains o.key then c else c.withPod o

theorem run_ensureService (hns : c.namespaces.contains s.key.first = true) :
    ∃ answer, (createService s).run.run c = (.ok answer, c.ensureService s) := by
  unfold ensureService
  cases h : c.services.contains s.key with
  | true =>
    obtain ⟨present, hpresent⟩ := SortedMap.contains_iff.mp h
    exact ⟨present, run_createService_of_present hns hpresent⟩
  | false => exact ⟨s, run_createService hns (SortedMap.get?_of_contains_eq_false h)⟩

theorem run_ensurePod (hns : c.namespaces.contains o.key.first = true) :
    ∃ answer, (createPod o).run.run c = (.ok answer, c.ensurePod o) := by
  unfold ensurePod
  cases h : c.pods.contains o.key with
  | true =>
    obtain ⟨present, hpresent⟩ := SortedMap.contains_iff.mp h
    exact ⟨present, run_createPod_of_present hns hpresent⟩
  | false => exact ⟨_, run_createPod hns (SortedMap.get?_of_contains_eq_false h)⟩

theorem contains_ensureService (s : ServiceObject) (c : Cluster) (key : NamePair) :
    (c.ensureService s).services.contains key = (key == s.key || c.services.contains key) := by
  unfold ensureService
  split
  · next h =>
    by_cases hkey : key = s.key
    · simp [hkey, h]
    · simp [hkey]
  · simp [withService]

@[simp] theorem ensureService_namespaces (s : ServiceObject) (c : Cluster) :
    (c.ensureService s).namespaces = c.namespaces := by
  unfold ensureService
  split <;> rfl

@[simp] theorem ensureService_pods (s : ServiceObject) (c : Cluster) :
    (c.ensureService s).pods = c.pods := by
  unfold ensureService
  split <;> rfl

@[simp] theorem ensureService_policies (s : ServiceObject) (c : Cluster) :
    (c.ensureService s).policies = c.policies := by
  unfold ensureService
  split <;> rfl

theorem get?_ensurePod (o : PodObject) (c : Cluster) (key : NamePair) :
    (c.ensurePod o).pods.get? key =
      if key == o.key then some ((c.pods.get? key).getD (started o (c.podsCreated + 1)))
      else c.pods.get? key := by
  unfold ensurePod
  cases h : c.pods.contains o.key with
  | true =>
    obtain ⟨present, hpresent⟩ := SortedMap.contains_iff.mp h
    by_cases hkey : key = o.key
    · simp [hkey, hpresent]
    · simp [hkey]
  | false =>
    have hnone := SortedMap.get?_of_contains_eq_false h
    by_cases hkey : key = o.key
    · simp [withPod, hkey, hnone]
    · simp [withPod, hkey]

@[simp] theorem ensurePod_namespaces (o : PodObject) (c : Cluster) :
    (c.ensurePod o).namespaces = c.namespaces := by
  unfold ensurePod
  split <;> rfl

@[simp] theorem ensurePod_services (o : PodObject) (c : Cluster) :
    (c.ensurePod o).services = c.services := by
  unfold ensurePod
  split <;> rfl

@[simp] theorem ensurePod_policies (o : PodObject) (c : Cluster) :
    (c.ensurePod o).policies = c.policies := by
  unfold ensurePod
  split <;> rfl

/-- The pod and its service are there. -/
structure Backs (c : Cluster) (p : Pod) : Prop where
  pod : c.pods.contains p.names = true
  service : c.services.contains ⟨p.ns, p.service⟩ = true

/-- Pods and services were created for pods of the list, where there were none. -/
structure Gains (image : String) (ps : List Pod) (c c' : Cluster) : Prop where
  namespaces : c'.namespaces = c.namespaces
  policies : c'.policies = c.policies
  pods : ∀ key o, c.pods.get? key = some o → c'.pods.get? key = some o
  services : ∀ key, c.services.contains key = true → c'.services.contains key = true
  fresh : ∀ key o, c'.pods.get? key = some o → c.pods.get? key = some o ∨
    ∃ p ∈ ps, p.names = key ∧ ∃ id, o = started (p.object image) id
  backs : ∀ p ∈ ps, c'.Backs p

namespace Gains

theorem refl (c : Cluster) : Gains image [] c c where
  namespaces := rfl
  policies := rfl
  pods _ _ ho := ho
  services _ hs := hs
  fresh _ _ ho := .inl ho
  backs _ hp := nomatch hp

theorem keeps_backs (h : Gains image ps c c₁) (hp : c.Backs p) : c₁.Backs p where
  pod := by
    obtain ⟨o, ho⟩ := SortedMap.contains_iff.mp hp.pod
    exact SortedMap.contains_iff.mpr ⟨o, h.pods _ o ho⟩
  service := h.services _ hp.service

/-- Other pods than those of the list are as before. -/
theorem get?_of_ne (h : Gains image ps c c₁) {key : NamePair} (hkey : ∀ p ∈ ps, p.names ≠ key) :
    c₁.pods.get? key = c.pods.get? key := by
  cases ho : c.pods.get? key with
  | some o => exact h.pods key o ho
  | none =>
    cases ho₁ : c₁.pods.get? key with
    | none => rfl
    | some o =>
      rcases h.fresh key o ho₁ with hold | ⟨p, hp, hnames, -⟩
      · exact hold.symm.trans ho
      · exact absurd hnames (hkey p hp)

theorem trans (h : Gains image ps c c₁) (h' : Gains image qs c₁ c₂) :
    Gains image (ps ++ qs) c c₂ where
  namespaces := h'.namespaces.trans h.namespaces
  policies := h'.policies.trans h.policies
  pods key o ho := h'.pods key o (h.pods key o ho)
  services key hs := h'.services key (h.services key hs)
  fresh := by
    intro key o ho
    rcases h'.fresh key o ho with ho | ⟨p, hp, hnew⟩
    · rcases h.fresh key o ho with ho | ⟨p, hp, hnew⟩
      · exact .inl ho
      · exact .inr ⟨p, List.mem_append_left _ hp, hnew⟩
    · exact .inr ⟨p, List.mem_append_right _ hp, hnew⟩
  backs := by
    intro p hp
    rcases List.mem_append.mp hp with hp | hp
    · exact h'.keeps_backs (h.backs p hp)
    · exact h'.backs p hp

theorem ensure (c : Cluster) (image : String) (p : Pod) :
    Gains image [p] c ((c.ensureService p.serviceObject).ensurePod (p.object image)) where
  namespaces := by simp
  policies := by simp
  pods := by
    intro key o ho
    rw [get?_ensurePod, ensureService_pods, ho]
    split <;> rfl
  services := by
    intro key hs
    rw [ensurePod_services, contains_ensureService, hs, Bool.or_true]
  fresh := by
    intro key o ho
    rw [get?_ensurePod, ensureService_pods] at ho
    split at ho
    · next hkey =>
      cases hpresent : c.pods.get? key with
      | some present =>
        rw [hpresent] at ho
        exact .inl ho
      | none =>
        rw [hpresent] at ho
        cases ho
        exact .inr ⟨p, List.mem_singleton_self p, (eq_of_beq hkey).symm, _, rfl⟩
    · exact .inl ho
  backs := by
    intro q hq
    rw [List.mem_singleton.mp hq]
    refine ⟨?_, ?_⟩
    · rw [SortedMap.contains, get?_ensurePod, ensureService_pods]
      simp [Pod.names, Pod.object, PodObject.key]
    · rw [ensurePod_services, contains_ensureService]
      simp [Pod.serviceObject, ServiceObject.key]

end Gains

/-- Calls that label one namespace each give every namespace of a map its labels. -/
theorem run_forM_withNamespace {m : SortedMap String Labels}
    {f : String × Labels → Call Cluster Unit}
    (hf : ∀ e ∈ m.entries, ∀ c' : Cluster,
      (∀ ns, c.namespaces.contains ns = true → c'.namespaces.contains ns = true) →
        (f e).run.run c' = (.ok (), c'.withNamespace e.1 e.2)) :
    ∃ namespaces, (m.entries.forM f).run.run c = (.ok (), { c with namespaces }) ∧
      ∀ ns, namespaces.get? ns =
        ((m.get? ns).map (withNameLabel ns)).or (c.namespaces.get? ns) := by
  -- what the entries so far have done
  let P (done : List (String × Labels)) (c' : Cluster) : Prop :=
    ∃ namespaces, c' = { c with namespaces } ∧ ∀ ns, namespaces.get? ns =
      (if done.any (·.1 == ns) then (m.get? ns).map (withNameLabel ns) else none).or
        (c.namespaces.get? ns)
  have hstart : P [] c := ⟨c.namespaces, rfl, fun ns => by simp⟩
  have hstep : ∀ done c', ∀ e ∈ m.entries, P done c' →
      ∃ c'', (f e).run.run c' = (.ok (), c'') ∧ P (done ++ [e]) c'' := by
    rintro done _ e he ⟨namespaces, rfl, hlabels⟩
    refine ⟨_, hf e he _ fun ns hns => ?_, _, rfl, fun ns => ?_⟩
    · obtain ⟨labels, hns⟩ := SortedMap.contains_iff.mp hns
      refine SortedMap.contains_iff.mpr (Option.isSome_iff_exists.mp ?_)
      rw [hlabels, hns, Option.isSome_or]
      simp
    · rw [SortedMap.get?_insert, hlabels]
      by_cases hns : ns = e.1
      · subst hns
        simp [SortedMap.get?_eq_some_iff.mpr he]
      · simp only [List.any_append, List.any_cons, List.any_nil, beq_false_of_ne hns,
          beq_false_of_ne (Ne.symm hns), Bool.or_false, Bool.false_eq_true, if_false]
  obtain ⟨_, hrun, ⟨namespaces, rfl, hlabels⟩⟩ := Stateful.run_forM P hstart hstep
  refine ⟨namespaces, hrun, fun ns => ?_⟩
  rw [hlabels]
  split
  · rfl
  · next hns =>
    have hnone : m.get? ns = none := SortedMap.get?_eq_none_iff.mpr fun e he heq =>
      hns (List.any_eq_true.mpr ⟨e, he, beq_iff_eq.mpr heq⟩)
    rw [hnone]
    rfl

end Cluster

namespace Resources

open Cluster

variable {c : Cluster} {mode : ExecMode} {image : String} {r : Resources} {ns name : String}

/-- A created model has its labels on its namespaces, its pods and their services. -/
theorem run_createAll (mode : ExecMode) (image : String)
    (housed : ∀ p ∈ r.pods, r.namespaces.contains p.ns = true) (c : Cluster) :
    ∃ namespaces c', (createAll (client mode) image r).run.run c = (.ok (), c') ∧
      (∀ ns, namespaces.get? ns =
        ((r.namespaces.get? ns).map (withNameLabel ns)).or (c.namespaces.get? ns)) ∧
      Gains image r.pods { c with namespaces } c' := by
  obtain ⟨namespaces, hrun, hlabels⟩ := run_forM_withNamespace (m := r.namespaces) (c := c)
    (f := fun e => discard ((client mode).createNamespace e.1 e.2)) fun e _ c' _ =>
      Stateful.run_discard_of_ok (run_createNamespace e.1 e.2 c')
  have hns : ∀ p ∈ r.pods, namespaces.contains p.ns = true := by
    intro p hp
    obtain ⟨labels, hlabel⟩ := SortedMap.contains_iff.mp (housed p hp)
    refine SortedMap.contains_iff.mpr ⟨withNameLabel p.ns labels, ?_⟩
    rw [hlabels, hlabel]
    rfl
  let f (p : Pod) : Call Cluster Unit := do
    discard ((client mode).createService p.serviceObject)
    discard ((client mode).createPod (p.object image))
  have hstep : ∀ done c', ∀ p ∈ r.pods, Gains image done { c with namespaces } c' →
      ∃ c'', (f p).run.run c' = (.ok (), c'') ∧
        Gains image (done ++ [p]) { c with namespaces } c'' := by
    intro done c' p hp hdone
    have hns' : c'.namespaces.contains p.ns = true := by
      rw [hdone.namespaces]
      exact hns p hp
    obtain ⟨s, hservice⟩ := run_ensureService (s := p.serviceObject) hns'
    have hns'' : (c'.ensureService p.serviceObject).namespaces.contains p.ns = true := by
      rw [ensureService_namespaces]
      exact hns'
    obtain ⟨o, hpod⟩ := run_ensurePod (o := p.object image) hns''
    refine ⟨_, ?_, hdone.trans (.ensure c' image p)⟩
    exact (Stateful.run_bind_of_ok (Stateful.run_discard_of_ok hservice)).trans
      (Stateful.run_discard_of_ok hpod)
  obtain ⟨c', hrun', hgains⟩ := Stateful.run_forM (Gains image · { c with namespaces })
    (.refl _) hstep
  exact ⟨namespaces, c', (Stateful.run_bind_of_ok hrun).trans hrun', hlabels, hgains⟩

theorem run_ignoreNotFound_deleteService (ns name : String) (c : Cluster) :
    (ignoreNotFound (deleteService ns name)).run.run c =
      (.ok (), c.withoutService ⟨ns, name⟩) := by
  cases h : c.services.get? ⟨ns, name⟩ with
  | some s => exact Stateful.run_tryCatch_of_ok (run_deleteService h)
  | none =>
    refine (Stateful.run_tryCatch_of_error (run_deleteService_of_absent h)).trans ?_
    rw [withoutService, SortedMap.erase_of_absent h]
    rfl

theorem run_ignoreNotFound_deletePod (ns name : String) (c : Cluster) :
    (ignoreNotFound (Cluster.deletePod ns name)).run.run c = (.ok (), c.withoutPod ⟨ns, name⟩) := by
  cases h : c.pods.get? ⟨ns, name⟩ with
  | some o => exact Stateful.run_tryCatch_of_ok (run_deletePod h)
  | none =>
    refine (Stateful.run_tryCatch_of_error (run_deletePod_of_absent h)).trans ?_
    rw [withoutPod, SortedMap.erase_of_absent h]
    rfl

/-- Of the listed pods, those that the model does not have are gone. -/
theorem run_deleteStrays (mode : ExecMode) (r : Resources) {pods : List PodObject}
    (hpods : ∀ o ∈ pods, o.ns = some o.key.first ∧ o.name = some o.key.second) (c : Cluster) :
    ∃ c', (pods.forM (deleteStray (client mode) r)).run.run c = (.ok (), c') ∧
      c'.namespaces = c.namespaces ∧ c'.policies = c.policies ∧
      (∀ key o, c'.pods.get? key = some o → c.pods.get? key = some o) ∧
      ∀ o ∈ pods, r.podKeys.contains o.key.text = true ∨ c'.pods.get? o.key = none := by
  let P (done : List PodObject) (c' : Cluster) : Prop :=
    c'.namespaces = c.namespaces ∧ c'.policies = c.policies ∧
      (∀ key o, c'.pods.get? key = some o → c.pods.get? key = some o) ∧
      ∀ o ∈ done, r.podKeys.contains o.key.text = true ∨ c'.pods.get? o.key = none
  have hstart : P [] c := ⟨rfl, rfl, fun _ _ ho => ho, fun _ ho => nomatch ho⟩
  refine Stateful.run_forM P hstart ?_
  rintro done c' o ho ⟨hnamespaces, hpolicies, hsub, hdone⟩
  obtain ⟨hns, hname⟩ := hpods o ho
  unfold deleteStray
  rw [hns, hname]
  simp only []
  split
  · next hwanted =>
    refine ⟨c', rfl, hnamespaces, hpolicies, hsub, fun o' ho' => ?_⟩
    rcases List.mem_append.mp ho' with ho' | ho'
    · exact hdone o' ho'
    · rw [List.mem_singleton.mp ho']
      exact .inl hwanted
  · refine ⟨_, (Stateful.run_bind_of_ok (run_ignoreNotFound_deleteService _ _ c')).trans
      (run_ignoreNotFound_deletePod _ _ _), hnamespaces, hpolicies, fun key o' ho' => ?_,
      fun o' ho' => ?_⟩
    · simp only [withoutPod, withoutService, SortedMap.get?_erase] at ho'
      split at ho'
      · cases ho'
      · exact hsub key o' ho'
    · simp only [withoutPod, withoutService, SortedMap.get?_erase]
      rcases List.mem_append.mp ho' with ho' | ho'
      · refine (hdone o' ho').imp id fun hnone => ?_
        split
        · rfl
        · exact hnone
      · rw [List.mem_singleton.mp ho']
        exact .inr (if_pos (beq_self_eq_true o.key))

end Resources

def PodObject.unlabelled (o : PodObject) : PodObject := { o with labels := none }

/-- Pods got the labels that the list has for their names, the last ones if there are several;
nothing else changed. -/
structure Cluster.Relabels (ps : List Pod) (c c' : Cluster) : Prop where
  namespaces : c'.namespaces = c.namespaces
  services : c'.services = c.services
  policies : c'.policies = c.policies
  pods : ∀ key, (c'.pods.get? key).map (·.unlabelled) = (c.pods.get? key).map (·.unlabelled)
  labels : ∀ p ∈ ps, ∃ q ∈ ps, q.names = p.names ∧
    ∀ o, c'.pods.get? p.names = some o → o.labels = some q.labels

namespace Cluster.Relabels

variable {ps : List Pod} {c c' : Cluster} {p : Pod} {o : PodObject}

theorem refl (c : Cluster) : Relabels [] c c where
  namespaces := rfl
  services := rfl
  policies := rfl
  pods _ := rfl
  labels _ hp := nomatch hp

theorem contains_eq (h : Relabels ps c c') (key : NamePair) :
    c'.pods.contains key = c.pods.contains key := by
  have hpods := congrArg Option.isSome (h.pods key)
  rwa [Option.isSome_map, Option.isSome_map] at hpods

theorem withPodLabels (h : Relabels ps c c') (ho : c'.pods.get? p.names = some o) :
    Relabels (ps ++ [p]) c (c'.withPodLabels p.names o p.labels) where
  namespaces := h.namespaces
  services := h.services
  policies := h.policies
  pods := by
    intro key
    rw [← h.pods key, Cluster.withPodLabels, SortedMap.get?_insert]
    split
    · next hkey =>
      rw [eq_of_beq hkey, ho]
      rfl
    · rfl
  labels := by
    intro p' hp'
    simp only [Cluster.withPodLabels, SortedMap.get?_insert]
    by_cases hnames : p'.names = p.names
    · refine ⟨p, List.mem_append_right _ (List.mem_singleton_self p), hnames.symm, fun o' ho' => ?_⟩
      rw [if_pos (beq_iff_eq.mpr hnames)] at ho'
      cases ho'
      rfl
    · have hp : p' ∈ ps := by
        refine (List.mem_append.mp hp').resolve_right fun hmem => hnames ?_
        rw [List.mem_singleton.mp hmem]
      obtain ⟨q, hq, hqnames, hlabels⟩ := h.labels p' hp
      refine ⟨q, List.mem_append_left _ hq, hqnames, fun o' ho' => hlabels o' ?_⟩
      rwa [if_neg (by simpa using hnames)] at ho'

end Cluster.Relabels

namespace Resources

open Cluster

theorem run_resetLabels (mode : ExecMode) {r : Resources} {c : Cluster}
    (hns : ∀ ns, r.namespaces.contains ns = true → c.namespaces.contains ns = true)
    (hpods : ∀ p ∈ r.pods, c.pods.contains p.names = true) :
    ∃ namespaces c', (resetLabels (client mode) r).run.run c = (.ok (), c') ∧
      (∀ ns, namespaces.get? ns =
        ((r.namespaces.get? ns).map (withNameLabel ns)).or (c.namespaces.get? ns)) ∧
      Relabels r.pods { c with namespaces } c' := by
  obtain ⟨namespaces, hrun, hlabels⟩ := run_forM_withNamespace (m := r.namespaces) (c := c)
    (f := fun e => discard ((client mode).setNamespaceLabels e.1 e.2)) fun e he c' hc' => by
      have hns' : r.namespaces.contains e.1 = true :=
        SortedMap.contains_iff.mpr ⟨e.2, SortedMap.get?_eq_some_iff.mpr he⟩
      exact Stateful.run_discard_of_ok (run_setNamespaceLabels (hc' e.1 (hns e.1 hns')) e.2)
  have hstep : ∀ done c', ∀ p ∈ r.pods, Relabels done { c with namespaces } c' →
      ∃ c'', (discard ((client mode).setPodLabels p.ns p.name p.labels)).run.run c' =
        (.ok (), c'') ∧ Relabels (done ++ [p]) { c with namespaces } c'' := by
    intro done c' p hp hdone
    obtain ⟨o, ho⟩ : ∃ o, c'.pods.get? p.names = some o := by
      rw [← SortedMap.contains_iff, hdone.contains_eq]
      exact hpods p hp
    exact ⟨_, Stateful.run_discard_of_ok (run_setPodLabels ho p.labels), hdone.withPodLabels ho⟩
  obtain ⟨c', hrun', hrelabels⟩ := Stateful.run_forM (Relabels · { c with namespaces })
    (.refl _) hstep
  exact ⟨namespaces, c', (Stateful.run_bind_of_ok hrun).trans hrun', hlabels, hrelabels⟩

end Resources
end PodTraffic
