import PodTraffic.Proofs.Trial.Effect

/-!
# Models and clusters stay in step

What an action does to the model of a trial, it does to the cluster: pods and services that the
model counts on stay there, and a model that tracked the cluster still does.
-/
namespace PodTraffic

theorem serviceName_injective {ns name name' : String}
    (h : serviceName ns name = serviceName ns name') : name = name' := by
  have hchars := congrArg String.toList h
  simp only [serviceName, String.toList_append] at hchars
  exact String.toList_injective (List.append_cancel_left hchars)

namespace Cluster.Backs

variable {c : Cluster} {p q : Pod}

/-- Names alone tell what a pod counts on. -/
theorem of_names (h : c.Backs p) (hnames : q.names = p.names) : c.Backs q := by
  have hns : q.ns = p.ns := congrArg NamePair.first hnames
  have hname : q.name = p.name := congrArg NamePair.second hnames
  refine ⟨hnames ▸ h.pod, ?_⟩
  rw [Pod.service, hns, hname]
  exact h.service

end Cluster.Backs

namespace Trial.Effect

variable {image : String} {t t' : TrialState} {c c' : Cluster} {a : Action}

/-- The pods of the model, and their services, are there after an action if they were before. -/
theorem backs (h : Effect image t c a t' c') (hb : ∀ p ∈ t.resources.pods, c.Backs p) :
    ∀ p ∈ t'.resources.pods, c'.Backs p := by
  intro p hp
  cases h with
  | createPolicy | updatePolicy | deletePolicy | readPolicies =>
    exact ⟨(hb p hp).pod, (hb p hp).service⟩
  | setPodLabels ns name labels r o hr ho =>
    obtain ⟨-, rfl⟩ := Resources.setPodLabels_eq_ok hr
    obtain ⟨q, hq, _, rfl⟩ := Resources.exists_of_mem_relabel hp
    refine Cluster.Backs.of_names (p := q) ⟨?_, (hb q hq).service⟩ rfl
    rw [Cluster.withPodLabels, SortedMap.contains_insert, (hb q hq).pod, Bool.or_true]
  | setNamespaceLabels ns labels r hr hns =>
    obtain ⟨-, rfl⟩ := Resources.setNamespaceLabels_eq_ok hr
    exact ⟨(hb p hp).pod, (hb p hp).service⟩
  | createNamespace ns labels r hr =>
    obtain ⟨-, rfl⟩ := Resources.createNamespace_eq_ok hr
    exact ⟨(hb p hp).pod, (hb p hp).service⟩
  | deleteNamespace ns r hr hns =>
    obtain ⟨-, rfl⟩ := Resources.deleteNamespace_eq_ok hr
    obtain ⟨hp, hne⟩ := List.mem_filter.mp hp
    have hkept : ∀ {α : Type} {m : SortedMap NamePair α} {key : NamePair}, key.first = p.ns →
        m.contains key = true → (m.filter fun key _ => key.first != ns).contains key = true := by
      intro α m key hfirst hkey
      obtain ⟨x, hx⟩ := SortedMap.contains_iff.mp hkey
      rw [SortedMap.contains_filter, hx, Option.any_some, hfirst]
      exact hne
    exact ⟨hkept rfl (hb p hp).pod, hkept rfl (hb p hp).service⟩
  | createPod ns name labels r c' o ip hr hgains ho hip =>
    obtain ⟨q, hq, rfl⟩ := List.mem_map.mp hp
    rcases (Resources.mem_of_createPod hr).mp hq with hq | rfl
    · exact (hgains.keeps_backs (hb q hq)).of_names rfl
    · exact (hgains.backs _ (List.mem_singleton_self _)).of_names rfl
  | deletePod ns name r o s hr ho hs =>
    obtain ⟨-, rfl⟩ := Resources.deletePod_eq_ok hr
    obtain ⟨hp, hne⟩ := List.mem_filter.mp hp
    have hnames : p.ns = ns → p.name ≠ name := by
      rintro rfl rfl
      simp at hne
    refine ⟨?_, ?_⟩
    · simp only [Cluster.withoutPod, Cluster.withoutService, SortedMap.contains_erase,
        (hb p hp).pod, Bool.and_true, bne_iff_ne]
      intro heq
      exact hnames (congrArg NamePair.first heq) (congrArg NamePair.second heq)
    · simp only [Cluster.withoutPod, Cluster.withoutService, SortedMap.contains_erase,
        (hb p hp).service, Bool.and_true, bne_iff_ne]
      intro heq
      obtain rfl : p.ns = ns := congrArg NamePair.first heq
      exact hnames rfl (serviceName_injective (congrArg NamePair.second heq))

theorem wellFormed (h : Effect image t c a t' c') (hr : t.resources.WellFormed) :
    t'.resources.WellFormed := by
  cases h with
  | createPolicy | updatePolicy | deletePolicy | readPolicies => exact hr
  | setPodLabels ns name labels r o hnext ho => exact hr.setPodLabels hnext
  | setNamespaceLabels ns labels r hnext hns => exact hr.setNamespaceLabels hnext
  | createNamespace ns labels r hnext => exact hr.createNamespace hnext
  | deleteNamespace ns r hnext hns => exact hr.deleteNamespace hnext
  | createPod ns name labels r c' o ip hnext hgains ho hip =>
    exact (hr.createPod hnext).withPodIps _
  | deletePod ns name r o s hnext ho hs => exact hr.deletePod hnext

theorem namespaces_eq (h : Effect image t c a t' c') (hc : c.namespaces = t.resources.namespaces) :
    c'.namespaces = t'.resources.namespaces := by
  cases h with
  | createPolicy | updatePolicy | deletePolicy | readPolicies => exact hc
  | setPodLabels ns name labels r o hnext ho =>
    obtain ⟨-, rfl⟩ := Resources.setPodLabels_eq_ok hnext
    exact hc
  | setNamespaceLabels ns labels r hnext hns =>
    obtain ⟨-, rfl⟩ := Resources.setNamespaceLabels_eq_ok hnext
    exact congrArg (·.insert ns (withNameLabel ns labels)) hc
  | createNamespace ns labels r hnext =>
    obtain ⟨-, rfl⟩ := Resources.createNamespace_eq_ok hnext
    exact congrArg (·.insert ns (withNameLabel ns labels)) hc
  | deleteNamespace ns r hnext hns =>
    obtain ⟨-, rfl⟩ := Resources.deleteNamespace_eq_ok hnext
    exact congrArg (·.erase ns) hc
  | createPod ns name labels r c' o ip hnext hgains ho hip =>
    obtain ⟨-, -, rfl⟩ := Resources.createPod_eq_ok hnext
    exact hgains.namespaces.trans hc
  | deletePod ns name r o s hnext ho hs =>
    obtain ⟨-, rfl⟩ := Resources.deletePod_eq_ok hnext
    exact hc

/-- Of the pods, cluster and model keep telling the same. -/
theorem told_eq (h : Effect image t c a t' c') (hr : t.resources.WellFormed)
    (ht : c.Tracks t.resources) (hc : c.Orderly NoSlash) (key : NamePair) :
    (c'.pods.get? key).map (·.told) = (t'.resources.podAt key).map (·.told) := by
  have hold := ht.pods key
  cases h with
  | createPolicy | updatePolicy | deletePolicy | readPolicies => exact hold
  | setPodLabels ns name labels r o hnext ho =>
    obtain ⟨-, rfl⟩ := Resources.setPodLabels_eq_ok hnext
    rw [Resources.podAt_relabel, Cluster.withPodLabels, SortedMap.get?_insert]
    by_cases hkey : key = ⟨ns, name⟩
    · subst hkey
      rw [ho, Option.map_some, eq_comm, Option.map_eq_some_iff] at hold
      obtain ⟨p, hp, htold⟩ := hold
      rw [hp]
      simp [PodObject.told, Pod.told, PodObject.labelMap, PodObject.ipText?] at htold ⊢
      exact htold.2.symm
    · simpa [hkey] using hold
  | setNamespaceLabels ns labels r hnext hns =>
    obtain ⟨-, rfl⟩ := Resources.setNamespaceLabels_eq_ok hnext
    exact hold
  | createNamespace ns labels r hnext =>
    obtain ⟨-, rfl⟩ := Resources.createNamespace_eq_ok hnext
    exact hold
  | deleteNamespace ns r hnext hns =>
    obtain ⟨-, hnext⟩ := Resources.deleteNamespace_eq_ok hnext
    let keep (key : NamePair) : Bool := key.first != ns
    have hpods : r.pods = t.resources.pods.filter fun p => keep p.names :=
      congrArg (·.pods) hnext
    rw [Resources.podAt_of_filter hpods, Cluster.dropNamespace, SortedMap.get?_filter_keys keep]
    cases keep key with
    | true => exact hold
    | false => rfl
  | createPod ns name labels r c' o ip hnext hgains ho hip =>
    obtain ⟨-, hnew, -⟩ := Resources.createPod_eq_ok hnext
    rw [hr.podAt_started (fun ns hns => hc.namespaces ns (ht.namespaces ▸ hns)) hnext]
    by_cases hkey : key = ⟨ns, name⟩
    · subst hkey
      have hlabels : o.labelMap = labels := by
        rcases hgains.fresh _ o ho with hold | ⟨p, hp, -, id, rfl⟩
        · obtain ⟨p, hp⟩ := ht.exists_podAt_iff.mp ⟨o, hold⟩
          rw [hnew] at hp
          cases hp
        · rw [List.mem_singleton.mp hp]
          rfl
      rw [ho, if_pos rfl, Option.map_some, Option.map_some, PodObject.told, hlabels, hip]
      rfl
    · rw [hgains.get?_of_ne fun p hp hnames => ?_, if_neg hkey, hold]
      rw [List.mem_singleton.mp hp] at hnames
      exact hkey hnames.symm
  | deletePod ns name r o s hnext ho hs =>
    obtain ⟨-, hnext⟩ := Resources.deletePod_eq_ok hnext
    let keep (key : NamePair) : Bool := !(key.first == ns && key.second == name)
    have hpods : r.pods = t.resources.pods.filter fun p => keep p.names :=
      congrArg (·.pods) hnext
    have hkeep : keep key = !(key == ⟨ns, name⟩) := by
      cases key
      rw [Bool.eq_iff_iff]
      simp [keep, ← not_and_or]
    rw [Resources.podAt_of_filter hpods, Cluster.withoutPod, SortedMap.get?_erase, hkeep]
    cases key == ⟨ns, name⟩ with
    | true => rfl
    | false => exact hold

theorem tracks (h : Effect image t c a t' c') (hr : t.resources.WellFormed)
    (ht : c.Tracks t.resources) (hc : c.Orderly NoSlash) : c'.Tracks t'.resources where
  namespaces := h.namespaces_eq ht.namespaces
  pods := h.told_eq hr ht hc
  services p hp := (h.backs (fun _ hq => ht.backs hq) p hp).service

end Trial.Effect
end PodTraffic
