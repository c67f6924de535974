import PodTraffic.Proofs.SortedMap
import PodTraffic.Proofs.Text.Cut
import PodTraffic.Resources

/-!
# Models keep their order

The pods of a model stand in the order of their names, each in a namespace of the model, and every
change of a model keeps it so. What a change does is told by what the model answers to a pair of
names before and after.
-/
namespace PodTraffic

/-- Names of namespaces can be told from what follows them in a key. -/
def NoSlash (s : String) : Prop := '/' ∉ s.toList

instance (s : String) : Decidable (NoSlash s) := inferInstanceAs (Decidable (¬ _))

theorem NamePair.toList_text (n : NamePair) :
    n.text.toList = n.first.toList ++ '/' :: n.second.toList := by
  simp [text]

theorem NamePair.eq_of_text_eq {n n' : NamePair} (h : NoSlash n.first) (h' : NoSlash n'.first)
    (htext : n.text = n'.text) : n = n' := by
  have hchars := congrArg String.toList htext
  rw [toList_text, toList_text] at hchars
  obtain ⟨hfirst, hsecond⟩ := Text.eq_of_append_mark h h' hchars
  cases n
  cases n'
  rw [mk.injEq]
  exact ⟨String.toList_injective hfirst, String.toList_injective hsecond⟩

def Pod.names (p : Pod) : NamePair := ⟨p.ns, p.name⟩

theorem Pod.key_eq (p : Pod) : p.key = p.names.text := rfl

theorem get?_withNameLabel (ns : String) (labels : Labels) :
    (withNameLabel ns labels).get? nameLabel = some ns := by
  simp [withNameLabel]

/-- Labels that name their namespace stay as they are. -/
theorem withNameLabel_eq_self {ns : String} {labels : Labels}
    (h : labels.get? nameLabel = some ns) : withNameLabel ns labels = labels := by
  refine SortedMap.ext_get? fun key => ?_
  rw [withNameLabel, SortedMap.get?_insert]
  by_cases hkey : key = nameLabel
  · simp [hkey, h]
  · simp [hkey]

namespace Resources

/-- The pod of a pair of names. -/
def podAt (r : Resources) (key : NamePair) : Option Pod := r.pod? key.first key.second

structure WellFormed (r : Resources) : Prop where
  sorted : (r.pods.map (·.names)).Pairwise fun n n' => compare n n' = .lt
  housed : ∀ p ∈ r.pods, r.namespaces.contains p.ns = true
  /-- Every namespace carries its name as a label. -/
  named : ∀ ns labels, r.namespaces.get? ns = some labels → labels.get? nameLabel = some ns

variable {r r' : Resources} {ns name : String} {labels : Labels} {key : NamePair} {p : Pod}

theorem podAt_eq_some (h : r.podAt key = some p) : p ∈ r.pods ∧ p.names = key := by
  refine ⟨List.mem_of_find?_eq_some h, ?_⟩
  have hnames := List.find?_some h
  simp only [Bool.and_eq_true, beq_iff_eq] at hnames
  rw [Pod.names, hnames.1, hnames.2]

/-- What has the names of a pod of the model is in the model. -/
theorem exists_podAt (hp : p ∈ r.pods) : ∃ q, r.podAt p.names = some q := by
  rw [← Option.isSome_iff_exists, podAt, pod?, List.find?_isSome]
  exact ⟨p, hp, by simp [Pod.names]⟩

theorem isSome_pod?_iff :
    (r.pod? ns name).isSome = true ↔ ⟨ns, name⟩ ∈ r.pods.map (·.names) := by
  rw [Option.isSome_iff_exists, List.mem_map]
  constructor
  · intro h
    obtain ⟨p, hp⟩ := h
    exact ⟨p, podAt_eq_some hp⟩
  · intro h
    obtain ⟨p, hp, hnames⟩ := h
    obtain ⟨q, hq⟩ := exists_podAt hp
    rw [hnames] at hq
    exact ⟨q, hq⟩

theorem WellFormed.nodup (h : r.WellFormed) : (r.pods.map (·.names)).Nodup :=
  Ordered.nodup_of_pairwise_lt h.sorted

theorem podAt_eq_some_iff (h : (r.pods.map (·.names)).Nodup) :
    r.podAt key = some p ↔ p ∈ r.pods ∧ p.names = key := by
  refine ⟨podAt_eq_some, fun hp => ?_⟩
  obtain ⟨hp, rfl⟩ := hp
  obtain ⟨q, hq⟩ := exists_podAt hp
  obtain ⟨hmem, hnames⟩ := podAt_eq_some hq
  rw [hq, List.inj_on_of_nodup_map h hmem hp hnames]

theorem WellFormed.podAt_names (h : r.WellFormed) (hp : p ∈ r.pods) : r.podAt p.names = some p :=
  (podAt_eq_some_iff h.nodup).mpr ⟨hp, rfl⟩

theorem setNamespaceLabels_eq_ok (h : r.setNamespaceLabels ns labels = .ok r') :
    r.namespaces.contains ns = true ∧
      r' = { r with namespaces := r.namespaces.insert ns (withNameLabel ns labels) } := by
  unfold setNamespaceLabels at h
  split at h
  · next hns =>
    cases h
    obtain ⟨present, hpresent⟩ := SortedMap.contains_iff.mp hns
    refine ⟨hns, ?_⟩
    congr 1
    refine SortedMap.ext_get? fun k => ?_
    rw [SortedMap.get?_adjust, SortedMap.get?_insert]
    by_cases hk : k = ns
    · simp [hk, hpresent]
    · simp [hk]
  · cases h

theorem find?_relabel (ns name : String) (labels : Labels) (pods : List Pod) (key : NamePair) :
    (relabel ns name labels pods).find? (fun p => p.ns == key.first && p.name == key.second) =
      (pods.find? fun p => p.ns == key.first && p.name == key.second).map fun p =>
        if key = ⟨ns, name⟩ then { p with labels } else p := by
  induction pods with
  | nil => rfl
  | cons p ps ih =>
    rw [relabel]
    split
    · next hp =>
      simp only [Bool.and_eq_true, beq_iff_eq] at hp
      obtain ⟨rfl, rfl⟩ := hp
      rw [List.find?_cons, List.find?_cons]
      cases hkey : p.ns == key.first && p.name == key.second with
      | true =>
        simp only [Bool.and_eq_true, beq_iff_eq] at hkey
        have hnames : key = ⟨p.ns, p.name⟩ := by
          cases key
          simp_all
        simp [hnames]
      | false =>
        have hnames : key ≠ ⟨p.ns, p.name⟩ := by
          rintro rfl
          simp at hkey
        simp [hnames]
    · rw [List.find?_cons, List.find?_cons, ih]
      next hp =>
      cases hkey : p.ns == key.first && p.name == key.second with
      | true =>
        have hnames : key ≠ ⟨ns, name⟩ := by
          rintro rfl
          exact hp hkey
        simp [hnames]
      | false => rfl

theorem map_names_relabel (ns name : String) (labels : Labels) (pods : List Pod) :
    (relabel ns name labels pods).map (·.names) = pods.map (·.names) := by
  induction pods with
  | nil => rfl
  | cons p ps ih =>
    rw [relabel]
    split
    · rfl
    · rw [List.map_cons, List.map_cons, ih]

/-- Relabelled pods keep all but their labels. -/
theorem exists_of_mem_relabel {pods : List Pod} (h : p ∈ relabel ns name labels pods) :
    ∃ q ∈ pods, ∃ labels, p = { q with labels } := by
  induction pods with
  | nil => cases h
  | cons q pods ih =>
    rw [relabel] at h
    split at h
    · rcases List.mem_cons.mp h with rfl | h
      · exact ⟨q, List.mem_cons_self, _, rfl⟩
      · exact ⟨p, .tail q h, _, rfl⟩
    · rcases List.mem_cons.mp h with rfl | h
      · exact ⟨p, List.mem_cons_self, _, rfl⟩
      · obtain ⟨q', hq', heq⟩ := ih h
        exact ⟨q', .tail q hq', heq⟩

theorem podAt_relabel (key : NamePair) :
    ({ r with pods := relabel ns name labels r.pods } : Resources).podAt key =
      (r.podAt key).map fun p => if key = ⟨ns, name⟩ then { p with labels } else p :=
  find?_relabel ns name labels r.pods key

theorem setPodLabels_eq_ok (h : r.setPodLabels ns name labels = .ok r') :
    (∃ p, r.podAt ⟨ns, name⟩ = some p) ∧
      r' = { r with pods := relabel ns name labels r.pods } := by
  unfold setPodLabels at h
  split at h
  · next hp =>
    cases h
    exact ⟨Option.isSome_iff_exists.mp hp, rfl⟩
  · cases h

theorem createNamespace_eq_ok (h : r.createNamespace ns labels = .ok r') :
    r.namespaces.contains ns = false ∧
      r' = { r with namespaces := r.namespaces.insert ns (withNameLabel ns labels) } := by
  unfold createNamespace at h
  split at h
  · cases h
  · next hns =>
    cases h
    exact ⟨by simpa using hns, rfl⟩

theorem deleteNamespace_eq_ok (h : r.deleteNamespace ns = .ok r') :
    r.namespaces.contains ns = true ∧
      r' = { r with namespaces := r.namespaces.erase ns, pods := r.pods.filter (·.ns != ns) } := by
  unfold deleteNamespace at h
  split at h
  · next hns =>
    cases h
    exact ⟨hns, rfl⟩
  · cases h

/-- The containers of a pod that serves every port that some pod serves. -/
def newContainers (r : Resources) : List Container :=
  r.servedPorts.map fun s => Container.serving s.number s.protocol

/-- The pod that creation adds. -/
def newPod (r : Resources) (ns name : String) (labels : Labels) : Pod :=
  { ns, name, labels, containers := r.newContainers }

@[simp] theorem names_newPod (r : Resources) (ns name : String) (labels : Labels) :
    (r.newPod ns name labels).names = ⟨ns, name⟩ := rfl

theorem createPod_eq_ok (h : r.createPod ns name labels = .ok r') :
    r.namespaces.contains ns = true ∧ r.podAt ⟨ns, name⟩ = none ∧
      r' = { r with pods := sortPods (r.pods ++ [r.newPod ns name labels]) } := by
  unfold createPod at h
  split at h
  · cases h
  · next hns =>
    split at h
    · cases h
    · next hp =>
      cases h
      refine ⟨by simpa using hns, ?_, rfl⟩
      simpa [podAt] using hp

theorem deletePod_eq_ok (h : r.deletePod ns name = .ok r') :
    (∃ p, r.podAt ⟨ns, name⟩ = some p) ∧
      r' = { r with pods := r.pods.filter fun p => !(p.ns == ns && p.name == name) } := by
  unfold deletePod at h
  split at h
  · next hp =>
    cases h
    exact ⟨Option.isSome_iff_exists.mp hp, rfl⟩
  · cases h

/-- Pods that go by their names are gone, the others stay. -/
theorem podAt_of_filter {keep : NamePair → Bool}
    (hpods : r'.pods = r.pods.filter fun p => keep p.names) (key : NamePair) :
    r'.podAt key = if keep key then r.podAt key else none := by
  have hnames : ∀ p : Pod, (p.ns == key.first && p.name == key.second) = true → p.names = key := by
    intro p hp
    simp only [Bool.and_eq_true, beq_iff_eq] at hp
    rw [Pod.names, hp.1, hp.2]
  rw [podAt, pod?, hpods, List.find?_filter]
  split
  · next hkeep =>
    refine List.find?_congr fun p _ => ?_
    cases hp : p.ns == key.first && p.name == key.second with
    | true => simp [hnames p hp, hkeep]
    | false => simp
  · next hkeep =>
    refine List.find?_eq_none.mpr fun p _ hp => hkeep ?_
    obtain ⟨hkeep, hp⟩ := of_decide_eq_true hp
    rwa [← hnames p hp]

theorem mem_sortPods {pods : List Pod} : p ∈ sortPods pods ↔ p ∈ pods :=
  (Ordered.sortBy_perm _ pods).mem_iff

theorem mem_of_createPod (h : r.createPod ns name labels = .ok r') :
    p ∈ r'.pods ↔ p ∈ r.pods ∨ p = r.newPod ns name labels := by
  obtain ⟨-, -, rfl⟩ := createPod_eq_ok h
  rw [mem_sortPods, List.mem_append, List.mem_singleton]

/-- A new pod alone has its names. -/
theorem podAt_of_createPod (h : r.createPod ns name labels = .ok r') :
    r'.podAt ⟨ns, name⟩ = some (r.newPod ns name labels) := by
  obtain ⟨-, hnew, -⟩ := createPod_eq_ok h
  obtain ⟨p, hp⟩ := exists_podAt ((mem_of_createPod h).mpr (.inr rfl))
  obtain ⟨hmem, hnames⟩ := podAt_eq_some hp
  rcases (mem_of_createPod h).mp hmem with hmem | rfl
  · obtain ⟨q, hq⟩ := exists_podAt hmem
    rw [hnames] at hq
    exact absurd (hnew.symm.trans hq) nofun
  · exact hp

theorem sorted_sortPods {pods : List Pod} (h : (pods.map (·.names)).Nodup) :
    ((sortPods pods).map (·.names)).Pairwise fun n n' => compare n n' = .lt := by
  rw [List.Nodup, List.pairwise_map] at h
  have hne : pods.Pairwise fun p q => compareOn Pod.names p q ≠ .eq :=
    h.imp fun hne heq => hne (Ordered.compareOn_eq_iff.mp heq)
  have hsorted : (sortPods pods).Pairwise fun p q => compareOn Pod.names p q = .lt :=
    Ordered.pairwise_sortBy hne
  exact List.pairwise_map.mpr hsorted

/-- The names of a pod that is new differ from those of the others. -/
theorem nodup_concat (h : r.WellFormed) (hnew : r.podAt p.names = none) :
    ((r.pods ++ [p]).map (·.names)).Nodup := by
  rw [List.map_append, List.map_singleton, ← List.concat_eq_append, List.nodup_concat]
  refine ⟨fun hmem => ?_, h.nodup⟩
  obtain ⟨q, hq, hnames⟩ := List.mem_map.mp hmem
  rw [← hnames, h.podAt_names hq] at hnew
  cases hnew

theorem podAt_of_concat (h : r.WellFormed) (hnew : r.podAt p.names = none)
    (hpods : r'.pods = sortPods (r.pods ++ [p])) (key : NamePair) :
    r'.podAt key = if key = p.names then some p else r.podAt key := by
  have hnodup : (r'.pods.map (·.names)).Nodup := by
    rw [hpods]
    exact ((Ordered.sortBy_perm _ _).map _).nodup_iff.mpr (nodup_concat h hnew)
  ext q
  rw [podAt_eq_some_iff hnodup, hpods, mem_sortPods, List.mem_append, List.mem_singleton]
  split
  · next hkey =>
    subst hkey
    constructor
    · rintro ⟨hq | rfl, hnames⟩
      · rw [← hnames, h.podAt_names hq] at hnew
        cases hnew
      · rfl
    · intro hq
      cases hq
      exact ⟨.inr rfl, rfl⟩
  · next hkey =>
    rw [podAt_eq_some_iff h.nodup]
    constructor
    · rintro ⟨hq | rfl, hnames⟩
      · exact ⟨hq, hnames⟩
      · exact absurd hnames.symm hkey
    · rintro ⟨hq, hnames⟩
      exact ⟨.inl hq, hnames⟩

theorem names_withPodIps (r : Resources) (ips : SortedMap String String) :
    (r.withPodIps ips).pods.map (·.names) = r.pods.map (·.names) := by
  rw [withPodIps, List.map_map]
  rfl

theorem podAt_withPodIps (r : Resources) (ips : SortedMap String String) (key : NamePair) :
    (r.withPodIps ips).podAt key =
      (r.podAt key).map fun p => { p with ip := (ips.get? p.key).getD p.ip } := by
  rw [podAt, pod?, withPodIps, List.find?_map]
  rfl

/-- With its address filled in, a new pod is found by its names, and the others are as they were. -/
theorem WellFormed.podAt_started (h : r.WellFormed)
    (hslash : ∀ ns, r.namespaces.contains ns = true → NoSlash ns)
    (hr : r.createPod ns name labels = .ok r') (ip : String) (key : NamePair) :
    (r'.withPodIps (.ofList [((NamePair.mk ns name).text, ip)])).podAt key =
      if key = ⟨ns, name⟩ then some { r.newPod ns name labels with ip } else r.podAt key := by
  obtain ⟨hns, hnew, hr⟩ := createPod_eq_ok hr
  have hpod : r.podAt (r.newPod ns name labels).names = none := hnew
  rw [podAt_withPodIps, podAt_of_concat h hpod (congrArg (·.pods) hr), names_newPod]
  by_cases hkey : key = ⟨ns, name⟩
  · rw [if_pos hkey, if_pos hkey, Option.map_some, SortedMap.get?_ofList, Pod.key_eq, names_newPod]
    simp
  · rw [if_neg hkey, if_neg hkey]
    cases hp : r.podAt key with
    | none => rfl
    | some p =>
      obtain ⟨hmem, rfl⟩ := podAt_eq_some hp
      have hother : p.key ≠ (NamePair.mk ns name).text := fun htext => hkey
        (NamePair.eq_of_text_eq (hslash _ (h.housed p hmem)) (hslash ns hns) htext)
      rw [Option.map_some, SortedMap.get?_ofList]
      simp [hother]

namespace WellFormed

variable {m : SortedMap String Labels}

/-- The labels of a namespace may change to others that name it. -/
theorem insert_namespace (h : r.WellFormed) (ns : String) (labels : Labels) :
    WellFormed { r with namespaces := r.namespaces.insert ns (withNameLabel ns labels) } where
  sorted := h.sorted
  housed := by
    intro p hp
    rw [SortedMap.contains_insert, h.housed p hp, Bool.or_true]
  named := by
    intro ns' labels' hlabels
    rw [SortedMap.get?_insert] at hlabels
    split at hlabels
    · next hns =>
      cases hlabels
      rw [eq_of_beq hns]
      exact get?_withNameLabel ns labels
    · exact h.named ns' labels' hlabels

theorem setNamespaceLabels (h : r.WellFormed) (hr : r.setNamespaceLabels ns labels = .ok r') :
    r'.WellFormed := by
  obtain ⟨-, rfl⟩ := setNamespaceLabels_eq_ok hr
  exact h.insert_namespace ns labels

theorem createNamespace (h : r.WellFormed) (hr : r.createNamespace ns labels = .ok r') :
    r'.WellFormed := by
  obtain ⟨-, rfl⟩ := createNamespace_eq_ok hr
  exact h.insert_namespace ns labels

theorem setPodLabels (h : r.WellFormed) (hr : r.setPodLabels ns name labels = .ok r') :
    r'.WellFormed := by
  obtain ⟨-, rfl⟩ := setPodLabels_eq_ok hr
  have hnames := map_names_relabel ns name labels r.pods
  refine ⟨?_, fun p hp => ?_, h.named⟩
  · rw [hnames]
    exact h.sorted
  · have hmem : p.names ∈ r.pods.map (·.names) := by
      rw [← hnames]
      exact List.mem_map_of_mem hp
    obtain ⟨q, hq, hqp⟩ := List.mem_map.mp hmem
    have hns : q.ns = p.ns := congrArg NamePair.first hqp
    rw [← hns]
    exact h.housed q hq

theorem deleteNamespace (h : r.WellFormed) (hr : r.deleteNamespace ns = .ok r') :
    r'.WellFormed := by
  obtain ⟨-, rfl⟩ := deleteNamespace_eq_ok hr
  refine ⟨h.sorted.sublist (List.filter_sublist.map _), fun p hp => ?_, fun ns' labels' hl => ?_⟩
  · obtain ⟨hp, hns⟩ := List.mem_filter.mp hp
    rw [SortedMap.contains_erase, h.housed p hp, hns]
    rfl
  · rw [SortedMap.get?_erase] at hl
    split at hl
    · cases hl
    · exact h.named ns' labels' hl

theorem createPod (h : r.WellFormed) (hr : r.createPod ns name labels = .ok r') :
    r'.WellFormed := by
  obtain ⟨hns, hnew, rfl⟩ := createPod_eq_ok hr
  refine ⟨sorted_sortPods (nodup_concat h hnew), fun p hp => ?_, h.named⟩
  rcases List.mem_append.mp (mem_sortPods.mp hp) with hp | hp
  · exact h.housed p hp
  · rw [List.mem_singleton.mp hp]
    exact hns

theorem deletePod (h : r.WellFormed) (hr : r.deletePod ns name = .ok r') : r'.WellFormed := by
  obtain ⟨-, rfl⟩ := deletePod_eq_ok hr
  exact ⟨h.sorted.sublist (List.filter_sublist.map _),
    fun p hp => h.housed p (List.mem_of_mem_filter hp), h.named⟩

theorem withPodIps (h : r.WellFormed) (ips : SortedMap String String) :
    (r.withPodIps ips).WellFormed where
  sorted := by
    rw [names_withPodIps]
    exact h.sorted
  housed := by
    intro p hp
    obtain ⟨q, hq, rfl⟩ := List.mem_map.mp hp
    exact h.housed q hq
  named := h.named

end WellFormed

section Default

variable {namespaces pods : List String} {ports : List Nat} {protocols : List Protocol}
  {externalIps : List String}

theorem default_eq_ok (h : Resources.default namespaces pods ports protocols externalIps = .ok r) :
    r.namespaces = .ofList (namespaces.map fun ns => (ns, defaultNamespaceLabels ns)) ∧
      r.pods = sortPods (namespaces.flatMap fun ns => pods.map fun name =>
        { ns, name, labels := podLabels name
          containers := ports.flatMap fun port => protocols.map (Container.serving port) }) := by
  unfold Resources.default at h
  simp only [] at h
  split at h
  · cases h
  · cases h
    exact ⟨rfl, rfl⟩

theorem get?_default (h : Resources.default namespaces pods ports protocols externalIps = .ok r)
    {ns : String} {labels : Labels} :
    r.namespaces.get? ns = some labels ↔ ns ∈ namespaces ∧ labels = defaultNamespaceLabels ns := by
  rw [(default_eq_ok h).1]
  exact SortedMap.get?_ofList_graph defaultNamespaceLabels namespaces

theorem mem_keys_default_iff
    (h : Resources.default namespaces pods ports protocols externalIps = .ok r) {ns : String} :
    ns ∈ r.namespaces.keys ↔ ns ∈ namespaces := by
  simp [SortedMap.mem_keys_iff, get?_default h]

theorem externalIps_of_default
    (h : Resources.default namespaces pods ports protocols externalIps = .ok r) :
    r.externalIps = Ordered.distinct externalIps := by
  unfold Resources.default at h
  simp only [] at h
  split at h
  · cases h
  · cases h
    rfl

theorem mem_default (h : Resources.default namespaces pods ports protocols externalIps = .ok r)
    (hp : p ∈ r.pods) : p.ns ∈ namespaces ∧ p.name ∈ pods ∧
      p.containers = ports.flatMap fun port => protocols.map (Container.serving port) := by
  rw [(default_eq_ok h).2, mem_sortPods] at hp
  obtain ⟨ns, hns, hp⟩ := List.mem_flatMap.mp hp
  obtain ⟨name, hname, rfl⟩ := List.mem_map.mp hp
  exact ⟨hns, hname, rfl⟩

theorem mem_names_default_iff
    (h : Resources.default namespaces pods ports protocols externalIps = .ok r) {ns name : String} :
    ⟨ns, name⟩ ∈ r.pods.map (·.names) ↔ ns ∈ namespaces ∧ name ∈ pods := by
  simp [(default_eq_ok h).2, mem_sortPods, Pod.names]

theorem housed_default (h : Resources.default namespaces pods ports protocols externalIps = .ok r) :
    ∀ p ∈ r.pods, r.namespaces.contains p.ns = true :=
  fun _ hp => SortedMap.contains_iff.mpr ⟨_, (get?_default h).mpr ⟨(mem_default h hp).1, rfl⟩⟩

theorem wellFormed_default
    (h : Resources.default namespaces pods ports protocols externalIps = .ok r)
    (hn : namespaces.Nodup) (hp : pods.Nodup) : r.WellFormed where
  sorted := by
    rw [(default_eq_ok h).2]
    refine sorted_sortPods ?_
    rw [List.map_flatMap]
    simp only [List.map_map, Function.comp_def, Pod.names]
    refine List.nodup_flatMap.mpr ⟨fun ns _ => ?_, hn.imp fun hne => ?_⟩
    · refine hp.map fun name name' heq => ?_
      exact congrArg NamePair.second heq
    · intro n hn' hn''
      obtain ⟨name, -, rfl⟩ := List.mem_map.mp hn'
      obtain ⟨name', -, heq⟩ := List.mem_map.mp hn''
      exact hne (congrArg NamePair.first heq).symm
  housed := housed_default h
  named := by
    intro ns labels hlabels
    obtain ⟨-, rfl⟩ := (get?_default h).mp hlabels
    exact get?_withNameLabel ns _

end Default

end Resources
end PodTraffic
