import PodTraffic.Proofs.Fallible
import PodTraffic.Proofs.Resources

/-!
# Histories of a model

A model is deployed once and edited from then on. What an edit does is told by what the model
answers to every name before and after; when it is refused, by which names the model knows. In order
at the start, a model is in order after every history of edits.
-/
namespace PodTraffic

inductive Edit where
  | setNamespaceLabels (ns : String) (labels : Labels)
  | setPodLabels (ns name : String) (labels : Labels)
  | createNamespace (ns : String) (labels : Labels)
  | deleteNamespace (ns : String)
  | createPod (ns name : String) (labels : Labels)
  | deletePod (ns name : String)
  | withPodIps (ips : SortedMap String String)

namespace Edit

def apply (r : Resources) : Edit → Except Refusal Resources
  | setNamespaceLabels ns labels => r.setNamespaceLabels ns labels
  | setPodLabels ns name labels => r.setPodLabels ns name labels
  | createNamespace ns labels => r.createNamespace ns labels
  | deleteNamespace ns => r.deleteNamespace ns
  | createPod ns name labels => r.createPod ns name labels
  | deletePod ns name => r.deletePod ns name
  | withPodIps ips => .ok (r.withPodIps ips)

/-- What a model misses, or has already. -/
def Refused (r : Resources) (x : Refusal) : Edit → Prop
  | setNamespaceLabels ns _ | deleteNamespace ns => ns ∉ r.namespaces.keys ∧ x = .notFound .ns ns
  | setPodLabels ns name _ | deletePod ns name =>
    ⟨ns, name⟩ ∉ r.pods.map (·.names) ∧ x = .notFound .pod (NamePair.mk ns name).text
  | createNamespace ns _ => ns ∈ r.namespaces.keys ∧ x = .exists .ns ns
  | createPod ns name _ =>
    (ns ∉ r.namespaces.keys ∧ x = .notFound .ns ns) ∨
      ns ∈ r.namespaces.keys ∧ ⟨ns, name⟩ ∈ r.pods.map (·.names) ∧
        x = .exists .pod (NamePair.mk ns name).text
  | withPodIps _ => False

/-- The labels of a namespace, if it is there after an edit. -/
def namespaceAfter (r : Resources) (ns : String) : Edit → Option Labels
  | setNamespaceLabels edited labels | createNamespace edited labels =>
    if ns = edited then some (withNameLabel ns labels) else r.namespaces.get? ns
  | deleteNamespace edited => if ns = edited then none else r.namespaces.get? ns
  | setPodLabels .. | createPod .. | deletePod .. | withPodIps .. => r.namespaces.get? ns

/-- The pod of a pair of names, if it is there after an edit. -/
def podAfter (r : Resources) (key : NamePair) : Edit → Option Pod
  | setPodLabels ns name labels =>
    if key = ⟨ns, name⟩ then (r.podAt key).map fun p => { p with labels } else r.podAt key
  | deleteNamespace ns => if key.first = ns then none else r.podAt key
  | createPod ns name labels =>
    if key = ⟨ns, name⟩ then some (r.newPod ns name labels) else r.podAt key
  | deletePod ns name => if key = ⟨ns, name⟩ then none else r.podAt key
  | withPodIps ips => (r.podAt key).map fun p => { p with ip := (ips.get? p.key).getD p.ip }
  | setNamespaceLabels .. | createNamespace .. => r.podAt key

/-- An edit changes what it names, and nothing else. -/
structure Changes (e : Edit) (r r' : Resources) : Prop where
  namespaces : ∀ ns, r'.namespaces.get? ns = e.namespaceAfter r ns
  pods : ∀ key, r'.podAt key = e.podAfter r key
  externalIps : r'.externalIps = r.externalIps

variable {r r' base : Resources} {e : Edit} {x : Refusal}

/-- An edit is refused exactly for what it does not find, or finds in its place. -/
theorem apply_eq_error_iff : e.apply r = .error x ↔ e.Refused r x := by
  cases e with
  | setNamespaceLabels ns labels =>
    rw [apply, Refused, Resources.setNamespaceLabels, Fallible.ok_if_eq_error_iff,
      SortedMap.contains_iff_mem_keys]
  | setPodLabels ns name labels =>
    rw [apply, Refused, Resources.setPodLabels, Fallible.ok_if_eq_error_iff,
      Resources.isSome_pod?_iff]
  | createNamespace ns labels =>
    rw [apply, Refused, Resources.createNamespace, Fallible.error_if_eq_error_iff,
      SortedMap.contains_iff_mem_keys]
    simp
  | deleteNamespace ns =>
    rw [apply, Refused, Resources.deleteNamespace, Fallible.ok_if_eq_error_iff,
      SortedMap.contains_iff_mem_keys]
  | createPod ns name labels =>
    rw [apply, Refused, Resources.createPod, Fallible.error_if_eq_error_iff,
      Fallible.error_if_eq_error_iff, Resources.isSome_pod?_iff, ← SortedMap.contains_iff_mem_keys]
    simp
  | deletePod ns name =>
    rw [apply, Refused, Resources.deletePod, Fallible.ok_if_eq_error_iff,
      Resources.isSome_pod?_iff]
  | withPodIps ips => simp [apply, Refused]

theorem get?_insert_named (m : SortedMap String Labels) (edited : String) (labels : Labels)
    (ns : String) : (m.insert edited (withNameLabel edited labels)).get? ns =
      if ns = edited then some (withNameLabel ns labels) else m.get? ns := by
  rw [SortedMap.get?_insert]
  by_cases hns : ns = edited
  · simp [hns]
  · simp [hns]

theorem namespaces_of_apply (h : e.apply r = .ok r') (ns : String) :
    r'.namespaces.get? ns = e.namespaceAfter r ns := by
  cases e with
  | setNamespaceLabels edited labels =>
    obtain ⟨-, rfl⟩ := Resources.setNamespaceLabels_eq_ok h
    exact get?_insert_named r.namespaces edited labels ns
  | setPodLabels edited name labels =>
    obtain ⟨-, rfl⟩ := Resources.setPodLabels_eq_ok h
    rfl
  | createNamespace edited labels =>
    obtain ⟨-, rfl⟩ := Resources.createNamespace_eq_ok h
    exact get?_insert_named r.namespaces edited labels ns
  | deleteNamespace edited =>
    obtain ⟨-, rfl⟩ := Resources.deleteNamespace_eq_ok h
    rw [SortedMap.get?_erase]
    by_cases hns : ns = edited
    · simp [namespaceAfter, hns]
    · simp [namespaceAfter, hns]
  | createPod edited name labels =>
    obtain ⟨-, -, rfl⟩ := Resources.createPod_eq_ok h
    rfl
  | deletePod edited name =>
    obtain ⟨-, rfl⟩ := Resources.deletePod_eq_ok h
    rfl
  | withPodIps ips =>
    cases h
    rfl

theorem pods_of_apply (hr : r.WellFormed) (h : e.apply r = .ok r') (key : NamePair) :
    r'.podAt key = e.podAfter r key := by
  cases e with
  | setNamespaceLabels ns labels =>
    obtain ⟨-, rfl⟩ := Resources.setNamespaceLabels_eq_ok h
    rfl
  | setPodLabels ns name labels =>
    obtain ⟨-, rfl⟩ := Resources.setPodLabels_eq_ok h
    rw [Resources.podAt_relabel, podAfter]
    split
    · rfl
    · exact Option.map_id'
  | createNamespace ns labels =>
    obtain ⟨-, rfl⟩ := Resources.createNamespace_eq_ok h
    rfl
  | deleteNamespace ns =>
    obtain ⟨-, rfl⟩ := Resources.deleteNamespace_eq_ok h
    rw [@Resources.podAt_of_filter r _ (fun n => n.first != ns) rfl, podAfter]
    by_cases hns : key.first = ns
    · simp [hns]
    · simp [hns]
  | createPod ns name labels =>
    obtain ⟨-, hnew, hr'⟩ := Resources.createPod_eq_ok h
    rw [Resources.podAt_of_concat hr (p := r.newPod ns name labels) hnew (congrArg (·.pods) hr'),
      podAfter, Resources.names_newPod]
  | deletePod ns name =>
    obtain ⟨-, rfl⟩ := Resources.deletePod_eq_ok h
    rw [@Resources.podAt_of_filter r _ (fun n => !(n.first == ns && n.second == name)) rfl,
      podAfter]
    by_cases hkey : key = ⟨ns, name⟩
    · simp [hkey]
    · have hother : (key.first == ns && key.second == name) = false := by
        cases key
        simpa using hkey
      simp [hkey, hother]
  | withPodIps ips =>
    cases h
    exact Resources.podAt_withPodIps r ips key

theorem externalIps_of_apply (h : e.apply r = .ok r') : r'.externalIps = r.externalIps := by
  cases e with
  | setNamespaceLabels ns labels =>
    obtain ⟨-, rfl⟩ := Resources.setNamespaceLabels_eq_ok h
    rfl
  | setPodLabels ns name labels =>
    obtain ⟨-, rfl⟩ := Resources.setPodLabels_eq_ok h
    rfl
  | createNamespace ns labels =>
    obtain ⟨-, rfl⟩ := Resources.createNamespace_eq_ok h
    rfl
  | deleteNamespace ns =>
    obtain ⟨-, rfl⟩ := Resources.deleteNamespace_eq_ok h
    rfl
  | createPod ns name labels =>
    obtain ⟨-, -, rfl⟩ := Resources.createPod_eq_ok h
    rfl
  | deletePod ns name =>
    obtain ⟨-, rfl⟩ := Resources.deletePod_eq_ok h
    rfl
  | withPodIps ips =>
    cases h
    rfl

theorem changes_of_apply (hr : r.WellFormed) (h : e.apply r = .ok r') : e.Changes r r' :=
  ⟨namespaces_of_apply h, pods_of_apply hr h, externalIps_of_apply h⟩

theorem wellFormed_of_apply (hr : r.WellFormed) (h : e.apply r = .ok r') : r'.WellFormed := by
  cases e with
  | setNamespaceLabels ns labels => exact hr.setNamespaceLabels h
  | setPodLabels ns name labels => exact hr.setPodLabels h
  | createNamespace ns labels => exact hr.createNamespace h
  | deleteNamespace ns => exact hr.deleteNamespace h
  | createPod ns name labels => exact hr.createPod h
  | deletePod ns name => exact hr.deletePod h
  | withPodIps ips =>
    cases h
    exact hr.withPodIps ips

variable {edits : List Edit}

theorem externalIps_of_history (h : edits.foldlM apply base = .ok r) :
    r.externalIps = base.externalIps :=
  Fallible.kept_by_foldlM (P := fun s => s.externalIps = base.externalIps)
    (fun _ _ _ hs hstep => (externalIps_of_apply hstep).trans hs) h rfl

/-- Every history of edits of a model in order leads to one. -/
theorem wellFormed_of_history (hbase : base.WellFormed) (h : edits.foldlM apply base = .ok r) :
    r.WellFormed :=
  Fallible.kept_by_foldlM (fun _ _ _ hs hstep => wellFormed_of_apply hs hstep) h hbase

/-- From the deployed model on, every history keeps the order of pods, their homes, the names of
namespaces and the addresses outside; and on every model so reached an edit is refused only for what
it does not find or finds in its place, and changes only what it names. -/
theorem history_keeps_order {namespaces pods externalIps : List String} {ports : List Nat}
    {protocols : List Protocol}
    (hbase : Resources.default namespaces pods ports protocols externalIps = .ok base)
    (hn : namespaces.Nodup) (hp : pods.Nodup) (h : edits.foldlM apply base = .ok r) :
    r.WellFormed ∧ (r.externalIps.Pairwise fun ip ip' => compare ip ip' = .lt) ∧
      r.externalIps = base.externalIps ∧
      ∀ e : Edit, (∀ x, e.apply r = .error x ↔ e.Refused r x) ∧
        ∀ r', e.apply r = .ok r' → e.Changes r r' := by
  have hr : r.WellFormed := wellFormed_of_history (Resources.wellFormed_default hbase hn hp) h
  have hips : r.externalIps = base.externalIps := externalIps_of_history h
  refine ⟨hr, ?_, hips, fun e => ⟨fun x => apply_eq_error_iff, fun r' => changes_of_apply hr⟩⟩
  rw [hips, Resources.externalIps_of_default hbase]
  exact Ordered.pairwise_distinct externalIps

theorem history_keeps_order_of_every_edit :
    ∃ base r, Resources.default ["y", "x"] ["b", "a"] [80] [.tcp] ["10.9.0.2", "10.9.0.1"] =
        .ok base ∧
      [createNamespace "z" .empty, createPod "z" "c" (podLabels "c"),
        setPodLabels "x" "b" (.ofList [("pod", "c")]), setNamespaceLabels "x" .empty,
        withPodIps (.ofList [("x/b", "10.0.0.1")]), deletePod "x" "a",
        deleteNamespace "y"].foldlM apply base = .ok r ∧
      r.pods.map (·.names) = [⟨"x", "b"⟩, ⟨"z", "c"⟩] ∧ r.WellFormed ∧
      r.externalIps = base.externalIps ∧
      ∀ e : Edit, (∀ x, e.apply r = .error x ↔ e.Refused r x) ∧
        ∀ r', e.apply r = .ok r' → e.Changes r r' := by
  obtain ⟨base, hbase, hrun⟩ := Fallible.exists_ok_of_any
    (x := Resources.default ["y", "x"] ["b", "a"] [80] [.tcp] ["10.9.0.2", "10.9.0.1"])
    (p := fun base => ([createNamespace "z" .empty, createPod "z" "c" (podLabels "c"),
        setPodLabels "x" "b" (.ofList [("pod", "c")]), setNamespaceLabels "x" .empty,
        withPodIps (.ofList [("x/b", "10.0.0.1")]), deletePod "x" "a",
        deleteNamespace "y"].foldlM apply base).toOption.any fun r =>
          r.pods.map (·.names) == [⟨"x", "b"⟩, ⟨"z", "c"⟩])
    (by decide +kernel)
  obtain ⟨r, hr, hpods⟩ := Fallible.exists_ok_of_any hrun
  obtain ⟨hordered, -, hips, hedits⟩ :=
    history_keeps_order hbase (by decide) (by decide) hr
  exact ⟨base, r, hbase, hr, eq_of_beq hpods, hordered, hips, hedits⟩

end Edit
end PodTraffic
