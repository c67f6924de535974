import PodTraffic.Proofs.Cluster.Calls

/-!
# Clusters that hold objects of models

As long as only pods and services of models are created, every pod stands under its own names and
runs at an address, pods and policies do not outlive their namespaces, and every service is the
service of some pod.
-/
namespace PodTraffic

/-- The pod stands under its names and runs. -/
structure PodObject.Running (o : PodObject) (key : NamePair) : Prop where
  ns : o.ns = some key.first
  name : o.name = some key.second
  status : ∃ id, o.status = some { phase := some "Running", ip := some (Cluster.addressOf id) }

/-- Namespaces that are allowed, and what a model needs. -/
def Permit.ofModels (allowed : String → Prop) : Permit where
  namespaces := allowed
  pods o := ∃ (p : Pod) (image : String), o = p.object image
  services s := ∃ p : Pod, s = p.serviceObject

namespace Cluster

structure Orderly (allowed : String → Prop) (c : Cluster) : Prop where
  namespaces : ∀ ns, c.namespaces.contains ns = true → allowed ns
  pods : ∀ key o, c.pods.get? key = some o →
    c.namespaces.contains key.first = true ∧ o.Running key
  /-- Policies are stored with default types. -/
  policies : ∀ key p, c.policies.get? key = some p →
    c.namespaces.contains key.first = true ∧ policyKey p = key ∧ p.withDefaultTypes = p

theorem withDefaultTypes_withDefaultTypes (p : NetworkPolicy) :
    p.withDefaultTypes.withDefaultTypes = p.withDefaultTypes := by
  obtain ⟨metadata, spec⟩ := p
  cases spec with
  | none => rfl
  | some spec =>
    by_cases htypes : spec.policyTypes.getD [] = [] <;>
      simp [NetworkPolicy.withDefaultTypes, htypes]

namespace Orderly

variable {allowed allowed' : String → Prop} {c c' : Cluster} {ns : String} {labels : Labels}
  {key : NamePair}

theorem mono (h : c.Orderly allowed)
    (hallowed : ∀ ns, c.namespaces.contains ns = true → allowed' ns) : c.Orderly allowed' :=
  ⟨hallowed, h.pods, h.policies⟩

theorem withNamespace (h : c.Orderly allowed) (hns : allowed ns) (labels : Labels) :
    (c.withNamespace ns labels).Orderly allowed where
  namespaces := by
    intro ns' hcontains
    simp only [Cluster.withNamespace, SortedMap.contains_insert, Bool.or_eq_true, beq_iff_eq]
      at hcontains
    rcases hcontains with rfl | hcontains
    · exact hns
    · exact h.namespaces ns' hcontains
  pods := by
    intro key o ho
    obtain ⟨hkey, hrunning⟩ := h.pods key o ho
    exact ⟨by simp [Cluster.withNamespace, hkey], hrunning⟩
  policies := by
    intro key p hp
    obtain ⟨hkey, hrest⟩ := h.policies key p hp
    exact ⟨by simp [Cluster.withNamespace, hkey], hrest⟩

/-- The objects of a namespace go with it. -/
theorem dropNamespace (h : c.Orderly allowed) (ns : String) :
    (c.dropNamespace ns).Orderly fun ns' => allowed ns' ∧ ns' ≠ ns where
  namespaces := by
    intro ns' hcontains
    simp only [Cluster.dropNamespace, SortedMap.contains_erase, Bool.and_eq_true, bne_iff_ne]
      at hcontains
    exact ⟨h.namespaces ns' hcontains.2, hcontains.1⟩
  pods := by
    intro key o ho
    simp only [Cluster.dropNamespace, SortedMap.get?_filter, Option.filter_eq_some_iff] at ho
    obtain ⟨hkey, hrunning⟩ := h.pods key o ho.1
    exact ⟨by simp [Cluster.dropNamespace, hkey, ho.2], hrunning⟩
  policies := by
    intro key p hp
    simp only [Cluster.dropNamespace, SortedMap.get?_filter, Option.filter_eq_some_iff] at hp
    obtain ⟨hkey, hrest⟩ := h.policies key p hp.1
    exact ⟨by simp [Cluster.dropNamespace, hkey, hp.2], hrest⟩

theorem withPolicy (h : c.Orderly allowed) {p : NetworkPolicy}
    (hns : c.namespaces.contains p.ns = true) : (c.withPolicy p).Orderly allowed where
  namespaces := h.namespaces
  pods := h.pods
  policies := by
    intro key q hq
    simp only [Cluster.withPolicy, SortedMap.get?_insert] at hq
    split at hq
    · next hkey =>
      cases hq
      rw [eq_of_beq hkey]
      exact ⟨hns, rfl, withDefaultTypes_withDefaultTypes p⟩
    · exact h.policies key q hq

theorem withPods (h : c.Orderly allowed) {pods : SortedMap NamePair PodObject} {n : Nat}
    (hpods : ∀ key o, pods.get? key = some o →
      c.namespaces.contains key.first = true ∧ o.Running key) :
    Orderly allowed { c with pods := pods, podsCreated := n } :=
  ⟨h.namespaces, hpods, h.policies⟩

theorem change (h : c.Orderly allowed) (hc : Change (.ofModels allowed) c c') :
    c'.Orderly allowed := by
  cases hc with
  | createNamespace ns labels hns => exact h.withNamespace hns labels
  | relabelNamespace ns labels hns => exact h.withNamespace (h.namespaces ns hns) labels
  | dropNamespace ns => exact (h.dropNamespace ns).mono fun ns' hns' =>
      ((h.dropNamespace ns).namespaces ns' hns').1
  | createPolicy p haccepts hns => exact h.withPolicy hns
  | updatePolicy p present haccepts hkey => exact h.withPolicy (h.policies _ _ hkey).1
  | dropPolicies keep =>
    refine ⟨h.namespaces, h.pods, fun key p hp => h.policies key p ?_⟩
    simp only [SortedMap.get?_filter, Option.filter_eq_some_iff] at hp
    exact hp.1
  | createPod p hpermit hns hnew =>
    obtain ⟨q, image, rfl⟩ := hpermit
    refine h.withPods fun key o ho => ?_
    rw [SortedMap.get?_insert] at ho
    split at ho
    · next hkey =>
      cases ho
      rw [eq_of_beq hkey]
      exact ⟨hns, rfl, rfl, _, rfl⟩
    · exact h.pods key o ho
  | relabelPod key o labels ho =>
    refine h.withPods fun key' o' ho' => ?_
    rw [SortedMap.get?_insert] at ho'
    split at ho'
    · next hkey =>
      cases ho'
      rw [eq_of_beq hkey]
      obtain ⟨hns, hrunning⟩ := h.pods key o ho
      exact ⟨hns, hrunning.ns, hrunning.name, hrunning.status⟩
    · exact h.pods key' o' ho'
  | dropPod key =>
    refine h.withPods fun key' o ho => h.pods key' o ?_
    rw [SortedMap.get?_erase] at ho
    split at ho
    · cases ho
    · exact ho
  | createService | dropService | count => exact ⟨h.namespaces, h.pods, h.policies⟩

theorem empty : Orderly allowed {} where
  namespaces _ h := nomatch h
  pods _ _ h := nomatch h
  policies _ _ h := nomatch h

theorem keeps_client (mode : ExecMode) (allowed : String → Prop) :
    (client mode).Keeps (.ofModels allowed) (Orderly allowed) :=
  Cluster.keeps_client mode fun _ _ hc h => h.change hc

end Orderly

/-- Every service is the service of some pod. -/
def Fronts (c : Cluster) : Prop :=
  ∀ key s, c.services.get? key = some s → ∃ p : Pod, key = ⟨p.ns, p.service⟩ ∧ s = p.serviceObject

theorem Fronts.change {allowed : String → Prop} {c c' : Cluster} (h : c.Fronts)
    (hc : Change (.ofModels allowed) c c') : c'.Fronts := by
  intro key s hs
  cases hc with
  | createNamespace | relabelNamespace | createPolicy | updatePolicy | dropPolicies | createPod
    | relabelPod | dropPod | count => exact h key s hs
  | dropNamespace ns =>
    simp only [dropNamespace, SortedMap.get?_filter, Option.filter_eq_some_iff] at hs
    exact h key s hs.1
  | createService new hpermit hns hnew =>
    obtain ⟨p, rfl⟩ := hpermit
    simp only [withService, SortedMap.get?_insert] at hs
    split at hs
    · next hkey =>
      cases hs
      exact ⟨p, eq_of_beq hkey, rfl⟩
    · exact h key s hs
  | dropService key' =>
    simp only [withoutService, SortedMap.get?_erase] at hs
    split at hs
    · cases hs
    · exact h key s hs

end Cluster
end PodTraffic
