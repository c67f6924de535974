import PodTraffic.Proofs.Cluster.Deploy
import PodTraffic.Proofs.Cluster.Orderly

/-!
# Clusters that a model tracks

A cluster in memory carries a model when both tell the same of namespaces, pods and labels; with the
addresses of the pods in the model, the model tracks the cluster. Reconciling brings any orderly
cluster to that.
-/
namespace PodTraffic

/-- What a cluster tells of a pod. -/
def PodObject.told (o : PodObject) : Labels × Option String := (o.labelMap, o.ipText?)

/-- What a model tells of it. -/
def Pod.told (p : Pod) : Labels × Option String := (p.labels, some p.ip)

namespace Cluster

structure Carries (c : Cluster) (r : Resources) : Prop where
  namespaces : c.namespaces = r.namespaces
  labels : ∀ key, (c.pods.get? key).map (·.labelMap) = (r.podAt key).map (·.labels)
  services : ∀ p ∈ r.pods, c.services.contains ⟨p.ns, p.service⟩ = true

structure Tracks (c : Cluster) (r : Resources) : Prop where
  namespaces : c.namespaces = r.namespaces
  pods : ∀ key, (c.pods.get? key).map (·.told) = (r.podAt key).map (·.told)
  services : ∀ p ∈ r.pods, c.services.contains ⟨p.ns, p.service⟩ = true

theorem addressOf_ne_empty (id : Nat) : addressOf id ≠ "" := by
  intro h
  have hchars := congrArg String.toList h
  simp [addressOf] at hchars

end Cluster

namespace PodObject.Running

variable {o : PodObject} {key : NamePair}

theorem key_eq (h : o.Running key) : o.key = key := by
  rw [PodObject.key, h.ns, h.name]
  rfl

theorem runningIp?_eq (h : o.Running key) :
    ∃ ip, o.ipText? = some ip ∧ Resources.runningIp? o = some (key.text, ip) := by
  obtain ⟨id, hstatus⟩ := h.status
  refine ⟨Cluster.addressOf id, ?_, ?_⟩
  · rw [PodObject.ipText?, hstatus]
    rfl
  · simp [Resources.runningIp?, h.ns, h.name, hstatus, Cluster.addressOf_ne_empty]

end PodObject.Running

namespace Resources

/-- The model before its pods have addresses. -/
def withoutIps (r : Resources) : Resources :=
  { r with pods := r.pods.map fun p => { p with ip := "" } }

theorem withoutIps_withPodIps (r : Resources) (ips : SortedMap String String) :
    (r.withPodIps ips).withoutIps = r.withoutIps := by
  simp [withoutIps, withPodIps, Function.comp_def]

/-- What does not look at addresses is the same on models that differ in nothing else. -/
theorem map_pods_of_withoutIps_eq {α : Type} {r r' : Resources} {f : Pod → α}
    (hf : ∀ p : Pod, f { p with ip := "" } = f p) (h : r'.withoutIps = r.withoutIps) :
    r'.pods.map f = r.pods.map f := by
  have hmap : ∀ r : Resources, r.withoutIps.pods.map f = r.pods.map f := by
    intro r
    rw [withoutIps, List.map_map]
    exact List.map_congr_left fun p _ => hf p
  rw [← hmap, h, hmap]

/-- Such models have the same pods, as far as that goes. -/
theorem exists_of_withoutIps_eq {α : Type} {r r' : Resources} {f : Pod → α}
    (hf : ∀ p : Pod, f { p with ip := "" } = f p) (h : r'.withoutIps = r.withoutIps) {p : Pod}
    (hp : p ∈ r'.pods) : ∃ q ∈ r.pods, f q = f p :=
  List.mem_map.mp (map_pods_of_withoutIps_eq hf h ▸ List.mem_map_of_mem hp)

end Resources

theorem Permit.covers_ofModels {allowed : String → Prop} {r : Resources}
    (h : ∀ ns, r.namespaces.contains ns = true → allowed ns) (image : String) :
    (Permit.ofModels allowed).Covers image r :=
  ⟨h, fun p _ => ⟨p, image, rfl⟩, fun p _ => ⟨p, rfl⟩⟩

namespace Cluster

open Resources

variable {c c₁ c₂ c' : Cluster} {r : Resources} {image : String} {mode : ExecMode}

/-- The addresses of the running pods in the namespaces of a model. -/
def runningIps (c : Cluster) (r : Resources) : SortedMap String String :=
  .ofList ((inside r.namespaceNames c.pods).filterMap runningIp?)

/-- Waiting changes nothing, and ends well if every pod of the model runs. -/
theorem run_awaitIps (mode : ExecMode) (r : Resources) (c : Cluster) :
    ∃ answer, (awaitIps (client mode) r).run.run c = (answer, c) ∧
      ((∀ p ∈ r.pods, (c.runningIps r).contains p.key = true) →
        answer = .ok (r.withPodIps (c.runningIps r))) := by
  have hrun : (awaitIps (client mode) r).run.run c = _ :=
    Stateful.run_bind_of_ok (x := listPods r.namespaceNames) (s := c) rfl
  rw [hrun]
  simp only []
  split
  · exact ⟨_, rfl, fun _ => rfl⟩
  · next pending hpending =>
    refine ⟨_, rfl, fun hall => absurd ?_ hpending⟩
    rw [List.length_eq_zero_iff, List.filter_eq_nil_iff]
    intro key hkey
    obtain ⟨p, hp, rfl⟩ := List.mem_map.mp (Ordered.mem_distinct.mp hkey)
    have hcontains : (c.runningIps r).contains p.key = true := hall p hp
    simpa [runningIps] using hcontains

theorem inside_eq_values {α : Type} {namespaces : List String} {m : SortedMap NamePair α}
    (h : ∀ key x, m.get? key = some x → key.first ∈ namespaces) :
    inside namespaces m = m.values := by
  rw [inside, SortedMap.values, List.filter_eq_self.mpr]
  intro e he
  exact List.contains_iff_mem.mpr (h e.1 e.2 (SortedMap.get?_eq_some_iff.mpr he))

/-- Of a cluster whose pods run in the namespaces of the model, the running addresses are those of
the pods, by key. -/
theorem get?_runningIps {r : Resources} (hc : c.Orderly NoSlash)
    (hns : ∀ ns, c.namespaces.contains ns = true → r.namespaces.contains ns = true)
    {key : NamePair} {o : PodObject} (ho : c.pods.get? key = some o) :
    (c.runningIps r).get? key.text = o.ipText? ∧ o.ipText?.isSome = true := by
  have hinside : inside r.namespaceNames c.pods = c.pods.values :=
    inside_eq_values fun key x hx =>
      SortedMap.contains_iff_mem_keys.mp (hns _ (hc.pods key x hx).1)
  have hlist : (inside r.namespaceNames c.pods).filterMap runningIp? =
      c.pods.entries.map fun e => (e.1.text, e.2.ipText?.getD "") := by
    rw [hinside, SortedMap.values, List.filterMap_map, ← List.filterMap_eq_map]
    refine List.filterMap_congr fun e he => ?_
    obtain ⟨-, hrunning⟩ := hc.pods e.1 e.2 (SortedMap.get?_eq_some_iff.mpr he)
    obtain ⟨ip, hip, heq⟩ := hrunning.runningIp?_eq
    simp [heq, hip]
  have hnodup :
      ((c.pods.entries.map fun e => (e.1.text, e.2.ipText?.getD "")).map (·.1)).Nodup := by
    have hslash : ∀ key ∈ c.pods.keys, NoSlash key.first := by
      intro key hkey
      obtain ⟨o, ho⟩ := SortedMap.mem_keys_iff.mp hkey
      exact hc.namespaces _ (hc.pods key o ho).1
    have hkeys : (c.pods.keys.map NamePair.text).Nodup :=
      c.pods.keys_nodup.map_on fun key hkey key' hkey' htext =>
        NamePair.eq_of_text_eq (hslash key hkey) (hslash key' hkey') htext
    simpa [SortedMap.keys, Function.comp_def] using hkeys
  obtain ⟨ip, hip, -⟩ := (hc.pods key o ho).2.runningIp?_eq
  rw [hip]
  refine ⟨?_, rfl⟩
  rw [runningIps, hlist, SortedMap.get?_ofList_eq_some_iff hnodup]
  refine List.mem_map.mpr ⟨(key, o), SortedMap.get?_eq_some_iff.mp ho, ?_⟩
  rw [hip]
  rfl

/-- A cluster that carries the model is tracked by it once the model has the addresses. -/
theorem Carries.tracks {r : Resources} (h : c.Carries r) (hc : c.Orderly NoSlash) :
    (∀ p ∈ r.pods, (c.runningIps r).contains p.key = true) ∧
      c.Tracks (r.withPodIps (c.runningIps r)) := by
  have hns : ∀ ns, c.namespaces.contains ns = true → r.namespaces.contains ns = true := by
    rw [h.namespaces]
    exact fun ns hns => hns
  have hip : ∀ key o, c.pods.get? key = some o →
      (c.runningIps r).get? key.text = o.ipText? ∧ o.ipText?.isSome = true :=
    fun key o ho => get?_runningIps hc hns ho
  refine ⟨fun p hp => ?_, h.namespaces, fun key => ?_, fun p hp => ?_⟩
  · obtain ⟨q, hq⟩ := exists_podAt hp
    have hlabels := h.labels p.names
    rw [hq, Option.map_some, Option.map_eq_some_iff] at hlabels
    obtain ⟨o, ho, -⟩ := hlabels
    obtain ⟨hget, hsome⟩ := hip _ o ho
    rw [SortedMap.contains, Pod.key_eq, hget]
    exact hsome
  · have hlabels := h.labels key
    rw [podAt_withPodIps]
    cases hp : r.podAt key with
    | none =>
      rw [hp, Option.map_none, Option.map_eq_none_iff] at hlabels
      rw [hlabels]
      rfl
    | some p =>
      rw [hp, Option.map_some, Option.map_eq_some_iff] at hlabels
      obtain ⟨o, ho, hlabels⟩ := hlabels
      obtain ⟨hget, hsome⟩ := hip key o ho
      obtain ⟨ip, hip⟩ := Option.isSome_iff_exists.mp hsome
      obtain ⟨-, rfl⟩ := podAt_eq_some hp
      rw [ho, Option.map_some, Option.map_some, Option.map_some, Pod.key_eq, hget,
        PodObject.told, hlabels, hip]
      rfl
  · obtain ⟨q, hq, rfl⟩ := List.mem_map.mp hp
    exact h.services q hq

namespace Tracks

theorem exists_podAt_iff (h : c.Tracks r) {key : NamePair} :
    (∃ o, c.pods.get? key = some o) ↔ ∃ p, r.podAt key = some p := by
  rw [← Option.isSome_iff_exists, ← Option.isSome_iff_exists, ← Option.isSome_map (f := Pod.told),
    ← h.pods key, Option.isSome_map]

theorem backs (h : c.Tracks r) {p : Pod} (hp : p ∈ r.pods) : c.Backs p where
  pod := SortedMap.contains_iff.mpr (h.exists_podAt_iff.mpr (exists_podAt hp))
  service := h.services p hp

/-- The pods of the cluster, in order, are those of the model. -/
theorem entries_eq (h : c.Tracks r) (hr : r.WellFormed) :
    c.pods.entries.map (fun e => (e.1, e.2.told)) = r.pods.map fun p => (p.names, p.told) := by
  let told : SortedMap NamePair (Labels × Option String) :=
    ⟨r.pods.map fun p => (p.names, p.told), by
      rw [List.pairwise_map]
      exact List.pairwise_map.mp hr.sorted⟩
  have hget : ∀ key, told.get? key = (r.podAt key).map (·.told) := by
    intro key
    ext x
    rw [SortedMap.get?_eq_some_iff, Option.map_eq_some_iff]
    simp only [told, List.mem_map, Prod.mk.injEq, podAt_eq_some_iff hr.nodup]
    grind
  have heq : c.pods.map PodObject.told = told := by
    refine SortedMap.ext_get? fun key => ?_
    rw [SortedMap.map, SortedMap.get?_mapWithKey, hget, ← h.pods key]
  exact congrArg SortedMap.entries heq

end Tracks

/-- The cluster has got what it lacked of the model, and the labels of the model. -/
structure Restored (r : Resources) (c c' : Cluster) : Prop where
  namespaces : ∀ ns, c'.namespaces.get? ns =
    ((r.namespaces.get? ns).map (withNameLabel ns)).or (c.namespaces.get? ns)
  policies : c'.policies = c.policies
  pods : ∀ key, c'.pods.contains key = true →
    c.pods.contains key = true ∨ ∃ p ∈ r.pods, p.names = key
  backs : ∀ p ∈ r.pods, c'.Backs p
  /-- Of several pods with the same names, one gives the labels. -/
  labels : ∀ p ∈ r.pods, ∃ q ∈ r.pods, q.names = p.names ∧
    ∀ o, c'.pods.get? p.names = some o → o.labels = some q.labels

/-- Creation and relabelling come to their end. -/
theorem run_restore (mode : ExecMode) (image : String)
    (housed : ∀ p ∈ r.pods, r.namespaces.contains p.ns = true) (c : Cluster) :
    ∃ c₁ c', (createAll (client mode) image r).run.run c = (.ok (), c₁) ∧
      (resetLabels (client mode) r).run.run c₁ = (.ok (), c') ∧ Restored r c c' := by
  obtain ⟨namespaces, c₁, hcreate, hcreated, hgains⟩ := run_createAll mode image housed c
  have hget : ∀ ns, c₁.namespaces.get? ns =
      ((r.namespaces.get? ns).map (withNameLabel ns)).or (c.namespaces.get? ns) := by
    rw [hgains.namespaces]
    exact hcreated
  have hns : ∀ ns, r.namespaces.contains ns = true → c₁.namespaces.contains ns = true := by
    intro ns hns
    obtain ⟨labels, hlabels⟩ := SortedMap.contains_iff.mp hns
    refine SortedMap.contains_iff.mpr ⟨withNameLabel ns labels, ?_⟩
    rw [hget, hlabels]
    rfl
  obtain ⟨namespaces', c', hreset, hlabelled, hrelabels⟩ :=
    run_resetLabels mode hns fun p hp => (hgains.backs p hp).pod
  refine ⟨c₁, c', hcreate, hreset, fun ns => ?_, ?_, fun key hkey => ?_, fun p hp => ?_,
    hrelabels.labels⟩
  · rw [hrelabels.namespaces]
    refine (hlabelled ns).trans ?_
    rw [hget]
    cases r.namespaces.get? ns <;> rfl
  · exact hrelabels.policies.trans hgains.policies
  · rw [hrelabels.contains_eq] at hkey
    obtain ⟨o, ho⟩ := SortedMap.contains_iff.mp hkey
    refine (hgains.fresh key o ho).imp (fun ho => SortedMap.contains_iff.mpr ⟨o, ho⟩) ?_
    rintro ⟨p, hp, hnames, -⟩
    exact ⟨p, hp, hnames⟩
  · refine ⟨?_, ?_⟩
    · rw [hrelabels.contains_eq]
      exact (hgains.backs p hp).pod
    · rw [hrelabels.services]
      exact (hgains.backs p hp).service

/-- A cluster that had nothing but names of the model carries it once it is restored. -/
theorem Restored.carries (h : Restored r c c') (hr : r.WellFormed)
    (hns : ∀ ns, c.namespaces.contains ns = true → r.namespaces.contains ns = true)
    (hpods : ∀ key, c.pods.contains key = true → ∃ p ∈ r.pods, p.names = key) :
    c'.Carries r where
  namespaces := by
    refine SortedMap.ext_get? fun ns => ?_
    rw [h.namespaces]
    cases hlabels : r.namespaces.get? ns with
    | some labels => rw [Option.map_some, Option.some_or,
        withNameLabel_eq_self (hr.named ns labels hlabels)]
    | none =>
      have habsent : c.namespaces.contains ns ≠ true := by
        intro hcontains
        obtain ⟨labels, hlabels'⟩ := SortedMap.contains_iff.mp (hns ns hcontains)
        rw [hlabels] at hlabels'
        cases hlabels'
      rw [Option.map_none, Option.none_or]
      exact SortedMap.get?_of_contains_eq_false (Bool.eq_false_of_not_eq_true habsent)
  labels := by
    intro key
    cases hp : r.podAt key with
    | some p =>
      obtain ⟨hmem, rfl⟩ := podAt_eq_some hp
      obtain ⟨q, hq, hnames, hlabels⟩ := h.labels p hmem
      obtain ⟨o, ho⟩ := SortedMap.contains_iff.mp (h.backs p hmem).pod
      have hqp : q = p := List.inj_on_of_nodup_map hr.nodup hq hmem hnames
      rw [ho, Option.map_some, Option.map_some, PodObject.labelMap, hlabels o ho, hqp]
      rfl
    | none =>
      have habsent : c'.pods.contains key ≠ true := by
        intro hcontains
        obtain ⟨p, hmem, rfl⟩ : ∃ p ∈ r.pods, p.names = key :=
          (h.pods key hcontains).elim (hpods key) id
        rw [hr.podAt_names hmem] at hp
        cases hp
      rw [SortedMap.get?_of_contains_eq_false (Bool.eq_false_of_not_eq_true habsent)]
      rfl
  services p hp := (h.backs p hp).service

/-- The pods of an orderly cluster without namespaces beyond those of the model are pods of the
model, once strays are deleted. -/
theorem run_deleteStrays_inside (mode : ExecMode) (hr : r.WellFormed)
    (hslash : ∀ ns, r.namespaces.contains ns = true → NoSlash ns)
    (hc : c.Orderly fun ns => r.namespaces.contains ns = true) :
    ∃ c', ((inside r.namespaceNames c.pods).forM (deleteStray (client mode) r)).run.run c =
        (.ok (), c') ∧
      c'.namespaces = c.namespaces ∧ c'.policies = c.policies ∧
      ∀ key, c'.pods.contains key = true → ∃ p ∈ r.pods, p.names = key := by
  have hkeys : ∀ o ∈ inside r.namespaceNames c.pods,
      o.ns = some o.key.first ∧ o.name = some o.key.second := by
    intro o ho
    obtain ⟨e, he, rfl⟩ := List.mem_map.mp ho
    obtain ⟨-, hrunning⟩ :=
      hc.pods e.1 e.2 (SortedMap.get?_eq_some_iff.mpr (List.mem_of_mem_filter he))
    rw [hrunning.key_eq]
    exact ⟨hrunning.ns, hrunning.name⟩
  obtain ⟨c', hrun, hnamespaces, hpolicies, hsub, hgone⟩ := run_deleteStrays mode r hkeys c
  refine ⟨c', hrun, hnamespaces, hpolicies, fun key hkey => ?_⟩
  obtain ⟨o, ho⟩ := SortedMap.contains_iff.mp hkey
  have ho' := hsub key o ho
  obtain ⟨hfirst, hrunning⟩ := hc.pods key o ho'
  have hallowed := hc.namespaces _ hfirst
  have hmem : o ∈ inside r.namespaceNames c.pods :=
    List.mem_map.mpr ⟨(key, o), List.mem_filter.mpr ⟨SortedMap.get?_eq_some_iff.mp ho',
      List.contains_iff_mem.mpr (SortedMap.contains_iff_mem_keys.mp hallowed)⟩,
      rfl⟩
  rcases hgone o hmem with hwanted | hnone
  · obtain ⟨p, hp, htext⟩ :=
      List.mem_map.mp (Ordered.mem_distinct.mp (List.contains_iff_mem.mp hwanted))
    rw [hrunning.key_eq, Pod.key_eq] at htext
    exact ⟨p, hp, NamePair.eq_of_text_eq (hslash _ (hr.housed p hp)) (hslash _ hallowed) htext⟩
  · rw [hrunning.key_eq, ho] at hnone
    cases hnone

/-- Reconciling ends well on such a cluster, and the model that it returns tracks the cluster. -/
theorem run_reconcile (mode : ExecMode) (image : String) (hr : r.WellFormed)
    (hslash : ∀ ns, r.namespaces.contains ns = true → NoSlash ns)
    (hc : c.Orderly fun ns => r.namespaces.contains ns = true) :
    ∃ ips c', (reconcile (client mode) image r).run.run c = (.ok (r.withPodIps ips), c') ∧
      c'.Tracks (r.withPodIps ips) ∧ c'.policies = c.policies ∧
      c'.Orderly fun ns => r.namespaces.contains ns = true := by
  obtain ⟨c₁, hstrays, hnamespaces, hpolicies, hpods⟩ := run_deleteStrays_inside mode hr hslash hc
  obtain ⟨c₂, c₃, hcreate, hreset, hrestored⟩ := run_restore mode image hr.housed c₁
  have hcarries : c₃.Carries r := by
    refine hrestored.carries hr ?_ hpods
    rw [hnamespaces]
    exact hc.namespaces
  obtain ⟨answer, hawait, hanswer⟩ := run_awaitIps mode r c₃
  have hrun : (reconcile (client mode) image r).run.run c = (answer, c₃) :=
    (Stateful.run_bind_of_ok rfl).trans <| (Stateful.run_bind_of_ok hstrays).trans <|
      (Stateful.run_bind_of_ok hcreate).trans <| (Stateful.run_bind_of_ok hreset).trans hawait
  have hc₃ := (keeps_reconcile (Orderly.keeps_client mode _)
    (Permit.covers_ofModels (fun _ hns => hns) image)).of_run hc hrun
  obtain ⟨hall, htracks⟩ :=
    hcarries.tracks (hc₃.mono fun ns hns => hslash ns (hc₃.namespaces ns hns))
  refine ⟨_, c₃, ?_, htracks, hrestored.policies.trans hpolicies, hc₃⟩
  rw [hrun, hanswer hall]

/-- Reconciling that ends well leaves every pod of the model there, whatever there was before. -/
theorem backs_of_reconcile (housed : ∀ p ∈ r.pods, r.namespaces.contains p.ns = true)
    {r' : Resources} (h : (reconcile (client mode) image r).run.run c = (.ok r', c')) :
    ∀ p ∈ r.pods, c'.Backs p := by
  obtain ⟨pods, c₁, -, h⟩ := Stateful.exists_of_run_bind h
  obtain ⟨-, c₂, -, h⟩ := Stateful.exists_of_run_bind h
  obtain ⟨c₃, c₄, hcreate, hreset, hrestored⟩ := run_restore mode image housed c₂
  have hcreated := (Stateful.run_bind_of_ok hcreate).symm.trans h
  have hawait := (Stateful.run_bind_of_ok hreset).symm.trans hcreated
  obtain ⟨answer, hrun, -⟩ := run_awaitIps mode r c₄
  have hc : c₄ = c' := congrArg Prod.snd (hrun.symm.trans hawait)
  rw [← hc]
  exact hrestored.backs

/-- Deployment that ends well does so too. -/
theorem backs_of_deploy (housed : ∀ p ∈ r.pods, r.namespaces.contains p.ns = true)
    {r' : Resources} (h : (deploy (client mode) image r).run.run c = (.ok r', c')) :
    ∀ p ∈ r.pods, c'.Backs p := by
  obtain ⟨namespaces, c₁, hcreate, -, hgains⟩ := run_createAll mode image housed c
  have hawait := (Stateful.run_bind_of_ok hcreate).symm.trans h
  obtain ⟨answer, hrun, -⟩ := run_awaitIps mode r c₁
  have hc : c₁ = c' := congrArg Prod.snd (hrun.symm.trans hawait)
  rw [← hc]
  exact hgains.backs

/-- Verifying changes nothing. -/
theorem exists_run_verify (mode : ExecMode) (r : Resources) (c : Cluster) :
    ∃ answer, (verify (client mode) r).run.run c = (answer, c) := by
  have hkeeps : Stateful.Keeps (· = c) (verify (client mode) r) fun _ => True := keeps_verify
    (fun ns => keeps_found .ns ns (·.namespaces.get? ns))
    (fun ns name => keeps_found .pod _ (·.pods.get? ⟨ns, name⟩))
    (fun ns name => keeps_found .service _ (·.services.get? ⟨ns, name⟩)) r
  exact ⟨_, Prod.ext rfl (hkeeps c rfl).1⟩

/-- A model finds the cluster that it tracks as it should be. -/
theorem Tracks.run_verify (h : c.Tracks r) (hr : r.WellFormed) (mode : ExecMode) :
    (verify (client mode) r).run.run c = (.ok (), c) := by
  have hnamespace : ∀ (_ : List (String × Labels)) c', ∀ e ∈ r.namespaces.entries, c' = c →
      ∃ c'', (verifyNamespace (client mode) e.1 e.2).run.run c' = (.ok (), c'') ∧ c'' = c := by
    rintro - _ e he rfl
    have hlabels : r.namespaces.get? e.1 = some e.2 := SortedMap.get?_eq_some_iff.mpr he
    have hget := run_getNamespace (h.namespaces ▸ hlabels)
    refine ⟨_, (Stateful.run_bind_of_ok hget).trans ?_, rfl⟩
    simp only []
    rw [withNameLabel_eq_self (hr.named e.1 e.2 hlabels), if_neg (not_not_intro rfl)]
    rfl
  have hpod : ∀ (_ : List Pod) c', ∀ p ∈ r.pods, c' = c →
      ∃ c'', (verifyPod (client mode) p).run.run c' = (.ok (), c'') ∧ c'' = c := by
    rintro - _ p hp rfl
    have htold := h.pods p.names
    rw [hr.podAt_names hp, Option.map_some] at htold
    obtain ⟨o, ho, htold⟩ := Option.map_eq_some_iff.mp htold
    obtain ⟨hlabels, haddress⟩ := Prod.mk.inj htold
    obtain ⟨s, hs⟩ := SortedMap.contains_iff.mp (h.services p hp)
    refine ⟨_, (Stateful.run_bind_of_ok (run_getPod ho)).trans ?_, rfl⟩
    simp only [hlabels, haddress, Option.getD_some]
    rw [if_neg (not_not_intro rfl), if_neg (by simp)]
    exact Stateful.run_discard_of_ok (run_getService hs)
  obtain ⟨_, hnamespaces, rfl⟩ := Stateful.run_forM (fun _ c' => c' = c) rfl hnamespace
  obtain ⟨_, hpods, rfl⟩ := Stateful.run_forM (fun _ c' => c' = _) rfl hpod
  exact (Stateful.run_bind_of_ok hnamespaces).trans hpods

end Cluster
end PodTraffic
