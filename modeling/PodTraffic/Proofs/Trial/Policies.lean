import PodTraffic.Proofs.SortedMap
import PodTraffic.Proofs.Text.Cut
import PodTraffic.Proofs.Trial.Reset

/-!
# Trials and clusters do not drift apart

In a trial that began with a reset, the model and the listed policies tell what the cluster holds,
after any actions that were accepted; an action that is refused changes neither.
-/
namespace PodTraffic

/-- The action, if it reads policies, reads those of every namespace that has any. -/
def Action.ReadsAll (c : Cluster) : Action → Prop
  | .readPolicies namespaces => ∀ key p, c.policies.get? key = some p → key.first ∈ namespaces
  | _ => True

namespace TrialState

/-- The trial lists the policies that the cluster stores, under their full names. -/
structure ListsPolicies (t : TrialState) (c : Cluster) : Prop where
  unique : t.policies.names.Nodup
  mem_iff : ∀ name p, (name, p) ∈ t.policies ↔
    ∃ key, c.policies.get? key = some p ∧ key.text = name

/-- What the trial takes the cluster to hold is what it holds. -/
structure Matches (t : TrialState) (c : Cluster) : Prop where
  namespaces : c.namespaces = t.resources.namespaces
  pods : c.pods.entries.map (fun e => (e.1, e.2.told)) =
    t.resources.pods.map fun p => (p.names, p.told)
  services : ∀ p ∈ t.resources.pods, c.services.contains ⟨p.ns, p.service⟩ = true
  policies : t.ListsPolicies c

theorem isInside_text {ns : String} {key : NamePair} (hns : NoSlash ns) (hkey : NoSlash key.first) :
    isInside ns key.text = (key.first == ns) := by
  unfold isInside
  rw [String.toList_append, NamePair.toList_text]
  by_cases hfirst : key.first = ns
  · have happend : key.first.toList ++ '/' :: key.second.toList =
        (ns.toList ++ "/".toList) ++ key.second.toList := by
      rw [hfirst, List.append_assoc]
      rfl
    rw [happend, Text.after?_append]
    simp [hfirst]
  · cases hafter : Text.after? (ns.toList ++ "/".toList)
        (key.first.toList ++ '/' :: key.second.toList) with
    | none => simp [hfirst]
    | some rest =>
      have happend := Text.eq_append_of_after? hafter
      rw [List.append_assoc] at happend
      obtain ⟨heq, -⟩ := Text.eq_of_append_mark hkey hns happend
      exact absurd (String.toList_injective heq) hfirst

namespace ListsPolicies

variable {t : TrialState} {c : Cluster} {p : NetworkPolicy}

theorem text_injective (hc : c.Orderly NoSlash) {key key' : NamePair} {q : NetworkPolicy}
    (hq : c.policies.get? key = some q) (hkey' : NoSlash key'.first) (h : key.text = key'.text) :
    key = key' :=
  NamePair.eq_of_text_eq (hc.namespaces _ (hc.policies key q hq).1) hkey' h

/-- A policy is written under its key there, under its full name here. -/
theorem put (h : t.ListsPolicies c) (hc : c.Orderly NoSlash) (hp : NoSlash p.ns) :
    (t.putPolicy p).ListsPolicies (c.withPolicy p) where
  unique := Listing.nodup_names_put h.unique _ _
  mem_iff := by
    intro name q
    rw [putPolicy, Listing.mem_put, Cluster.withPolicy]
    simp only [SortedMap.get?_insert, h.mem_iff]
    constructor
    · rintro (heq | ⟨hne, key, hkey, rfl⟩)
      · cases heq
        exact ⟨Cluster.policyKey p, if_pos (beq_self_eq_true _), rfl⟩
      · refine ⟨key, ?_, rfl⟩
        rw [if_neg, hkey]
        intro hkey'
        rw [eq_of_beq hkey'] at hne
        exact hne rfl
    · rintro ⟨key, hq, rfl⟩
      split at hq
      · next hkey =>
        cases hq
        rw [eq_of_beq hkey]
        exact .inl rfl
      · next hkey =>
        have hslash : NoSlash (Cluster.policyKey p).first := hp
        refine .inr ⟨fun htext => hkey ?_, key, hq, rfl⟩
        exact beq_iff_eq.mpr (text_injective hc hq hslash htext)

theorem erase (h : t.ListsPolicies c) (hc : c.Orderly NoSlash) {key : NamePair}
    (hkey : c.policies.get? key = some p) :
    ListsPolicies { t with policies := t.policies.erase key.text } (c.withoutPolicy key) where
  unique := Listing.nodup_names_filter h.unique _
  mem_iff := by
    intro name q
    simp only [Listing.mem_erase, h.mem_iff, Cluster.withoutPolicy, SortedMap.get?_erase]
    constructor
    · rintro ⟨hne, key', hq, rfl⟩
      refine ⟨key', ?_, rfl⟩
      rw [if_neg, hq]
      intro heq
      exact hne (congrArg NamePair.text (eq_of_beq heq))
    · rintro ⟨key', hq, rfl⟩
      split at hq
      · cases hq
      · next hne =>
        refine ⟨fun htext => hne (beq_iff_eq.mpr ?_), key', hq, rfl⟩
        exact text_injective hc hq (hc.namespaces _ (hc.policies key p hkey).1) htext

/-- Policies that are read in every namespace that has any are all policies. -/
theorem read (t : TrialState) (hc : c.Orderly NoSlash) {namespaces : List String}
    (hall : ∀ key p, c.policies.get? key = some p → key.first ∈ namespaces) :
    ListsPolicies
      { t with policies :=
          .ofList ((Cluster.inside namespaces c.policies).map fun p => (p.fullName, p)) } c := by
  have hlist : (Cluster.inside namespaces c.policies).map (fun p => (p.fullName, p)) =
      c.policies.entries.map fun e => (e.1.text, e.2) := by
    rw [Cluster.inside_eq_values hall, SortedMap.values, List.map_map]
    refine List.map_congr_left fun e he => ?_
    obtain ⟨-, hkey, -⟩ := hc.policies e.1 e.2 (SortedMap.get?_eq_some_iff.mpr he)
    rw [← hkey]
    rfl
  have hnodup : ((c.policies.entries.map fun e => (e.1.text, e.2)).map (·.1)).Nodup := by
    have hkeys : (c.policies.keys.map NamePair.text).Nodup :=
      c.policies.keys_nodup.map_on fun key hkey key' hkey' htext => by
        obtain ⟨p, hp⟩ := SortedMap.mem_keys_iff.mp hkey
        obtain ⟨p', hp'⟩ := SortedMap.mem_keys_iff.mp hkey'
        exact text_injective hc hp (hc.namespaces _ (hc.policies key' p' hp').1) htext
    simpa [SortedMap.keys, Function.comp_def] using hkeys
  rw [hlist, Listing.ofList_eq_self hnodup]
  refine ⟨hnodup, fun name q => ?_⟩
  rw [List.mem_map]
  constructor
  · rintro ⟨e, he, heq⟩
    cases heq
    exact ⟨e.1, SortedMap.get?_eq_some_iff.mpr he, rfl⟩
  · rintro ⟨key, hq, rfl⟩
    exact ⟨(key, q), SortedMap.get?_eq_some_iff.mp hq, rfl⟩

/-- The policies of a namespace go with it. -/
theorem deleteNamespace (h : t.ListsPolicies c) (hc : c.Orderly NoSlash) {ns : String}
    (hns : NoSlash ns) (r : Resources) :
    ListsPolicies { resources := r, policies := t.policies.filter fun e => !isInside ns e.1 }
      (c.dropNamespace ns) where
  unique := Listing.nodup_names_filter h.unique _
  mem_iff := by
    intro name q
    let keep (key : NamePair) : Bool := key.first != ns
    have hget : ∀ key, (c.policies.filter fun key _ => keep key).get? key =
        if keep key then c.policies.get? key else none :=
      fun key => SortedMap.get?_filter_keys keep c.policies key
    rw [List.mem_filter, h.mem_iff]
    simp only [Cluster.dropNamespace]
    have hinside : ∀ key, c.policies.get? key = some q → (!isInside ns key.text) = keep key := by
      intro key hq
      rw [isInside_text hns (hc.namespaces _ (hc.policies key q hq).1)]
      rfl
    constructor
    · rintro ⟨⟨key, hq, rfl⟩, hout⟩
      rw [hinside key hq] at hout
      exact ⟨key, by rw [hget, hout, if_pos rfl, hq], rfl⟩
    · rintro ⟨key, hq, rfl⟩
      rw [hget] at hq
      split at hq
      · next hkeep => exact ⟨⟨key, hq, rfl⟩, (hinside key hq).trans hkeep⟩
      · cases hq

end ListsPolicies

end TrialState

namespace Trial

variable {mode : ExecMode} {config : Config} {base : Resources} {s s' s₀ : Session Cluster}
  {t t' : TrialState} {c c' : Cluster} {a : Action} {image : String}

theorem Effect.listsPolicies (h : Effect image t c a t' c') (ht : t.ListsPolicies c)
    (hc : c.Orderly NoSlash) (ha : a.ReadsAll c) : t'.ListsPolicies c' := by
  cases h with
  | createPolicy p hnew hns hkey => exact ht.put hc (hc.namespaces _ hns)
  | updatePolicy p present hold hkey =>
    exact ht.put hc (hc.namespaces _ (hc.policies _ _ hkey).1)
  | deletePolicy ns name p hold hkey => exact ht.erase hc hkey
  | readPolicies namespaces => exact .read t hc ha
  | setPodLabels | setNamespaceLabels | createNamespace | deletePod =>
    exact ⟨ht.unique, ht.mem_iff⟩
  | deleteNamespace ns r hr hns => exact ht.deleteNamespace hc (hc.namespaces _ hns) r
  | createPod ns name labels r c' o ip hr hgains ho hip =>
    exact ⟨ht.unique, by rw [hgains.policies]; exact ht.mem_iff⟩

theorem InStep.matches_of_lists (h : InStep base t s) (ht : t.ListsPolicies s.cluster) :
    t.Matches s.cluster :=
  ⟨h.tracks.namespaces, h.tracks.entries_eq h.wellFormed, h.tracks.services, ht⟩

/-- In every trial that began with a reset, whatever trials did before it, what the trial takes the
cluster to hold is what it holds, after any actions that were accepted and any probes. An action
that is refused changes nothing. -/
theorem Reaches.matches_cluster (hreset : config.trial.resetBefore = true)
    (hnames : config.cluster.NamesApart)
    (hdeploy : deploy (Cluster.client mode) config.cluster {} = .ok s₀)
    (hs : Session.Reached (Cluster.client mode) config (fun _ _ a => a.Plain) s₀ s)
    (ht : Reaches (Cluster.client mode) config (fun _ c a => a.Plain ∧ a.ReadsAll c) s t s') :
    t.Matches s'.cluster ∧
      ∀ a e s'', (t.apply (Cluster.client mode) config.cluster.image a).run.run s' =
        (.error e, s'') → s'' = s' := by
  obtain ⟨base, hbase, hslash, hs₀⟩ := exists_tidy_of_deploy hnames hdeploy
  have htidy := tidy_of_reached hreset hbase hslash (fun _ _ _ ha => ha) hs₀ hs
  have hstep : ∀ {t s'}, Reaches (Cluster.client mode) config
      (fun _ c a => a.Plain ∧ a.ReadsAll c) s t s' → InStep base t s' :=
    fun ht => ht.inStep hreset hbase hslash (fun _ _ _ ha => ha.1) htidy
  have hlists : t.ListsPolicies s'.cluster := by
    induction ht with
    | prepared hrun =>
      obtain ⟨s'', hprepare, -, hempty⟩ := run_prepare hreset hbase hslash mode htidy
      cases hrun.symm.trans hprepare
      refine ⟨.nil, fun name p => ?_⟩
      rw [hempty]
      simp
    | acted ht hpermits hrun ih =>
      exact (effect_of_run hrun).1.listsPolicies ih (hstep ht).cluster hpermits.2
    | probed ht ports simulated ih =>
      obtain ⟨answer, n, hrun⟩ := run_attempt mode config.trial _ ports simulated _
      rw [hrun]
      exact ⟨ih.unique, ih.mem_iff⟩
  exact ⟨(hstep ht).matches_of_lists hlists,
    fun a e s'' hrun => eq_of_run_error (hstep ht).sound hrun⟩

/-- After a case that deletes a namespace, a trial that adds a namespace, a pod and a policy, and
replaces a pod. -/
theorem Reaches.matches_cluster_two_namespaces :
    let config : Config := {
      cluster := {
        namespaces := ["x", "y"], pods := ["a", "b"], ports := [80], protocols := ["TCP"] }
      trial := { retries := 0 } }
    let client := Cluster.client .enforce
    let closed : NetworkPolicy := ⟨{ ns := some "z", name := some "closed" },
      some { policyTypes := some ["Ingress"] }⟩
    let before : TestCase := .make "" [] [{ actions := [.deleteNamespace "y"] }]
    let actions : List Action := [.createNamespace "z" .empty, .createPod "z" "a" .empty,
      .createPolicy closed, .deletePod "x" "a", .setPodLabels "y" "a" .empty,
      .createPod "x" "a" (podLabels "a"), .deleteNamespace "y"]
    ∃ s₀ t s, deploy client config.cluster {} = .ok s₀ ∧
      (do let r ← prepare client config
          actions.foldlM (TrialState.apply client config.cluster.image) { resources := r } :
        TrialM Cluster TrialState).run.run ((runAll client config [before]).run s₀).2 =
          (.ok t, s) ∧
      t.Matches s.cluster ∧
      ∀ a e s', (t.apply client config.cluster.image a).run.run s = (.error e, s') → s' = s := by
  intro config client closed before actions
  let trial : TrialM Cluster TrialState := do
    let r ← prepare client config
    actions.foldlM (TrialState.apply client config.cluster.image) { resources := r }
  have hruns : ((deploy client config.cluster {}).toOption.any fun s₀ =>
      (trial.run.run ((runAll client config [before]).run s₀).2).1.toOption.any fun _ => true) =
        true := by
    decide +kernel
  obtain ⟨s₀, hs₀, hruns⟩ := Fallible.exists_ok_of_any hruns
  obtain ⟨t, s, hrun, -⟩ := Stateful.exists_run_of_any (p := fun _ _ => true) hruns
  have hplain : ∀ c ∈ [before], ∀ step ∈ c.steps, ∀ a ∈ step.actions, ∀ (_ : TrialState)
      (_ : Cluster), a.Plain := by
    simp [before, TestCase.make, Action.Plain]
  have hpermits : ∀ a ∈ actions, ∀ (_ : TrialState) (c : Cluster), a.Plain ∧ a.ReadsAll c := by
    simp [actions, Action.Plain, Action.ReadsAll, NoSlash]
  have hnames : config.cluster.NamesApart := ⟨by decide, by decide, by decide⟩
  exact ⟨s₀, t, s, hs₀, hrun, Reaches.matches_cluster rfl hnames hs₀
    (Session.Reached.start.runAll hplain) (.of_run hpermits hrun)⟩

end Trial
end PodTraffic
