import PodTraffic.CommandLine.Run
import PodTraffic.Proofs.Config
import PodTraffic.Proofs.Corpus
import PodTraffic.Proofs.Trial.Obstacles
import PodTraffic.Proofs.Trial.Reached

/-!
# The scripts of the corpus

On the resources of the same configuration the actions of a case of the corpus are ready one after
the other, whatever the cluster answers, unless the configuration names what the case creates or
leaves the name of the first namespace empty.
-/
namespace PodTraffic

open Trial

theorem TrialState.hasPolicy_putPolicy (t : TrialState) (p : NetworkPolicy) (name : String) :
    (t.putPolicy p).hasPolicy name = (name == p.fullName || t.hasPolicy name) :=
  Listing.contains_put ..

namespace Trial

variable {t : TrialState} {p : NetworkPolicy} {a : Action} {actions : List Action}

theorem Fits.createPolicy (h : t.hasPolicy p.fullName = false)
    (rest : Fits (t.putPolicy p) actions) : Fits t (.createPolicy p :: actions) := by
  refine .cons h fun t' hlead => ?_
  cases hlead
  exact rest

/-- New policies can be created one after the other. -/
theorem fits_creating {policies : List NetworkPolicy} (hnew : (policies.map (·.fullName)).Nodup)
    (habsent : ∀ p ∈ policies, t.hasPolicy p.fullName = false) :
    Fits t (policies.map .createPolicy) := by
  induction policies generalizing t with
  | nil => exact .nil t
  | cons p policies ih =>
    rw [List.map_cons, List.nodup_cons] at hnew
    refine .createPolicy (habsent p List.mem_cons_self) (ih hnew.2 fun q hq => ?_)
    have hne : q.fullName ≠ p.fullName := by
      intro heq
      exact hnew.1 (heq ▸ List.mem_map_of_mem hq)
    rw [TrialState.hasPolicy_putPolicy, habsent q (List.mem_cons_of_mem p hq), beq_false_of_ne hne]
    rfl

/-- Nothing more is asked of the last action than that it is ready. -/
theorem fits_singleton (h : a.Ready t) : Fits t [a] := .cons h fun t' _ => .nil t'

/-- Some cluster lets the script get to an action that is not ready. -/
def Obstructible (t : TrialState) (actions : List Action) : Prop :=
  ∃ (σ : Type) (client : Client σ) (image : String) (s : Session σ),
    Obstructed (script client image t actions) s

theorem Fits.not_obstructible (h : Fits t actions) : ¬ Obstructible t actions := by
  intro hobstructed
  obtain ⟨σ, client, image, s, hobstructed⟩ := hobstructed
  exact h.not_obstructed hobstructed

/-- Every call succeeds, and every pod runs. -/
def obliging : Client Unit where
  getNamespace _ := return .empty
  createNamespace _ labels := return labels
  setNamespaceLabels _ labels := return labels
  deleteNamespace _ := return ()
  listPolicies _ := return []
  createPolicy p := return p
  updatePolicy p := return p
  deletePolicy _ _ := return ()
  deleteAllPolicies _ := return ()
  listPods _ := return []
  getPod ns name := return {
    ns := some ns, name := some name
    status := some { phase := some "Running", ip := some "10.0.0.1" } }
  createPod p := return p
  setPodLabels ns name labels := return { ns := some ns, name := some name, labels := some labels }
  deletePod _ _ := return ()
  getService ns name := return { ns := some ns, name := some name }
  createService service := return service
  deleteService _ _ := return ()
  exec _ _ _ _ := return {}

/-- The obstacle is met by the second action. -/
theorem obstructible_after_createPolicy (hp : t.hasPolicy p.fullName = false)
    (ha : ¬ a.Ready (t.putPolicy p)) : Obstructible t (.createPolicy p :: a :: actions) := by
  let s : Session Unit := { cluster := (), deployed := {} }
  have hfirst : (t.apply obliging "" (.createPolicy p)).run.run s = (.ok (t.putPolicy p), s) := by
    rw [TrialState.apply, hp]
    rfl
  refine ⟨Unit, obliging, "", s, obstructed_script_cons_iff.mpr (.inr ⟨_, s, hfirst, ?_⟩)⟩
  exact obstructed_script_cons_iff.mpr (.inl ha)

end Trial

/-- The action creates what is deployed, or deletes a policy of the nameless namespace, which is
listed in the default one. -/
def Action.Clashes (o : CorpusOptions) : Action → Prop
  | createNamespace ns _ => ns ∈ o.namespaces
  | createPod ns name _ => ns ∈ o.namespaces ∧ name ∈ o.pods
  | deletePolicy ns _ => ns = ""
  | _ => False

namespace CorpusOptions

/-- The state at the start of a trial. -/
structure Starts (o : CorpusOptions) (t : TrialState) : Prop where
  namespaces : ∀ ns, ns ∈ t.resources.namespaces.keys ↔ ns ∈ o.namespaces
  pods : ∀ ns name, ⟨ns, name⟩ ∈ t.resources.pods.map (·.names) ↔ ns ∈ o.namespaces ∧ name ∈ o.pods
  policies : t.policies = []

/-- On some cluster an obstacle is met exactly if some action clashes with what is deployed. -/
def OnlyClashes (o : CorpusOptions) (t : TrialState) (actions : List Action) : Prop :=
  Obstructible t actions ↔ ∃ a ∈ actions, a.Clashes o

variable {o : CorpusOptions} {t : TrialState} {p q : NetworkPolicy} {actions : List Action}
  {ns name : String} {labels labels' : Labels}

theorem Starts.hasPolicy (h : o.Starts t) (name : String) : t.hasPolicy name = false := by
  rw [TrialState.hasPolicy, h.policies]
  rfl

theorem onlyClashes_of_fits (h : Fits t actions) (hno : ∀ a ∈ actions, ¬ a.Clashes o) :
    o.OnlyClashes t actions := by
  refine iff_of_false h.not_obstructible ?_
  simpa using hno

theorem Starts.fits_createPolicy (h : o.Starts t) (rest : Fits (t.putPolicy p) actions) :
    Fits t (.createPolicy p :: actions) := .createPolicy (h.hasPolicy p.fullName) rest

/-- A clash of the second action is met by it. -/
theorem Starts.onlyClashes_of_clash (h : o.Starts t) {a : Action}
    (hready : ¬ a.Ready (t.putPolicy p)) (hclash : a.Clashes o) :
    o.OnlyClashes t (.createPolicy p :: a :: actions) :=
  iff_of_true (obstructible_after_createPolicy (h.hasPolicy p.fullName) hready)
    ⟨a, List.mem_cons_of_mem _ List.mem_cons_self, hclash⟩

theorem Starts.onlyClashes_creating (h : o.Starts t) {policies : List NetworkPolicy}
    (hnew : (policies.map (·.fullName)).Nodup) : o.OnlyClashes t (policies.map .createPolicy) :=
  onlyClashes_of_fits (fits_creating hnew fun p _ => h.hasPolicy p.fullName)
    (by simp [Action.Clashes])

/-- One more action, ready after a policy was created. -/
theorem Starts.onlyClashes_pair (h : o.Starts t) {a : Action} (ha : a.Ready (t.putPolicy p))
    (hno : ¬ a.Clashes o) : o.OnlyClashes t [.createPolicy p, a] :=
  onlyClashes_of_fits (h.fits_createPolicy (fits_singleton ha)) fun b hb => by
    rcases List.mem_pair.mp hb with rfl | rfl
    · exact id
    · exact hno

theorem Starts.onlyClashes_deletePolicy (h : o.Starts t)
    (hp : p.fullName = (if ns.isEmpty then "default" else ns) ++ "/" ++ name) :
    o.OnlyClashes t [.createPolicy p, .deletePolicy ns name] := by
  by_cases hns : ns = ""
  · have hready : ¬ (Action.deletePolicy ns name).Ready (t.putPolicy p) := by
      subst hns
      have hne : (NamePair.mk "" name).text ≠ p.fullName := by
        rw [hp]
        intro heq
        exact absurd (congrArg (·.toList.head?) heq) (by simp [NamePair.text])
      simp [Action.Ready, TrialState.hasPolicy_putPolicy, h.hasPolicy, hne]
    exact h.onlyClashes_of_clash hready hns
  · refine h.onlyClashes_pair ?_ hns
    have heq : (NamePair.mk ns name).text = p.fullName := by simp [hp, hns, NamePair.text]
    simp [Action.Ready, TrialState.hasPolicy_putPolicy, heq]

theorem Starts.onlyClashes_createPod (h : o.Starts t) (hns : ns ∈ o.namespaces) :
    o.OnlyClashes t [.createPolicy p, .createPod ns name labels, .deletePod ns name] := by
  by_cases hname : name ∈ o.pods
  · have hready : ¬ (Action.createPod ns name labels).Ready (t.putPolicy p) :=
      fun hready => hready.2 ((h.pods ns name).mpr ⟨hns, hname⟩)
    exact h.onlyClashes_of_clash hready ⟨hns, hname⟩
  · refine onlyClashes_of_fits (h.fits_createPolicy (.cons ?_ fun t' hlead => ?_))
      (by simp [Action.Clashes, hname])
    · exact ⟨(h.namespaces ns).mpr hns, fun hmem => hname ((h.pods ns name).mp hmem).2⟩
    · obtain ⟨r, ip, hr, rfl⟩ := hlead
      refine fits_singleton ?_
      rw [Action.Ready, Resources.names_withPodIps]
      obtain ⟨hmem, hnames⟩ := Resources.podAt_eq_some (Resources.podAt_of_createPod hr)
      exact hnames ▸ List.mem_map_of_mem hmem

theorem Starts.onlyClashes_createNamespace (h : o.Starts t) :
    o.OnlyClashes t [.createPolicy p, .createNamespace ns labels, .createPod ns name labels',
      .deleteNamespace ns] := by
  by_cases hns : ns ∈ o.namespaces
  · have hready : ¬ (Action.createNamespace ns labels).Ready (t.putPolicy p) :=
      fun hready => hready ((h.namespaces ns).mpr hns)
    exact h.onlyClashes_of_clash hready hns
  · refine onlyClashes_of_fits (h.fits_createPolicy (.cons ?_ fun t₁ hfirst =>
      .cons ?_ fun t₂ hsecond => ?_)) (by simp [Action.Clashes, hns])
    · exact fun hmem => hns ((h.namespaces ns).mp hmem)
    · obtain ⟨r, hr, rfl⟩ := hfirst
      obtain ⟨-, rfl⟩ := Resources.createNamespace_eq_ok hr
      refine ⟨SortedMap.contains_iff_mem_keys.mp (by simp), ?_⟩
      exact fun hmem => hns ((h.pods ns name).mp hmem).1
    · obtain ⟨r, ip, hr, rfl⟩ := hsecond
      obtain ⟨hhome, -, rfl⟩ := Resources.createPod_eq_ok hr
      exact fits_singleton (SortedMap.contains_iff_mem_keys.mp hhome)

/-- The actions of the case create policies of different names. -/
def Creates (case : TestCase) : Prop :=
  ∃ policies : List NetworkPolicy, case.actions = policies.map .createPolicy ∧
    (policies.map (·.fullName)).Nodup

theorem creates_single (description : String) (tags : List String) (p : NetworkPolicy) :
    Creates (single description tags p) := ⟨[p], rfl, List.nodup_singleton _⟩

theorem creates_of_mem_shapeCases {case : TestCase} (h : case ∈ o.shapeCases) : Creates case := by
  rcases List.mem_append.mp h with h | h
  · obtain ⟨⟨tag, rules⟩, -, h⟩ := List.mem_flatMap.mp h
    rcases List.mem_append.mp h with h | h
    · obtain ⟨d, -, rfl⟩ := List.mem_map.mp h
      exact creates_single ..
    · cases List.mem_singleton.mp h
      exact creates_single ..
  · cases List.mem_singleton.mp h
    exact creates_single ..

theorem creates_of_mem_targetCases {case : TestCase} (h : case ∈ o.targetCases) :
    Creates case := by
  obtain ⟨variant, -, h⟩ := List.mem_flatMap.mp h
  obtain ⟨d, -, rfl⟩ := List.mem_map.mp h
  exact creates_single ..

theorem creates_of_mem_portCases {case : TestCase} (h : case ∈ o.portCases) : Creates case := by
  obtain ⟨variant, -, h⟩ := List.mem_flatMap.mp h
  obtain ⟨d, -, rfl⟩ := List.mem_map.mp h
  exact ⟨[_], rfl, List.nodup_singleton _⟩

theorem creates_of_mem_peerCases {case : TestCase} (h : case ∈ o.peerCases) : Creates case := by
  obtain ⟨variant, -, h⟩ := List.mem_flatMap.mp h
  obtain ⟨d, -, rfl⟩ := List.mem_map.mp h
  exact creates_single ..

theorem creates_of_mem_policyCases {case : TestCase} (h : case ∈ o.policyCases) :
    Creates case := by
  have hpair : ∀ (d d' : Draft) (description : String) (tags : List String), d.ns = d'.ns →
      d.name ≠ d'.name → Creates (.make description tags [.creating [d.policy, d'.policy]]) := by
    intro d d' description tags hns hname
    refine ⟨[d.policy, d'.policy], rfl, ?_⟩
    simp [hns, hname]
  simp only [policyCases, List.mem_cons, List.not_mem_nil, or_false] at h
  rcases h with rfl | rfl | rfl | rfl
  · exact hpair _ _ _ _ rfl (show "deny-all" ≠ "allow-all" by decide)
  · exact creates_single ..
  · exact creates_single ..
  · exact hpair _ _ _ _ rfl (show "deny-ingress" ≠ "deny-egress" by decide)

/-- Policies created under their names may be changed otherwise. -/
theorem Starts.onlyClashes_of_creates (h : o.Starts t) {case : TestCase} (hcase : Creates case)
    {f : NetworkPolicy → NetworkPolicy} (hf : ∀ p, (f p).fullName = p.fullName) :
    o.OnlyClashes t (case.actions.map (·.mapPolicy f)) := by
  obtain ⟨policies, hactions, hnew⟩ := hcase
  have hmap : case.actions.map (·.mapPolicy f) = (policies.map f).map .createPolicy := by
    simp [hactions, Action.mapPolicy]
  have hnames : (policies.map f).map (·.fullName) = policies.map (·.fullName) := by
    rw [List.map_map]
    exact List.map_congr_left fun p _ => hf p
  rw [hmap]
  exact h.onlyClashes_creating (hnames ▸ hnew)

theorem Starts.onlyClashes_actionCases (h : o.Starts t) (hns : o.namespaces ≠ [])
    (hpods : o.pods ≠ []) {case : TestCase} (hcase : case ∈ o.actionCases)
    {f : NetworkPolicy → NetworkPolicy} (hf : ∀ p, (f p).fullName = p.fullName) :
    o.OnlyClashes t (case.actions.map (·.mapPolicy f)) := by
  have hfirst : o.ns ∈ o.namespaces := pick_mem hns 0 "x"
  have hpeer : o.peerNs ∈ o.namespaces := pick_mem hns 1 "y"
  have hpod : o.peerPod ∈ o.pods := pick_mem hpods 1 "b"
  simp only [actionCases, List.mem_cons, List.not_mem_nil, or_false] at hcase
  rcases hcase with rfl | rfl | rfl | rfl | rfl | rfl | rfl
  · exact h.onlyClashes_pair ((h.pods _ _).mpr ⟨hfirst, hpod⟩) id
  · exact h.onlyClashes_pair ((h.namespaces _).mpr hpeer) id
  · refine h.onlyClashes_pair ?_ id
    have hsame : (NetworkPolicy.allowIngress o.ns "flip").fullName =
        (NetworkPolicy.denyIngress o.ns "flip").fullName := rfl
    simp [Action.mapPolicy, Action.Ready, TrialState.hasPolicy_putPolicy, hf, hsame]
  · exact h.onlyClashes_deletePolicy ((hf _).trans (Draft.fullName_policy _))
  · exact h.onlyClashes_pair trivial id
  · exact h.onlyClashes_createPod hfirst
  · exact h.onlyClashes_createNamespace

theorem mem_plainCases {case : TestCase} (h : case ∈ o.plainCases) :
    Creates case ∨ case ∈ o.actionCases := by
  simp only [plainCases, List.mem_append] at h
  rcases h with (((((h | h) | h) | h) | h) | h) | h
  · cases List.mem_singleton.mp h
    exact .inl ⟨[], rfl, List.nodup_nil⟩
  · exact .inl (creates_of_mem_shapeCases h)
  · exact .inl (creates_of_mem_targetCases h)
  · exact .inl (creates_of_mem_portCases h)
  · exact .inl (creates_of_mem_peerCases h)
  · exact .inl (creates_of_mem_policyCases h)
  · exact .inr h

/-- Only the names of new objects, and an empty one, lead to clashes. -/
theorem taken_of_clashes (hns : o.namespaces ≠ []) {case : TestCase} (hcase : case ∈ o.plainCases)
    {a : Action} (ha : a ∈ case.actions) (hclash : a.Clashes o) :
    extraPod ∈ o.pods ∨ extraNs ∈ o.namespaces ∨ o.namespaces.head? = some "" := by
  rcases mem_plainCases hcase with ⟨policies, hactions, -⟩ | hcase
  · rw [hactions] at ha
    obtain ⟨p, -, rfl⟩ := List.mem_map.mp ha
    exact hclash.elim
  · rw [ns_eq_head o hns]
    simp only [actionCases, List.mem_cons, List.not_mem_nil, or_false] at hcase
    rcases hcase with rfl | rfl | rfl | rfl | rfl | rfl | rfl <;>
      simp only [TestCase.actions_make, steps, List.map_cons, List.map_nil, List.flatMap_cons,
        List.flatMap_nil, List.cons_append, List.nil_append, List.mem_cons, List.not_mem_nil,
        or_false] at ha <;>
      rcases ha with rfl | rfl | rfl | rfl <;> simp_all [Action.Clashes]

theorem clashes_mapPolicy (f : NetworkPolicy → NetworkPolicy) (a : Action) :
    (a.mapPolicy f).Clashes o ↔ a.Clashes o := by
  cases a <;> exact Iff.rfl

end CorpusOptions

namespace Config

open CommandLine (corpusOptions corpusCases)

variable {c : Config} {r : Resources}

theorem starts_of_resources (h : c.cluster.resources = .ok r) (podIp : Address) :
    (corpusOptions c podIp).Starts { resources := r } where
  namespaces _ := Resources.mem_keys_default_iff (resources_eq_ok h)
  pods _ _ := Resources.mem_names_default_iff (resources_eq_ok h)
  policies := rfl

/-- On the resources of a valid configuration, with no policies yet, a case of its corpus meets an
obstacle on some cluster exactly if an action of the case clashes with what is deployed; then a name
of the corpus is taken, or the first namespace has an empty name. -/
theorem obstructible_corpus_iff (hc : c.validate = .ok ()) :
    ∃ r, c.cluster.resources = .ok r ∧ ∀ podIp, ∀ case ∈ corpusCases c podIp,
      (Obstructible { resources := r } case.actions ↔
        ∃ a ∈ case.actions, a.Clashes (corpusOptions c podIp)) ∧
      ((∃ a ∈ case.actions, a.Clashes (corpusOptions c podIp)) →
        CorpusOptions.extraPod ∈ c.cluster.pods ∨ CorpusOptions.extraNs ∈ c.cluster.namespaces ∨
          c.cluster.namespaces.head? = some "") := by
  have hvalid : c.cluster.Valid := (validate_eq_ok_iff.mp hc).cluster
  obtain ⟨r, hr⟩ := exists_resources hvalid
  refine ⟨r, hr, fun podIp case hcase => ?_⟩
  have hstarts := starts_of_resources hr podIp
  obtain ⟨plain, hplain, hactions⟩ :=
    (corpusOptions c podIp).exists_plain_of_mem_cases (List.mem_of_mem_filter hcase)
  rw [hactions]
  constructor
  · rcases CorpusOptions.mem_plainCases hplain with hcreates | hcase
    · exact hstarts.onlyClashes_of_creates hcreates (CorpusOptions.fullName_adapt _)
    · exact hstarts.onlyClashes_actionCases hvalid.namespaces.1 hvalid.pods.1 hcase
        (CorpusOptions.fullName_adapt _)
  · intro h
    obtain ⟨b, hb, hclash⟩ := h
    obtain ⟨a, ha, rfl⟩ := List.mem_map.mp hb
    exact CorpusOptions.taken_of_clashes hvalid.namespaces.1 hplain ha
      ((CorpusOptions.clashes_mapPolicy _ a).mp hclash)

theorem not_obstructible_default_corpus :
    ∃ r, ({} : Config).cluster.resources = .ok r ∧
      ∀ podIp, ∀ case ∈ corpusCases {} podIp, ¬ Obstructible { resources := r } case.actions := by
  obtain ⟨r, hr, hcases⟩ := obstructible_corpus_iff (c := {}) rfl
  refine ⟨r, hr, fun podIp case hcase hobstructed => ?_⟩
  obtain ⟨hiff, htaken⟩ := hcases podIp case hcase
  exact absurd (htaken (hiff.mp hobstructed)) (by decide)

/-- A deployed pod of the name that the corpus gives to a new one is in its way. -/
theorem obstructed_by_extra_pod :
    let c : Config := { cluster := { namespaces := ["x"], pods := ["a", "extra"] } }
    c.validate = .ok () ∧ ∃ r s, c.cluster.resources = .ok r ∧
      deploy (Cluster.client .enforce) c.cluster {} = .ok s ∧
      ∃ case ∈ corpusCases c ({} : CorpusOptions).podIp,
        Obstructed (script (Cluster.client .enforce) c.cluster.image { resources := r }
          case.actions) s := by
  intro c
  obtain ⟨r, hr, hdeployed⟩ := Fallible.exists_ok_of_any (x := c.cluster.resources)
    (p := fun r => (deploy (Cluster.client .enforce) c.cluster {}).toOption.any fun s =>
      (corpusCases c ({} : CorpusOptions).podIp).any fun case =>
        Obstructed (script (Cluster.client .enforce) c.cluster.image { resources := r }
          case.actions) s) (by decide +kernel)
  obtain ⟨s, hs, hobstructed⟩ := Fallible.exists_ok_of_any hdeployed
  obtain ⟨case, hcase, hobstructed⟩ := List.any_eq_true.mp hobstructed
  exact ⟨rfl, r, s, hr, hs, case, hcase, of_decide_eq_true hobstructed⟩

end Config
end PodTraffic
