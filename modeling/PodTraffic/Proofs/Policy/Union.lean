import PodTraffic.Proofs.Policy.Compile
import PodTraffic.Proofs.Policy.Rules

/-!
# Union semantics

A direction of a connection is open when no policy restricts the endpoint on its side, or one of
those that do admits the other endpoint. The compiled targets say the same, provided that policies
whose targets become one select the same pods.
-/
namespace PodTraffic

namespace NetworkPolicy

/-- The policy names the direction and selects the pod. -/
def Restricts (p : NetworkPolicy) (d : Direction) (pod : PodIdentity) : Prop :=
  ∃ spec, p.spec = some spec ∧ d.title ∈ spec.policyTypes.getD [] ∧ p.ns = pod.ns ∧
    spec.podSelector.Matches pod.labels

/-- Some rule of the direction admits the peer. -/
def Admits (p : NetworkPolicy) (d : Direction) (peer : Endpoint) (q : PortQuery) : Prop :=
  ∃ spec, p.spec = some spec ∧ ∃ rule ∈ spec.rules d, rule.Admits p.ns peer q

/-- Policies of one target key are in one namespace and select the same pods. -/
def KeysSelectAlike (manifests : List NetworkPolicy) : Prop :=
  ∀ p ∈ manifests, ∀ p' ∈ manifests, ∀ spec spec', p.spec = some spec → p'.spec = some spec' →
    Target.keyOf p.ns spec.podSelector = Target.keyOf p'.ns spec'.podSelector →
      p.ns = p'.ns ∧
        ∀ labels, spec.podSelector.Matches labels ↔ spec'.podSelector.Matches labels

/-- The target of the policy in a direction that it names. -/
structure Yields (p : NetworkPolicy) (d : Direction) (t : Target) (spec : PolicySpec) : Prop where
  spec_eq : p.spec = some spec
  named : d.title ∈ spec.policyTypes.getD []
  ns : t.ns = p.ns
  selector : t.selector = spec.podSelector
  allows : ∀ peer q, t.allows peer q = true ↔ p.Admits d peer q

variable {p : NetworkPolicy} {d : Direction} {t : Target} {spec : PolicySpec}

/-- What the rules of a direction expand to, one after another, behind `nobody`. -/
def expansion (p : NetworkPolicy) (d : Direction) : Except PolicyError (List PeerMatcher) :=
  (fun matchers => .nobody :: matchers.flatten) <$>
    ((p.spec.map (·.rules d)).getD []).mapM fun rule =>
      PeerMatcher.ofRule p.fullName p.ns (rule.ports.getD []) (rule.peers.getD [])

theorem expansion_of_target {source : Nat} (hspec : p.spec = some spec)
    (h : p.target source spec d = .ok t) : p.expansion d = .ok t.peers := by
  obtain ⟨peers, hpeers, rfl⟩ := target_eq_ok h
  simp only [expansion, hspec, Option.map_some, Option.getD_some]
  exact Fallible.map_eq_ok_iff.mpr ⟨peers, hpeers, rfl⟩

/-- An expansion lets through what some rule of the direction admits. -/
theorem any_allows_expansion {peers : List PeerMatcher} (h : p.expansion d = .ok peers)
    (peer : Endpoint) (q : PortQuery) :
    peers.any (·.allows peer q) = true ↔ p.Admits d peer q := by
  obtain ⟨expansions, hexpansions, rfl⟩ := Fallible.map_eq_ok_iff.mp h
  have hmembers := Fallible.mapM_eq_ok_iff.mp hexpansions
  have hany : (PeerMatcher.nobody :: expansions.flatten).any (·.allows peer q) = true ↔
      ∃ ms ∈ expansions, ms.any (·.allows peer q) = true := by
    simp [PeerMatcher.allows]
  have hrules : p.Admits d peer q ↔
      ∃ rule ∈ (p.spec.map (·.rules d)).getD [], rule.Admits p.ns peer q := by
    cases hspec : p.spec <;> simp [Admits, hspec]
  rw [hany, hrules]
  constructor
  · intro h
    obtain ⟨ms, hms, hallows⟩ := h
    obtain ⟨rule, hrule, hof⟩ := Fallible.mem_of_forall₂ hmembers hms
    exact ⟨rule, hrule, (PeerMatcher.any_allows_ofRule hof peer q).mp hallows⟩
  · intro h
    obtain ⟨rule, hrule, hadmits⟩ := h
    obtain ⟨ms, hms, hof⟩ := Fallible.exists_of_forall₂ hmembers hrule
    exact ⟨ms, hms, (PeerMatcher.any_allows_ofRule hof peer q).mpr hadmits⟩

/-- A target lets through what some rule of the direction admits. -/
theorem allows_target {source : Nat} (hspec : p.spec = some spec)
    (h : p.target source spec d = .ok t) (peer : Endpoint) (q : PortQuery) :
    t.allows peer q = true ↔ p.Admits d peer q :=
  any_allows_expansion (expansion_of_target hspec h) peer q

theorem yields_target {source : Nat} (hspec : p.spec = some spec)
    (hnamed : d.title ∈ spec.policyTypes.getD []) (h : p.target source spec d = .ok t) :
    p.Yields d t spec := by
  have hallows := allows_target hspec h
  obtain ⟨peers, -, rfl⟩ := target_eq_ok h
  exact ⟨hspec, hnamed, rfl, rfl, hallows⟩

theorem Yields.selects_iff (h : p.Yields d t spec) (pod : PodIdentity) :
    t.selects pod.ns pod.labels = true ↔ p.Restricts d pod := by
  simp only [Target.selects, Bool.and_eq_true, beq_iff_eq, h.ns, h.selector, Restricts, h.spec_eq,
    LabelSelector.isMatch_iff, Option.some.injEq, exists_eq_left']
  constructor
  · intro h
    obtain ⟨hns, hmatch⟩ := h
    exact ⟨h.named, hns, hmatch⟩
  · intro h
    obtain ⟨-, hns, hmatch⟩ := h
    exact ⟨hns, hmatch⟩

end NetworkPolicy

namespace Target

/-- Targets of one key select the same pods. -/
def SelectAlike (ts : List Target) : Prop :=
  ∀ t ∈ ts, ∀ t' ∈ ts, t.key = t'.key →
    ∀ ns labels, t.selects ns labels = t'.selects ns labels

theorem foldl_union (ts : List Target) (t : Target) :
    (∀ ns labels, (ts.foldl union t).selects ns labels = t.selects ns labels) ∧
      ∀ peer q, (ts.foldl union t).allows peer q =
        (t.allows peer q || ts.any (·.allows peer q)) := by
  induction ts generalizing t with
  | nil => simp
  | cons u rest ih =>
    obtain ⟨hselects, hallows⟩ := ih (t.union u)
    constructor
    · intro ns labels
      rw [List.foldl_cons, hselects]
      rfl
    · intro peer q
      rw [List.foldl_cons, hallows, List.any_cons, ← Bool.or_assoc]
      simp [Target.allows, union]

/-- A union of targets that select alike selects like each of them, and lets through what one of
them does. -/
theorem unite?_eq_some {ts : List Target} {s : Target} (h : unite? ts = some s) :
    ∃ t ∈ ts, (∀ ns labels, s.selects ns labels = t.selects ns labels) ∧
      ∀ peer q, s.allows peer q = ts.any (·.allows peer q) := by
  cases ts with
  | nil => cases h
  | cons t rest =>
    cases h
    obtain ⟨hselects, hallows⟩ := foldl_union rest t
    exact ⟨t, by simp, hselects, hallows⟩

theorem SelectAlike.selects_of_unite? {ts : List Target} (h : SelectAlike ts) {k : String}
    {s : Target} (hs : unite? (ts.filter (·.key == k)) = some s) :
    ∀ t ∈ ts.filter (·.key == k), ∀ ns labels, s.selects ns labels = t.selects ns labels := by
  intro t ht ns labels
  obtain ⟨u, hu, hsame, -⟩ := unite?_eq_some hs
  obtain ⟨ht, hkey⟩ := List.mem_filter.mp ht
  obtain ⟨hu, hkey'⟩ := List.mem_filter.mp hu
  have hkeys : u.key = t.key := by rw [eq_of_beq hkey, eq_of_beq hkey']
  rw [hsame, h u hu t ht hkeys]

end Target

namespace TargetMap

variable {ts : List Target}

theorem mem_values_ofTargets {s : Target} :
    s ∈ (ofTargets ts).values ↔ ∃ k, Target.unite? (ts.filter (·.key == k)) = some s := by
  simp only [SortedMap.mem_values_iff, get?_ofTargets]

theorem exists_unite? {t : Target} (ht : t ∈ ts) :
    ∃ s, Target.unite? (ts.filter (·.key == t.key)) = some s := by
  cases hgroup : ts.filter (·.key == t.key) with
  | nil =>
    have hmem : t ∈ ts.filter (·.key == t.key) := List.mem_filter.mpr ⟨ht, by simp⟩
    simp [hgroup] at hmem
  | cons u rest => exact ⟨_, rfl⟩

/-- What holds of a union when it holds of a member holds somewhere in the map when it holds of a
target. -/
theorem any_values_ofTargets {good : Target → Bool}
    (h : ∀ k s, Target.unite? (ts.filter (·.key == k)) = some s →
      good s = (ts.filter (·.key == k)).any good) :
    (ofTargets ts).values.any good = ts.any good := by
  rw [Bool.eq_iff_iff, List.any_eq_true, List.any_eq_true]
  constructor
  · intro h
    obtain ⟨s, hs, hgood⟩ := h
    obtain ⟨k, hk⟩ := mem_values_ofTargets.mp hs
    rw [h k s hk, List.any_eq_true] at hgood
    obtain ⟨t, ht, hgood⟩ := hgood
    exact ⟨t, (List.mem_filter.mp ht).1, hgood⟩
  · intro h
    obtain ⟨t, ht, hgood⟩ := h
    obtain ⟨s, hs⟩ := exists_unite? ht
    refine ⟨s, mem_values_ofTargets.mpr ⟨_, hs⟩, ?_⟩
    rw [h _ s hs, List.any_eq_true]
    exact ⟨t, List.mem_filter.mpr ⟨ht, by simp⟩, hgood⟩

theorem any_selects_ofTargets (h : Target.SelectAlike ts) (ns : String) (labels : Labels) :
    (ofTargets ts).values.any (·.selects ns labels) = ts.any (·.selects ns labels) := by
  refine any_values_ofTargets fun k s hs => ?_
  obtain ⟨t, ht, -⟩ := Target.unite?_eq_some hs
  have hselects := h.selects_of_unite? hs
  rw [Bool.eq_iff_iff, List.any_eq_true]
  constructor
  · intro hs
    exact ⟨t, ht, by rwa [← hselects t ht]⟩
  · intro h
    obtain ⟨u, hu, hu'⟩ := h
    rwa [hselects u hu]

theorem any_allows_ofTargets (h : Target.SelectAlike ts) (ns : String) (labels : Labels)
    (peer : Endpoint) (q : PortQuery) :
    (ofTargets ts).values.any (fun s => s.selects ns labels && s.allows peer q) =
      ts.any fun t => t.selects ns labels && t.allows peer q := by
  refine any_values_ofTargets fun k s hs => ?_
  obtain ⟨-, -, -, hallows⟩ := Target.unite?_eq_some hs
  have hselects := h.selects_of_unite? hs
  rw [Bool.eq_iff_iff, Bool.and_eq_true, hallows, List.any_eq_true, List.any_eq_true]
  constructor
  · intro h
    obtain ⟨hs, t, ht, hallows⟩ := h
    exact ⟨t, ht, by rw [← hselects t ht, hs, hallows, Bool.and_self]⟩
  · intro h
    obtain ⟨t, ht, hboth⟩ := h
    rw [Bool.and_eq_true] at hboth
    exact ⟨by rw [hselects t ht, hboth.1], t, ht, hboth.2⟩

end TargetMap

/-- The targets that a list gives in one direction, before those of one key are united. -/
structure TargetsOf (manifests : List NetworkPolicy) (d : Direction) (ts : List Target) :
    Prop where
  sound : ∀ t ∈ ts, ∃ m ∈ manifests, ∃ spec, m.Yields d t spec
  complete : ∀ m ∈ manifests, ∀ spec, m.spec = some spec →
    d.title ∈ spec.policyTypes.getD [] → ∃ t ∈ ts, m.Yields d t spec

namespace TargetsOf

variable {manifests : List NetworkPolicy} {d : Direction} {ts : List Target}

theorem selectAlike (h : TargetsOf manifests d ts)
    (hkeys : NetworkPolicy.KeysSelectAlike manifests) : Target.SelectAlike ts := by
  intro s hs s' hs' hkey ns labels
  obtain ⟨m, hm, spec, hyields⟩ := h.sound s hs
  obtain ⟨m', hm', spec', hyields'⟩ := h.sound s' hs'
  rw [Target.key, Target.key, hyields.ns, hyields'.ns, hyields.selector, hyields'.selector]
    at hkey
  obtain ⟨hns, hmatch⟩ := hkeys m hm m' hm' spec spec' hyields.spec_eq hyields'.spec_eq hkey
  rw [Bool.eq_iff_iff, Target.selects, Target.selects, hyields.ns, hyields'.ns, hyields.selector,
    hyields'.selector, hns, Bool.and_eq_true, Bool.and_eq_true, LabelSelector.isMatch_iff,
    LabelSelector.isMatch_iff, hmatch]

theorem any_selects_iff (h : TargetsOf manifests d ts) (pod : PodIdentity) :
    ts.any (·.selects pod.ns pod.labels) = true ↔ ∃ m ∈ manifests, m.Restricts d pod := by
  rw [List.any_eq_true]
  constructor
  · intro h
    obtain ⟨s, hs, hselects⟩ := h
    obtain ⟨m, hm, spec, hyields⟩ := h.sound s hs
    exact ⟨m, hm, (hyields.selects_iff pod).mp hselects⟩
  · intro h
    obtain ⟨m, hm, hrestricts⟩ := h
    obtain ⟨spec, hspec, hnamed, -⟩ := id hrestricts
    obtain ⟨s, hs, hyields⟩ := h.complete m hm spec hspec hnamed
    exact ⟨s, hs, (hyields.selects_iff pod).mpr hrestricts⟩

theorem any_allows_iff (h : TargetsOf manifests d ts) (pod : PodIdentity) (peer : Endpoint)
    (q : PortQuery) :
    ts.any (fun t => t.selects pod.ns pod.labels && t.allows peer q) = true ↔
      ∃ m ∈ manifests, m.Restricts d pod ∧ m.Admits d peer q := by
  simp only [List.any_eq_true, Bool.and_eq_true]
  constructor
  · intro h
    obtain ⟨s, hs, hselects, hallows⟩ := h
    obtain ⟨m, hm, spec, hyields⟩ := h.sound s hs
    exact ⟨m, hm, (hyields.selects_iff pod).mp hselects, (hyields.allows peer q).mp hallows⟩
  · intro h
    obtain ⟨m, hm, hrestricts, hadmits⟩ := h
    obtain ⟨spec, hspec, hnamed, -⟩ := id hrestricts
    obtain ⟨s, hs, hyields⟩ := h.complete m hm spec hspec hnamed
    exact ⟨s, hs, (hyields.selects_iff pod).mpr hrestricts, (hyields.allows peer q).mpr hadmits⟩

end TargetsOf

namespace Policy

theorem exists_targetsOf {manifests : List NetworkPolicy} {p : Policy}
    (h : compile manifests = .ok p) (d : Direction) :
    ∃ ts, TargetsOf manifests d ts ∧ p.targetMap d = TargetMap.ofTargets ts := by
  obtain ⟨pairs, hpairs, -, htargets⟩ := compile_eq_ok h
  refine ⟨pairs.filterMap (·.get d), ⟨?_, ?_⟩, htargets d⟩
  · intro t ht
    obtain ⟨pair, hpair, hget⟩ := List.mem_filterMap.mp ht
    obtain ⟨⟨m, i⟩, hm, hcompiled⟩ := Fallible.mem_of_forall₂ hpairs hpair
    have hmem : m ∈ manifests := (List.mem_zipIdx' hm).2 ▸ List.getElem_mem _
    obtain ⟨spec, hspec, hdirections⟩ := NetworkPolicy.targets_eq_ok hcompiled
    obtain ⟨hnamed, hunnamed⟩ := hdirections d
    by_cases hd : d.title ∈ spec.policyTypes.getD []
    · obtain ⟨t', ht', hget'⟩ := hnamed hd
      obtain rfl : t = t' := by simpa [hget] using hget'
      exact ⟨m, hmem, spec, NetworkPolicy.yields_target hspec hd ht'⟩
    · simp [hunnamed hd] at hget
  · intro m hm spec hspec hd
    obtain ⟨i, hi, rfl⟩ := List.mem_iff_getElem.mp hm
    have hsource : (manifests[i], i) ∈ manifests.zipIdx := by
      simpa using List.mem_zipIdx_iff_getElem?.mpr (by simp [hi])
    obtain ⟨pair, hpair, hcompiled⟩ := Fallible.exists_of_forall₂ hpairs hsource
    obtain ⟨spec', hspec', hdirections⟩ := NetworkPolicy.targets_eq_ok hcompiled
    obtain rfl : spec = spec' := by simpa [hspec] using hspec'
    obtain ⟨t, ht, hget⟩ := (hdirections d).1 hd
    exact ⟨t, List.mem_filterMap.mpr ⟨pair, hpair, hget⟩,
      NetworkPolicy.yields_target hspec hd ht⟩

/-- The decision for a pod: no target selects it, or one that does lets the traffic through. -/
theorem isAllowed_direction {p : Policy} {d : Direction} {t : Traffic} {pod : PodIdentity}
    (hpod : (d.near t).pod = some pod) :
    (p.direction d t).isAllowed =
      (!(p.targets d).any (·.selects pod.ns pod.labels) ||
        (p.targets d).any fun s =>
          s.selects pod.ns pod.labels && s.allows (d.far t) t.port) := by
  rw [Bool.eq_iff_iff]
  simp only [direction, hpod, DirectionVerdict.isAllowed, targetsFor, Bool.or_eq_true,
    Bool.not_eq_true', List.isEmpty_eq_false_iff_exists_mem, List.isEmpty_iff,
    List.filter_eq_nil_iff, List.mem_filter, List.any_eq_false, List.any_eq_true,
    Bool.and_eq_true]
  grind

/-- The evaluation of a compiled list is the union of its policies. -/
theorem isAllowed_iff_union {manifests : List NetworkPolicy} {p : Policy}
    (hbuild : build false manifests = .ok p)
    (hkeys : NetworkPolicy.KeysSelectAlike manifests) (d : Direction) (t : Traffic) :
    (p.direction d t).isAllowed = true ↔
      (d.near t).pod = none ∨
      ∃ pod, (d.near t).pod = some pod ∧
        ((∀ m ∈ manifests, ¬m.Restricts d pod) ∨
          ∃ m ∈ manifests, m.Restricts d pod ∧ m.Admits d (d.far t) t.port) := by
  obtain ⟨p', hcompile, rfl⟩ := Fallible.map_eq_ok_iff.mp hbuild
  obtain ⟨ts, hts, htargets⟩ := exists_targetsOf hcompile d
  simp only [Bool.false_eq_true, if_false]
  cases hpod : (d.near t).pod with
  | none =>
    have hopen : (p'.direction d t).isAllowed = true := by
      rw [direction, hpod]
      rfl
    simpa using hopen
  | some pod =>
    have hvalues : p'.targets d = (TargetMap.ofTargets ts).values := by
      rw [targets, htargets]
    have halike := hts.selectAlike hkeys
    have hselects := TargetMap.any_selects_ofTargets halike pod.ns pod.labels
    have hallows := TargetMap.any_allows_ofTargets halike pod.ns pod.labels (d.far t) t.port
    rw [isAllowed_direction hpod, hvalues, hselects, hallows, Bool.or_eq_true,
      hts.any_allows_iff, Bool.not_eq_true', ← Bool.not_eq_true, hts.any_selects_iff]
    simp only [reduceCtorEq, false_or, Option.some.injEq, exists_eq_left', not_exists, not_and]

/-- Two policies of one selector, one that closes ingress and one that opens port 80 to labelled
namespaces, and one of another namespace that names both directions. -/
theorem isAllowed_iff_union_three :
    let labels (key value : String) : LabelSelector :=
      { matchLabels := some (SortedMap.empty.insert key value) }
    let closed : NetworkPolicy := ⟨{ ns := some "x" }, some
      { podSelector := labels "pod" "a", policyTypes := some ["Ingress"] }⟩
    let web : NetworkPolicy := ⟨{ ns := some "x" }, some
      { podSelector := labels "pod" "a", policyTypes := some ["Ingress"]
        ingress := some [{ ports := some [{ port := some (.int 80), endPort := some 81 }]
                           peers := some [{ namespaceSelector := some (labels "ns" "y") }] }] }⟩
    let both : NetworkPolicy := ⟨{}, some
      { policyTypes := some ["Ingress", "Egress"]
        egress := some
          [{ peers := some [{ ipBlock := some ⟨"10.0.0.0/8", some ["10.1.0.0/16"]⟩ }] }] }⟩
    let manifests := [closed, web, both]
    ∃ p, build false manifests = .ok p ∧ NetworkPolicy.KeysSelectAlike manifests ∧
      ∀ d t, (p.direction d t).isAllowed = true ↔
        (d.near t).pod = none ∨
        ∃ pod, (d.near t).pod = some pod ∧
          ((∀ m ∈ manifests, ¬m.Restricts d pod) ∨
            ∃ m ∈ manifests, m.Restricts d pod ∧ m.Admits d (d.far t) t.port) := by
  intro labels closed web both manifests
  have hkeys : NetworkPolicy.KeysSelectAlike manifests := by
    intro p hp p' hp' spec spec' hspec hspec' hkey
    simp only [manifests, List.mem_cons, List.not_mem_nil, or_false] at hp hp'
    rcases hp with rfl | rfl | rfl <;> rcases hp' with rfl | rfl | rfl <;> cases hspec <;>
      cases hspec' <;> first | exact ⟨rfl, fun _ => Iff.rfl⟩ | exact absurd hkey (by decide)
  obtain ⟨p, hp⟩ : ∃ p, build false manifests = .ok p := ⟨_, rfl⟩
  exact ⟨p, hp, hkeys, fun d t => isAllowed_iff_union hp hkeys d t⟩

end Policy
end PodTraffic
