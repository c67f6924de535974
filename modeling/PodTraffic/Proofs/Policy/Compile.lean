import PodTraffic.Policy
import PodTraffic.Proofs.Fallible
import PodTraffic.Proofs.SortedMap

/-!
# What a compilation returns

A list compiles when each manifest does. The result has, for each direction and key, the union of
the targets of that key that the manifests give, in manifest order.
-/
namespace PodTraffic

namespace TargetPair

def get (pair : TargetPair) : Direction → Option Target
  | .ingress => pair.ingress
  | .egress => pair.egress

theorem get_set (pair : TargetPair) (d d' : Direction) (t : Target) :
    (pair.set d t).get d' = if d = d' then some t else pair.get d' := by
  cases d <;> cases d' <;> rfl

@[simp] theorem get_empty (d : Direction) : ({} : TargetPair).get d = none := by
  cases d <;> rfl

end TargetPair

theorem Direction.ofTitle?_eq_some_iff {s : String} {d : Direction} :
    Direction.ofTitle? s = some d ↔ s = d.title := by
  unfold Direction.ofTitle?
  constructor
  · intro h
    split at h
    · next hs =>
      cases h
      exact eq_of_beq hs
    · split at h
      · next hs =>
        cases h
        exact eq_of_beq hs
      · cases h
  · rintro rfl
    cases d <;> rfl

namespace NetworkPolicy

/-- The target of one type that is named, beside what is there. -/
def setNamed (p : NetworkPolicy) (source : Nat) (spec : PolicySpec) (pair : TargetPair)
    (name : String) : Except PolicyError TargetPair :=
  match Direction.ofTitle? name with
  | some d => pair.set d <$> p.target source spec d
  | none => throw (.malformed p.fullName (.unknownType name))

section Types

variable {p : NetworkPolicy} {source : Nat} {spec : PolicySpec} {types : List String}
  {start pair pair' : TargetPair}

theorem setNamed_eq_ok_iff {name : String} :
    p.setNamed source spec pair name = .ok pair' ↔
      ∃ d t, name = d.title ∧ p.target source spec d = .ok t ∧ pair.set d t = pair' := by
  unfold setNamed
  simp only [← Direction.ofTitle?_eq_some_iff]
  cases hd : Direction.ofTitle? name with
  | none => simp [Fallible.not_throw_eq_ok]
  | some d => simp [Fallible.map_eq_ok_iff]

/-- One direction after another: each type that is named sets its target, and leaves the other. -/
theorem get_of_foldlM (h : types.foldlM (p.setNamed source spec) start = .ok pair)
    (d : Direction) :
    (d.title ∈ types → ∃ t, p.target source spec d = .ok t ∧ pair.get d = some t) ∧
      (d.title ∉ types → pair.get d = start.get d) := by
  induction types generalizing start with
  | nil =>
    obtain rfl : start = pair := Fallible.pure_eq_ok_iff.mp h
    simp
  | cons name rest ih =>
    rw [List.foldlM_cons, Fallible.bind_eq_ok_iff] at h
    obtain ⟨middle, hname, hrest⟩ := h
    obtain ⟨d', t, rfl, ht, rfl⟩ := setNamed_eq_ok_iff.mp hname
    have ih := ih hrest
    rw [TargetPair.get_set] at ih
    constructor
    · intro hmem
      by_cases hlater : d.title ∈ rest
      · exact ih.1 hlater
      · have htitle : d.title = d'.title := by simpa [hlater] using hmem
        obtain rfl : d' = d := by
          cases d <;> cases d' <;> first | rfl | exact absurd htitle (by decide)
        exact ⟨t, ht, by simpa using ih.2 hlater⟩
    · intro hmem
      rw [List.mem_cons, not_or] at hmem
      have hne : d' ≠ d := by
        rintro rfl
        exact hmem.1 rfl
      simpa [hne] using ih.2 hmem.2

theorem exists_foldlM_iff : (∃ pair, types.foldlM (p.setNamed source spec) start = .ok pair) ↔
    ∀ name ∈ types, ∃ d, name = d.title ∧ ∃ t, p.target source spec d = .ok t := by
  induction types generalizing start with
  | nil => simpa using ⟨start, rfl⟩
  | cons name rest ih =>
    simp only [List.foldlM_cons, Fallible.bind_eq_ok_iff, List.forall_mem_cons]
    constructor
    · intro h
      obtain ⟨pair, middle, hname, hrest⟩ := h
      obtain ⟨d, t, hd, ht, -⟩ := setNamed_eq_ok_iff.mp hname
      exact ⟨⟨d, hd, t, ht⟩, ih.mp ⟨pair, hrest⟩⟩
    · intro h
      obtain ⟨⟨d, hd, t, ht⟩, hrest⟩ := h
      obtain ⟨pair, hpair⟩ := ih.mpr hrest
      exact ⟨pair, start.set d t, setNamed_eq_ok_iff.mpr ⟨d, t, hd, ht, rfl⟩, hpair⟩

end Types

/-- What a manifest that compiles looks like, and its target in each direction. -/
theorem targets_eq_ok {p : NetworkPolicy} {source : Nat} {pair : TargetPair}
    (h : p.targets source = .ok pair) :
    ∃ spec, p.spec = some spec ∧ ∀ d,
      (d.title ∈ spec.policyTypes.getD [] →
        ∃ t, p.target source spec d = .ok t ∧ pair.get d = some t) ∧
      (d.title ∉ spec.policyTypes.getD [] → pair.get d = none) := by
  unfold targets at h
  cases hspec : p.spec with
  | none =>
    rw [hspec] at h
    exact absurd h Fallible.not_throw_eq_ok
  | some spec =>
    rw [hspec] at h
    refine ⟨spec, rfl, fun d => ?_⟩
    simp only [] at h
    split at h
    · exact absurd h Fallible.not_throw_eq_ok
    · simpa using get_of_foldlM h d

/-- The parts of a target that do not depend on its rules. -/
theorem target_eq_ok {p : NetworkPolicy} {source : Nat} {spec : PolicySpec} {d : Direction}
    {t : Target} (h : p.target source spec d = .ok t) :
    ∃ peers, (spec.rules d).mapM (fun rule =>
        PeerMatcher.ofRule p.fullName p.ns (rule.ports.getD []) (rule.peers.getD [])) = .ok peers ∧
      t = ⟨p.ns, spec.podSelector, .nobody :: peers.flatten, [source]⟩ := by
  obtain ⟨peers, hpeers, h⟩ := Fallible.bind_eq_ok_iff.mp h
  exact ⟨peers, hpeers, (Fallible.pure_eq_ok_iff.mp h).symm⟩

theorem exists_target_iff {p : NetworkPolicy} {source : Nat} {spec : PolicySpec} {d : Direction} :
    (∃ t, p.target source spec d = .ok t) ↔
      ∃ peers, (spec.rules d).mapM (fun rule =>
        PeerMatcher.ofRule p.fullName p.ns (rule.ports.getD []) (rule.peers.getD [])) =
          .ok peers := by
  constructor
  · intro h
    obtain ⟨t, ht⟩ := h
    obtain ⟨peers, hpeers, -⟩ := target_eq_ok ht
    exact ⟨peers, hpeers⟩
  · intro h
    obtain ⟨peers, hpeers⟩ := h
    exact ⟨_, Fallible.bind_eq_ok_iff.mpr ⟨peers, hpeers, rfl⟩⟩

/-- Whether a manifest compiles does not depend on its place in the list. -/
theorem exists_targets_iff {p : NetworkPolicy} {source : Nat} :
    (∃ pair, p.targets source = .ok pair) ↔
      ∃ spec, p.spec = some spec ∧ spec.policyTypes.getD [] ≠ [] ∧
        ∀ name ∈ spec.policyTypes.getD [], ∃ d, name = d.title ∧
          ∃ peers, (spec.rules d).mapM (fun rule =>
            PeerMatcher.ofRule p.fullName p.ns (rule.ports.getD []) (rule.peers.getD [])) =
              .ok peers := by
  unfold targets
  cases p.spec with
  | none =>
    simp only [reduceCtorEq, false_and, exists_false]
  | some spec =>
    simp only [Option.some.injEq, exists_eq_left']
    generalize spec.policyTypes.getD [] = types
    cases types with
    | nil =>
      simp only [ne_eq, not_true_eq_false, false_and, iff_false]
      intro h
      obtain ⟨pair, hpair⟩ := h
      exact Fallible.not_throw_eq_ok hpair
    | cons name rest =>
      have hne : name :: rest ≠ [] := List.cons_ne_nil name rest
      refine exists_foldlM_iff.trans ?_
      rw [and_iff_right hne]
      simp only [exists_target_iff]

end NetworkPolicy

namespace TargetMap

def add (m : TargetMap) (t : Target) : TargetMap :=
  m.alter t.key fun
    | some present => present.union t
    | none => t

/-- The targets of each key as one. -/
def ofTargets (ts : List Target) : TargetMap := ts.foldl add .empty

end TargetMap

/-- The union of all, if there are any. -/
def Target.unite? : List Target → Option Target
  | [] => none
  | t :: ts => some (ts.foldl Target.union t)

namespace TargetMap

theorem get?_foldl_add (ts : List Target) (m : TargetMap) (k : String) :
    (ts.foldl add m).get? k =
      Target.unite? ((m.get? k).toList ++ ts.filter (·.key == k)) := by
  induction ts generalizing m with
  | nil => cases hm : m.get? k <;> simp [Target.unite?, hm]
  | cons t rest ih =>
    rw [List.foldl_cons, ih, add, SortedMap.get?_alter, List.filter_cons]
    by_cases hk : t.key = k
    · subst hk
      simp only [beq_self_eq_true, if_true]
      cases m.get? t.key <;> simp [Target.unite?]
    · have hk' : ¬k = t.key := fun h => hk h.symm
      simp [hk, hk']

theorem get?_ofTargets (ts : List Target) (k : String) :
    (ofTargets ts).get? k = Target.unite? (ts.filter (·.key == k)) := by
  rw [ofTargets, get?_foldl_add]
  simp

end TargetMap

namespace Policy

theorem targetMap_addTarget (p : Policy) (d d' : Direction) (t : Target) :
    (p.addTarget d t).targetMap d' =
      if d = d' then TargetMap.add (p.targetMap d') t else p.targetMap d' := by
  cases d <;> cases d' <;> rfl

theorem targetMap_addPair (p : Policy) (pair : TargetPair) (d : Direction) :
    (p.addPair pair).targetMap d =
      (pair.get d).toList.foldl TargetMap.add (p.targetMap d) := by
  obtain ⟨ingress, egress⟩ := pair
  unfold addPair
  cases ingress <;> cases egress <;> cases d <;> rfl

theorem sources_addPair (p : Policy) (pair : TargetPair) :
    (p.addPair pair).sources = p.sources := by
  obtain ⟨ingress, egress⟩ := pair
  unfold addPair
  cases ingress <;> cases egress <;> rfl

theorem sources_foldl_addPair (pairs : List TargetPair) (p : Policy) :
    (pairs.foldl addPair p).sources = p.sources := by
  induction pairs generalizing p with
  | nil => rfl
  | cons pair rest ih => rw [List.foldl_cons, ih, sources_addPair]

theorem targetMap_foldl_addPair (pairs : List TargetPair) (p : Policy) (d : Direction) :
    (pairs.foldl addPair p).targetMap d =
      (pairs.filterMap (·.get d)).foldl TargetMap.add (p.targetMap d) := by
  induction pairs generalizing p with
  | nil => rfl
  | cons pair rest ih =>
    rw [List.foldl_cons, ih, targetMap_addPair, List.filterMap_cons]
    cases pair.get d <;> rfl

/-- A compiled list: the manifests one by one, their targets of each direction united by key. -/
theorem compile_eq_ok {manifests : List NetworkPolicy} {p : Policy}
    (h : compile manifests = .ok p) :
    ∃ pairs, List.Forall₂ (fun source pair => source.1.targets source.2 = .ok pair)
        manifests.zipIdx pairs ∧
      p.sources = manifests ∧
      ∀ d, p.targetMap d = TargetMap.ofTargets (pairs.filterMap (·.get d)) := by
  obtain ⟨pairs, hpairs, rfl⟩ := Fallible.foldlM_map_eq_ok_iff.mp h
  refine ⟨pairs, Fallible.mapM_eq_ok_iff.mp hpairs, sources_foldl_addPair pairs _, fun d => ?_⟩
  rw [targetMap_foldl_addPair]
  cases d <;> rfl

/-- A list compiles just when every manifest of it does. -/
theorem exists_compile_eq_ok_iff {manifests : List NetworkPolicy} :
    (∃ p, compile manifests = .ok p) ↔
      ∀ source ∈ manifests.zipIdx, ∃ pair, source.1.targets source.2 = .ok pair := by
  rw [← Fallible.exists_mapM_eq_ok_iff]
  constructor
  · intro h
    obtain ⟨p, hp⟩ := h
    obtain ⟨pairs, hpairs, -⟩ := Fallible.foldlM_map_eq_ok_iff.mp hp
    exact ⟨pairs, hpairs⟩
  · intro h
    obtain ⟨pairs, hpairs⟩ := h
    exact ⟨_, Fallible.foldlM_map_eq_ok_iff.mpr ⟨pairs, hpairs, rfl⟩⟩

/-- Manifests that compile one by one compile together. -/
theorem exists_compile_of_each {manifests : List NetworkPolicy}
    (h : ∀ m ∈ manifests, ∃ p, compile [m] = .ok p) : ∃ p, compile manifests = .ok p := by
  rw [exists_compile_eq_ok_iff]
  intro h hm
  obtain ⟨m, i⟩ := h
  have halone := exists_compile_eq_ok_iff.mp (h m (List.fst_mem_of_mem_zipIdx hm))
  have hfirst : ∃ pair, m.targets 0 = .ok pair := halone (m, 0) (by simp)
  rwa [NetworkPolicy.exists_targets_iff] at hfirst ⊢

end Policy
end PodTraffic
