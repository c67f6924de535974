import PodTraffic.Proofs.Corpus
import PodTraffic.Proofs.Corpus.Compiles
import PodTraffic.Proofs.Policy.Modular
import PodTraffic.Proofs.Policy.Steps
import PodTraffic.Proofs.Policy.Union

/-!
# Letting name lookups through

The rule for name lookups is added to each policy that names egress, whatever its rules are. So
each egress target lets lookups through on top of what it did before, and a connection is opened by
it exactly if it is a lookup: a pod that no target selects was not restricted before, either.
-/
namespace PodTraffic

/-- The port, under TCP or UDP. -/
def PortQuery.IsLookup (port : Nat) (q : PortQuery) : Prop :=
  q.number = port ∧ (q.protocol = .tcp ∨ q.protocol = .udp)

theorem PortRule.admits_numbered_iff {port : Nat} {protocol : Protocol} {q : PortQuery} :
    (numbered port (some protocol)).Admits q ↔ q.number = port ∧ q.protocol = protocol := by
  have hname : (numbered port (some protocol)).NamesProtocol q.protocol ↔
      q.protocol = protocol := by
    change Protocol.read? protocol.name = some q.protocol ↔ _
    rw [Protocol.read?_name, Option.some_inj, eq_comm]
  have hnumber : ((port : Int) = q.number) ↔ q.number = port := by omega
  rw [Admits, hname, and_comm]
  exact and_congr_left fun _ => hnumber

theorem Rule.admits_dns_iff {port : Nat} {own : String} {peer : Endpoint} {q : PortQuery} :
    (dns port).Admits own peer q ↔ q.IsLookup port := by
  simp only [Admits, dns, onPorts, Option.getD_some, Option.getD_none, List.mem_cons,
    List.not_mem_nil, or_false, exists_eq_or_imp, exists_eq_left, PortRule.admits_numbered_iff,
    PortQuery.IsLookup, reduceCtorEq, false_or, true_or, and_true]
  rw [← and_or_left, or_comm]

namespace PolicySpec

variable (port : Nat) (spec : PolicySpec)

@[simp] theorem policyTypes_withDns : (spec.withDns port).policyTypes = spec.policyTypes := by
  unfold withDns
  split <;> rfl

@[simp] theorem podSelector_withDns : (spec.withDns port).podSelector = spec.podSelector := by
  unfold withDns
  split <;> rfl

theorem rules_ingress_withDns : (spec.withDns port).rules .ingress = spec.rules .ingress := by
  unfold withDns
  split <;> rfl

variable {port spec}

theorem rules_egress_withDns (h : Direction.egress.title ∈ spec.policyTypes.getD []) :
    (spec.withDns port).rules .egress = spec.rules .egress ++ [.dns port] := by
  have hnamed : (spec.policyTypes.getD []).contains "Egress" = true := List.contains_iff_mem.mpr h
  rw [withDns, if_pos hnamed]
  rfl

end PolicySpec

namespace NetworkPolicy

variable {port : Nat} {m : NetworkPolicy}

theorem spec_withDns (port : Nat) (m : NetworkPolicy) :
    (m.withDns port).spec = m.spec.map (·.withDns port) := rfl

theorem valid_withDns (h : m.Valid) (hport : 1 ≤ port ∧ port ≤ maxPort) :
    (m.withDns port).Valid := by
  obtain ⟨spec, hspec, hne, htypes⟩ := h
  refine ⟨spec.withDns port, by rw [spec_withDns, hspec]; rfl, by simpa using hne, ?_⟩
  rw [PolicySpec.policyTypes_withDns]
  intro name hname
  obtain ⟨d, rfl, hrules⟩ := htypes name hname
  refine ⟨d, rfl, ?_⟩
  cases d with
  | ingress => rwa [PolicySpec.rules_ingress_withDns]
  | egress =>
    rw [PolicySpec.rules_egress_withDns hname]
    intro rule hrule
    rcases List.mem_append.mp hrule with hrule | hrule
    · exact hrules rule hrule
    · obtain rfl := List.mem_singleton.mp hrule
      exact Rule.valid_dns_iff.mpr hport

theorem admits_egress_withDns {spec : PolicySpec} (hspec : m.spec = some spec)
    (h : Direction.egress.title ∈ spec.policyTypes.getD []) (peer : Endpoint) (q : PortQuery) :
    (m.withDns port).Admits .egress peer q ↔ m.Admits .egress peer q ∨ q.IsLookup port := by
  have hns : (m.withDns port).ns = m.ns := rfl
  simp only [Admits, spec_withDns, hspec, hns, Option.map_some, Option.some.injEq,
    exists_eq_left', PolicySpec.rules_egress_withDns h, List.mem_append, List.mem_singleton,
    or_and_right, exists_or, exists_eq_left, Rule.admits_dns_iff]

end NetworkPolicy

namespace Target

/-- The second target selects and attributes as the first, and lets lookups through as well. -/
structure OpensLookups (port : Nat) (s t : Target) : Prop where
  ns : t.ns = s.ns
  selector : t.selector = s.selector
  sources : t.sources = s.sources
  allows : ∀ peer q, t.allows peer q = true ↔ s.allows peer q = true ∨ q.IsLookup port

namespace OpensLookups

variable {port : Nat} {s t s' t' : Target}

theorem key_eq (h : OpensLookups port s t) : t.key = s.key := by
  rw [key, key, h.ns, h.selector]

theorem selects (h : OpensLookups port s t) (ns : String) (labels : Labels) :
    t.selects ns labels = s.selects ns labels := by
  rw [Target.selects, Target.selects, h.ns, h.selector]

theorem union (h : OpensLookups port s t) (h' : OpensLookups port s' t') :
    OpensLookups port (s.union s') (t.union t') where
  ns := h.ns
  selector := h.selector
  sources := by rw [Target.union, Target.union, h.sources, h'.sources]
  allows := by
    intro peer q
    rw [allows_union, allows_union, Bool.or_eq_true, Bool.or_eq_true, h.allows, h'.allows]
    exact or_or_distrib_right.symm

end OpensLookups

section Lists

variable {port : Nat} {ts ts' : List Target}

theorem any_selects_of_opensLookups (h : List.Forall₂ (OpensLookups port) ts ts') (ns : String)
    (labels : Labels) : ts'.any (·.selects ns labels) = ts.any (·.selects ns labels) := by
  induction h with
  | nil => rfl
  | cons ht _ ih => rw [List.any_cons, List.any_cons, ht.selects, ih]

/-- Some target that selects the pod lets the traffic through, or the traffic is a lookup and some
target selects the pod. -/
theorem any_allows_of_opensLookups (h : List.Forall₂ (OpensLookups port) ts ts') (ns : String)
    (labels : Labels) (peer : Endpoint) (q : PortQuery) :
    ts'.any (fun t => t.selects ns labels && t.allows peer q) = true ↔
      ts.any (fun t => t.selects ns labels && t.allows peer q) = true ∨
        ts.any (·.selects ns labels) = true ∧ q.IsLookup port := by
  induction h with
  | nil => simp
  | cons ht _ ih =>
    simp only [List.any_cons, Bool.or_eq_true, Bool.and_eq_true, ht.selects, ht.allows, ih]
    grind

end Lists
end Target

namespace TargetMap

theorem related_foldl_add {port : Nat} {ts ts' : List Target}
    (h : List.Forall₂ (Target.OpensLookups port) ts ts') {m m' : TargetMap}
    (hm : m.Related (Target.OpensLookups port) m') :
    (ts.foldl add m).Related (Target.OpensLookups port) (ts'.foldl add m') := by
  induction h generalizing m m' with
  | nil => exact hm
  | @cons t t' _ _ ht _ ih =>
    rw [List.foldl_cons, List.foldl_cons]
    refine ih ?_
    rw [add, add, ht.key_eq]
    refine hm.alter t.key fun present present' hpresent => ?_
    cases hpresent with
    | none => exact ht
    | some hpresent => exact hpresent.union ht

end TargetMap

namespace NetworkPolicy

variable {port : Nat} {m : NetworkPolicy} {source : Nat}

theorem target_ingress_withDns (spec : PolicySpec) :
    (m.withDns port).target source (spec.withDns port) .ingress =
      m.target source spec .ingress := by
  rw [target, target, PolicySpec.rules_ingress_withDns, PolicySpec.podSelector_withDns]
  rfl

theorem opensLookups_target {spec : PolicySpec} (hspec : m.spec = some spec)
    (hnamed : Direction.egress.title ∈ spec.policyTypes.getD []) {t t' : Target}
    (h : m.target source spec .egress = .ok t)
    (h' : (m.withDns port).target source (spec.withDns port) .egress = .ok t') :
    Target.OpensLookups port t t' := by
  have hspec' : (m.withDns port).spec = some (spec.withDns port) := by
    rw [spec_withDns, hspec]
    rfl
  have hallows := allows_target hspec h
  have hallows' := allows_target hspec' h'
  obtain ⟨peers, -, rfl⟩ := target_eq_ok h
  obtain ⟨peers', -, rfl⟩ := target_eq_ok h'
  refine ⟨rfl, PolicySpec.podSelector_withDns port spec, rfl, fun peer q => ?_⟩
  rw [hallows, hallows', admits_egress_withDns hspec hnamed]

/-- What relates the targets of a direction with the rule and without it, if there are any. -/
theorem rel_get_withDns {d : Direction} {R : Target → Target → Prop}
    (hR : ∀ spec, m.spec = some spec → d.title ∈ spec.policyTypes.getD [] → ∀ t t',
      m.target source spec d = .ok t →
        (m.withDns port).target source (spec.withDns port) d = .ok t' → R t t')
    {pair pair' : TargetPair} (h : m.targets source = .ok pair)
    (h' : (m.withDns port).targets source = .ok pair') :
    Option.Rel R (pair.get d) (pair'.get d) := by
  obtain ⟨spec, hspec, hdirections⟩ := targets_eq_ok h
  obtain ⟨spec', hspec', hdirections'⟩ := targets_eq_ok h'
  obtain rfl : spec.withDns port = spec' := by simpa [spec_withDns, hspec] using hspec'
  obtain ⟨hnamed, hunnamed⟩ := hdirections d
  obtain ⟨hnamed', hunnamed'⟩ := hdirections' d
  rw [PolicySpec.policyTypes_withDns] at hnamed' hunnamed'
  by_cases hd : d.title ∈ spec.policyTypes.getD []
  · obtain ⟨t, ht, hget⟩ := hnamed hd
    obtain ⟨t', ht', hget'⟩ := hnamed' hd
    rw [hget, hget']
    exact .some (hR spec hspec hd t t' ht ht')
  · rw [hunnamed hd, hunnamed' hd]
    exact .none

end NetworkPolicy

namespace Policy

variable {port : Nat} {p p' : Policy} {manifests : List NetworkPolicy}

/-- The targets of both directions, key by key. -/
structure OpensLookups (port : Nat) (p p' : Policy) : Prop where
  ingress : p'.ingress = p.ingress
  egress : p.egress.Related (Target.OpensLookups port) p'.egress

theorem opensLookups_compile (h : compile manifests = .ok p)
    (h' : compile (manifests.map (·.withDns port)) = .ok p') : OpensLookups port p p' := by
  obtain ⟨pairs, hpairs, -, htargets⟩ := compile_eq_ok h
  obtain ⟨pairs', hpairs', -, htargets'⟩ := compile_eq_ok h'
  rw [List.zipIdx_map, List.forall₂_map_left_iff] at hpairs'
  constructor
  · have hingress : List.Forall₂ (· = ·) (pairs.filterMap (·.get .ingress))
        (pairs'.filterMap (·.get .ingress)) := by
      refine List.rel_filterMap (fun _ _ hpair => hpair)
        (Fallible.forall₂_of_common hpairs hpairs' fun source _ _ h h' => ?_)
      refine NetworkPolicy.rel_get_withDns (fun spec _ _ t t' ht ht' => ?_) h h'
      rw [NetworkPolicy.target_ingress_withDns, ht] at ht'
      exact Except.ok.inj ht'
    rw [List.forall₂_eq_eq_eq] at hingress
    change p'.targetMap .ingress = p.targetMap .ingress
    rw [htargets, htargets', hingress]
  · have hegress : List.Forall₂ (Target.OpensLookups port) (pairs.filterMap (·.get .egress))
        (pairs'.filterMap (·.get .egress)) := by
      refine List.rel_filterMap (fun _ _ hpair => hpair)
        (Fallible.forall₂_of_common hpairs hpairs' fun source _ _ h h' => ?_)
      exact NetworkPolicy.rel_get_withDns
        (fun _ hspec hnamed _ _ => NetworkPolicy.opensLookups_target hspec hnamed) h h'
    have hempty : (SortedMap.empty : TargetMap).Related (Target.OpensLookups port) .empty := .nil
    change (p.targetMap .egress).Related _ (p'.targetMap .egress)
    rw [htargets, htargets']
    exact TargetMap.related_foldl_add hegress hempty

namespace OpensLookups

theorem direction_ingress (h : OpensLookups port p p') (t : Traffic) :
    p'.direction .ingress t = p.direction .ingress t := by
  have hvalues : p'.targets .ingress = p.targets .ingress := congrArg SortedMap.values h.ingress
  simp only [direction, targetsFor, hvalues]

/-- A pod that no target selects sends everything before and after. -/
theorem isAllowed_egress_iff (h : OpensLookups port p p') (t : Traffic) :
    (p'.direction .egress t).isAllowed = true ↔
      (p.direction .egress t).isAllowed = true ∨ t.port.IsLookup port := by
  cases hpod : (Direction.egress.near t).pod with
  | none =>
    have hopen : ∀ p : Policy, (p.direction .egress t).isAllowed = true := by
      intro p
      rw [direction, hpod]
      rfl
    simp [hopen]
  | some pod =>
    have htargets : List.Forall₂ (Target.OpensLookups port) (p.targets .egress)
        (p'.targets .egress) := h.egress.values
    rw [isAllowed_direction hpod, isAllowed_direction hpod,
      Target.any_selects_of_opensLookups htargets, Bool.or_eq_true, Bool.or_eq_true,
      Target.any_allows_of_opensLookups htargets]
    -- lookups need a target that selects the pod, but without one everything is let through
    cases (p.targets .egress).any (·.selects pod.ns pod.labels) <;> simp

theorem keys_eq (h : OpensLookups port p p') (d : Direction) :
    (p'.targetMap d).keys = (p.targetMap d).keys := by
  cases d with
  | ingress => exact congrArg SortedMap.keys h.ingress
  | egress => exact h.egress.keys_eq.symm

theorem parts_eq (h : OpensLookups port p p') (d : Direction) :
    (p'.targets d).map (fun s => (s.ns, s.selector, s.sources)) =
      (p.targets d).map fun s => (s.ns, s.selector, s.sources) := by
  cases d with
  | ingress =>
    have htargets : p'.targets .ingress = p.targets .ingress := congrArg SortedMap.values h.ingress
    rw [htargets]
  | egress =>
    have htargets : List.Forall₂ (Target.OpensLookups port) (p.targets .egress)
        (p'.targets .egress) := h.egress.values
    symm
    rw [← List.forall₂_eq_eq_eq, List.forall₂_map_left_iff, List.forall₂_map_right_iff]
    refine htargets.imp fun s t hst => ?_
    rw [hst.ns, hst.selector, hst.sources]

end OpensLookups

/-- A case that writes policies which compile, with name lookups let through: it compiles to the
same targets, ingress is decided by the same of them, and egress is opened for lookups only. -/
theorem withDns_opens_lookups {c : TestCase} (hcase : c.policies = manifests)
    (hbuild : build false manifests = .ok p) (hport : 1 ≤ port ∧ port ≤ maxPort) :
    ∃ p', build false (c.withDns port).policies = .ok p' ∧
      (∀ d, (p'.targetMap d).keys = (p.targetMap d).keys ∧
        (p'.targets d).map (fun s => (s.ns, s.selector, s.sources)) =
          (p.targets d).map fun s => (s.ns, s.selector, s.sources)) ∧
      ∀ t, p'.direction .ingress t = p.direction .ingress t ∧
        ((p'.direction .egress t).isAllowed = true ↔
          (p.direction .egress t).isAllowed = true ∨ t.port.IsLookup port) := by
  have hvalid : ∀ m ∈ c.policies.map (·.withDns port), m.Valid := by
    rw [hcase]
    intro m' hm'
    obtain ⟨m, hm, rfl⟩ := List.mem_map.mp hm'
    exact NetworkPolicy.valid_withDns (exists_build_iff.mp ⟨p, hbuild⟩ m hm) hport
  obtain ⟨p', hbuild'⟩ : ∃ p', build false (c.policies.map (·.withDns port)) = .ok p' :=
    exists_build_iff.mpr hvalid
  have hopens : OpensLookups port p p' := by
    rw [build_false] at hbuild
    rw [build_false, hcase] at hbuild'
    exact opensLookups_compile hbuild hbuild'
  rw [TestCase.policies_withDns]
  exact ⟨p', hbuild', fun d => ⟨hopens.keys_eq d, hopens.parts_eq d⟩,
    fun t => ⟨hopens.direction_ingress t, hopens.isAllowed_egress_iff t⟩⟩

/-- Policies whose egress rules are absent, some and empty, and one that names ingress only: a pod
that may send to port 80 may look names up under UDP as well, but not under SCTP. -/
theorem withDns_opens_lookups_four :
    let pod : LabelSelector := { matchLabels := some (.ofList [("pod", "a")]) }
    let closed : NetworkPolicy := ⟨{ name := some "closed", ns := some "x" }, some
      { podSelector := pod, policyTypes := some ["Egress"] }⟩
    let web : NetworkPolicy := ⟨{ name := some "web", ns := some "x" }, some
      { podSelector := pod, policyTypes := some ["Egress"]
        egress := some [{ ports := some [{ port := some (.int 80) }] }] }⟩
    let both : NetworkPolicy := ⟨{ name := some "both", ns := some "x" }, some
      { policyTypes := some ["Ingress", "Egress"], ingress := some [{}], egress := some [] }⟩
    let inbound : NetworkPolicy := ⟨{ name := some "inbound", ns := some "y" }, some
      { policyTypes := some ["Ingress"], egress := some [{}] }⟩
    let manifests := [closed, web, both, inbound]
    let case : TestCase := ⟨"case", [], [.creating [closed, web], .creating [both, inbound]]⟩
    let sends (number : Nat) (protocol : Protocol) : Traffic :=
      ⟨{ pod := some { ns := "x", labels := .ofList [("pod", "a")] } }, {},
        ⟨number, none, protocol⟩⟩
    let p := (build false manifests).toOption.getD {}
    ∃ p', case.policies = manifests ∧ build false manifests = .ok p ∧
      build false (case.withDns 53).policies = .ok p' ∧
      (p.direction .egress (sends 80 .tcp)).isAllowed = true ∧
      ¬(p.direction .egress (sends 53 .udp)).isAllowed = true ∧
      (p'.direction .egress (sends 53 .udp)).isAllowed = true ∧
      ¬(p'.direction .egress (sends 53 .sctp)).isAllowed = true := by
  intro pod closed web both inbound manifests case sends p
  have hcase : case.policies = manifests :=
    TestCase.policies_creating "case" [] [[closed, web], [both, inbound]]
  have hbuild : build false manifests = .ok p := rfl
  have hport : 1 ≤ 53 ∧ 53 ≤ maxPort := by decide
  obtain ⟨p', hbuild', -, hdecisions⟩ := withDns_opens_lookups hcase hbuild hport
  have hbefore : (p.direction .egress (sends 80 .tcp)).isAllowed = true ∧
      (p.direction .egress (sends 53 .udp)).isAllowed = false ∧
      (p.direction .egress (sends 53 .sctp)).isAllowed = false := by decide
  refine ⟨p', hcase, hbuild, hbuild', hbefore.1, ?_, ?_, ?_⟩
  · simp [hbefore]
  · exact (hdecisions _).2.mpr (.inr ⟨rfl, .inr rfl⟩)
  · simp [(hdecisions _).2, hbefore, PortQuery.IsLookup, sends]

end Policy
end PodTraffic
