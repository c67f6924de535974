import PodTraffic.Proofs.Policy.Compile
import PodTraffic.Proofs.Policy.Rules

/-!
# Which manifests compile

A manifest compiles exactly when each part of it that its policy types bring in can be read: ports
and protocols in range or by name, ranges that are not empty, networks that parse, and peers that
are either networks or selectors. A list of manifests compiles exactly when each member does.
-/
namespace PodTraffic

/-- Without an end port, any port, a number or a name; with one, a range of numbers from 1 on. -/
def PortRule.HasPort (r : PortRule) : Prop :=
  match r.port, r.endPort with
  | none, none => True
  | some (.text s), none => s ≠ ""
  | some (.int n), none => 1 ≤ n ∧ n ≤ maxPort
  | some (.int n), some last => 1 ≤ n ∧ n ≤ last ∧ last ≤ maxPort
  | none, some _ | some (.text _), some _ => False

structure PortRule.Valid (r : PortRule) : Prop where
  protocol : ∀ name, r.protocol = some name → ∃ p, Protocol.read? name = some p
  port : r.HasPort

/-- Networks do not go together with selectors. -/
def PeerRule.Valid (r : PeerRule) : Prop :=
  ∀ b, r.ipBlock = some b → (r.namespaceSelector = none ∧ r.podSelector = none) ∧
    (∃ n, readNetwork b.cidr = .ok n) ∧ ∀ text ∈ b.except.getD [], ∃ n, readNetwork text = .ok n

structure Rule.Valid (r : Rule) : Prop where
  ports : ∀ entry ∈ r.ports.getD [], entry.Valid
  peers : ∀ entry ∈ r.peers.getD [], entry.Valid

/-- Only the rules of the directions that the types name are looked at. -/
def NetworkPolicy.Valid (p : NetworkPolicy) : Prop :=
  ∃ spec, p.spec = some spec ∧ spec.policyTypes.getD [] ≠ [] ∧
    ∀ name ∈ spec.policyTypes.getD [], ∃ d : Direction, name = d.title ∧
      ∀ rule ∈ spec.rules d, rule.Valid

namespace PortMatcher

theorem exists_ruleProtocol_iff {r : PortRule} : (∃ p, ruleProtocol r = .ok p) ↔
    ∀ name, r.protocol = some name → ∃ p, Protocol.read? name = some p := by
  rw [ruleProtocol]
  cases hname : r.protocol with
  | none => simp
  | some name => cases hread : Protocol.read? name <;> simp [hread]

theorem exists_reads_iff {r : PortRule} (protocol : Protocol) :
    (∃ part, Reads protocol r.port r.endPort part) ↔ r.HasPort := by
  unfold PortRule.HasPort
  constructor
  · intro h
    obtain ⟨part, h⟩ := h
    generalize r.port = port at h
    generalize r.endPort = endPort at h
    cases h with
    | every => trivial
    | named hs => exact hs
    | numbered hfirst hmax => exact ⟨hfirst, hmax⟩
    | range hfirst hle hmax => exact ⟨hfirst, hle, hmax⟩
  · intro h
    generalize r.port = port at h
    generalize r.endPort = endPort at h
    match port, endPort, h with
    | none, none, _ => exact ⟨_, .every⟩
    | some (.text s), none, hs => exact ⟨_, .named hs⟩
    | some (.int n), none, ⟨hfirst, hmax⟩ => exact ⟨_, .numbered hfirst hmax⟩
    | some (.int n), some last, ⟨hfirst, hle, hmax⟩ => exact ⟨_, .range hfirst hle hmax⟩

theorem exists_ofRule_iff {r : PortRule} : (∃ part, ofRule r = .ok part) ↔ r.Valid := by
  simp only [ofRule_eq_ok_iff]
  constructor
  · intro h
    obtain ⟨part, protocol, hprotocol, hreads⟩ := h
    exact ⟨exists_ruleProtocol_iff.mp ⟨protocol, hprotocol⟩,
      (exists_reads_iff protocol).mp ⟨part, hreads⟩⟩
  · intro h
    obtain ⟨protocol, hprotocol⟩ := exists_ruleProtocol_iff.mpr h.protocol
    obtain ⟨part, hreads⟩ := (exists_reads_iff protocol).mpr h.port
    exact ⟨part, protocol, hprotocol, hreads⟩

theorem exists_ofRules_iff {rules : List PortRule} :
    (∃ m, ofRules rules = .ok m) ↔ ∀ r ∈ rules, r.Valid := by
  simp only [← exists_ofRule_iff, ← Fallible.exists_mapM_eq_ok_iff]
  unfold ofRules
  cases rules with
  | nil => exact iff_of_true ⟨_, rfl⟩ ⟨_, rfl⟩
  | cons rule rules =>
    constructor
    · intro h
      obtain ⟨m, h⟩ := h
      obtain ⟨parts, hparts, -⟩ := Fallible.bind_eq_ok_iff.mp h
      exact ⟨parts, hparts⟩
    · intro h
      obtain ⟨parts, hparts⟩ := h
      exact ⟨_, Fallible.bind_eq_ok_iff.mpr ⟨parts, hparts, rfl⟩⟩

end PortMatcher

theorem IpBlock.exists_read_iff {network : String} {except : List String} :
    (∃ b, read network except = .ok b) ↔
      (∃ n, readNetwork network = .ok n) ∧ ∀ text ∈ except, ∃ n, readNetwork text = .ok n := by
  rw [← Fallible.exists_mapM_eq_ok_iff]
  constructor
  · intro h
    obtain ⟨b, h⟩ := h
    obtain ⟨n, hn, h⟩ := Fallible.bind_eq_ok_iff.mp h
    obtain ⟨ns, hns, -⟩ := Fallible.bind_eq_ok_iff.mp h
    exact ⟨⟨n, hn⟩, ns, hns⟩
  · intro h
    obtain ⟨⟨n, hn⟩, ns, hns⟩ := h
    exact ⟨_, Fallible.bind_eq_ok_iff.mpr ⟨n, hn, Fallible.bind_eq_ok_iff.mpr ⟨ns, hns, rfl⟩⟩⟩

namespace PeerMatcher

variable {policy own : String} {port : PortMatcher}

theorem exists_ofPeer_iff {r : PeerRule} :
    (∃ m, ofPeer policy own port r = .ok m) ↔ r.Valid := by
  unfold ofPeer PeerRule.Valid
  cases hblock : r.ipBlock with
  | none => exact iff_of_true ⟨_, rfl⟩ nofun
  | some b =>
    simp only [Option.some.injEq, forall_eq', ← IpBlock.exists_read_iff]
    split
    · next hmixed =>
      refine iff_of_false (fun ⟨m, h⟩ => Fallible.not_throw_eq_ok h) fun h => ?_
      simp [h.1.1, h.1.2] at hmixed
    · next hplain =>
      have hselectors : r.namespaceSelector = none ∧ r.podSelector = none := by
        simpa [not_or] using hplain
      rw [and_iff_right hselectors]
      constructor
      · intro h
        obtain ⟨m, h⟩ := h
        obtain ⟨block, hread, -⟩ := Fallible.bind_eq_ok_iff.mp h
        exact ⟨block, hread⟩
      · intro h
        obtain ⟨block, hread⟩ := h
        exact ⟨_, Fallible.bind_eq_ok_iff.mpr ⟨block, hread, rfl⟩⟩

theorem exists_ofRule_iff {r : Rule} :
    (∃ ms, ofRule policy own (r.ports.getD []) (r.peers.getD []) = .ok ms) ↔ r.Valid := by
  have hvalid : r.Valid ↔ (∃ port, PortMatcher.ofRules (r.ports.getD []) = .ok port) ∧
      ∀ entry ∈ r.peers.getD [], entry.Valid :=
    ⟨fun h => ⟨PortMatcher.exists_ofRules_iff.mpr h.ports, h.peers⟩,
      fun h => ⟨PortMatcher.exists_ofRules_iff.mp h.1, h.2⟩⟩
  rw [hvalid]
  unfold ofRule
  constructor
  · intro h
    obtain ⟨ms, h⟩ := h
    obtain ⟨port, hport, h⟩ := Fallible.bind_eq_ok_iff.mp h
    refine ⟨⟨port, hport⟩, ?_⟩
    cases hpeers : r.peers.getD [] with
    | nil => exact List.forall_mem_nil _
    | cons first rest =>
      rw [hpeers] at h
      intro entry hentry
      exact exists_ofPeer_iff.mp (Fallible.exists_mapM_eq_ok_iff.mp ⟨ms, h⟩ entry hentry)
  · intro h
    obtain ⟨⟨port, hport⟩, hvalid⟩ := h
    cases hpeers : r.peers.getD [] with
    | nil => exact ⟨_, Fallible.bind_eq_ok_iff.mpr ⟨port, hport, rfl⟩⟩
    | cons first rest =>
      rw [hpeers] at hvalid
      obtain ⟨ms, hms⟩ := Fallible.exists_mapM_eq_ok_iff.mpr
        fun entry hentry => exists_ofPeer_iff.mpr (hvalid entry hentry)
      exact ⟨ms, Fallible.bind_eq_ok_iff.mpr ⟨port, hport, hms⟩⟩

end PeerMatcher

namespace NetworkPolicy

theorem exists_targets_iff_valid {p : NetworkPolicy} {source : Nat} :
    (∃ pair, p.targets source = .ok pair) ↔ p.Valid := by
  rw [exists_targets_iff, Valid]
  simp only [Fallible.exists_mapM_eq_ok_iff, PeerMatcher.exists_ofRule_iff]

end NetworkPolicy

namespace Policy

theorem exists_compile_iff {manifests : List NetworkPolicy} :
    (∃ p, compile manifests = .ok p) ↔ ∀ m ∈ manifests, m.Valid := by
  simp only [exists_compile_eq_ok_iff, NetworkPolicy.exists_targets_iff_valid]
  constructor
  · intro h m hm
    rw [← List.zipIdx_map_fst 0 manifests] at hm
    obtain ⟨source, hsource, rfl⟩ := List.mem_map.mp hm
    exact h source hsource
  · intro h source hsource
    exact h source.1 (List.fst_mem_of_mem_zipIdx hsource)

/-- Simplifying does not fail. -/
theorem exists_build_iff {simplified : Bool} {manifests : List NetworkPolicy} :
    (∃ p, build simplified manifests = .ok p) ↔ ∀ m ∈ manifests, m.Valid := by
  simp [build, Fallible.map_eq_ok_iff, ← exists_compile_iff]

end Policy
end PodTraffic
