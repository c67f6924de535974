import PodTraffic.Peer
import PodTraffic.Proofs.Fallible
import PodTraffic.Proofs.Port
import PodTraffic.Proofs.Selector

/-!
# What rules admit

The meaning of the rules of a manifest, read off their fields, and the matchers that rules compile
to. A rule that compiles admits a peer on a port exactly when one of its matchers allows it.
-/
namespace PodTraffic

namespace PortRule

/-- TCP when no protocol is given. -/
def NamesProtocol (r : PortRule) (p : Protocol) : Prop :=
  match r.protocol with
  | none => p = .tcp
  | some name => Protocol.read? name = some p

/-- The protocol, and no port, the port by number or name, or a range that holds the number. -/
def Admits (r : PortRule) (q : PortQuery) : Prop :=
  r.NamesProtocol q.protocol ∧
    match r.port, r.endPort with
    | none, _ => True
    | some (.text name), _ => q.name = some name
    | some (.int n), none => n = q.number
    | some (.int n), some last => n ≤ q.number ∧ q.number ≤ last

end PortRule

/-- In the network and in none of the excepted ones. -/
def BlockRule.Admits (b : BlockRule) (a : Address) : Prop :=
  (∃ n, readNetwork b.cidr = .ok n ∧ n.contains a = true) ∧
    ∀ text ∈ b.except.getD [], ∀ n, readNetwork text = .ok n → n.contains a = false

/-- A block admits addresses. Selectors admit pods: of the policy's own namespace when there is no
namespace selector, with any labels when there is no pod selector. -/
def PeerRule.Admits (own : String) (r : PeerRule) (peer : Endpoint) : Prop :=
  match r.ipBlock with
  | some b => ∃ a, peer.ip = some a ∧ b.Admits a
  | none => ∃ pod, peer.pod = some pod ∧
      (match r.namespaceSelector with
        | none => pod.ns = own
        | some s => s.Matches pod.nsLabels) ∧
      ∀ s, r.podSelector = some s → s.Matches pod.labels

/-- Absent and empty parts of a rule leave that side open. -/
def Rule.Admits (own : String) (r : Rule) (peer : Endpoint) (q : PortQuery) : Prop :=
  (r.ports.getD [] = [] ∨ ∃ entry ∈ r.ports.getD [], entry.Admits q) ∧
    (r.peers.getD [] = [] ∨ ∃ entry ∈ r.peers.getD [], entry.Admits own peer)

theorem LabelSelector.matches_of_isEmpty {s : LabelSelector} (h : s.isEmpty = true)
    (labels : Labels) : s.Matches labels := by
  simp only [isEmpty, SortedMap.isEmpty, Bool.and_eq_true, List.isEmpty_iff] at h
  simp [← isMatch_iff, isMatch, h.1, h.2]

namespace PortMatcher

theorem namesProtocol_iff {rule : PortRule} {p : Protocol} (h : ruleProtocol rule = .ok p)
    (p' : Protocol) : rule.NamesProtocol p' ↔ p = p' := by
  unfold ruleProtocol at h
  unfold PortRule.NamesProtocol
  cases hname : rule.protocol with
  | none =>
    rw [hname] at h
    cases h
    exact eq_comm
  | some name =>
    rw [hname] at h
    simp only [] at h
    cases hread : Protocol.read? name with
    | none =>
      rw [hread] at h
      cases h
    | some p'' =>
      rw [hread] at h
      cases h
      simp [hread]

def partAllows (part : PortEntry ⊕ PortRange) (q : PortQuery) : Bool :=
  part.elim (·.allows q) (·.holds q.number q.protocol)

/-- What the port and the end port of a rule stand for on a protocol. -/
inductive Reads (protocol : Protocol) :
    Option IntOrText → Option Int → PortEntry ⊕ PortRange → Prop
  | every : Reads protocol none none (.inl ⟨none, protocol⟩)
  | named {s : String} (h : s ≠ "") :
    Reads protocol (some (.text s)) none (.inl ⟨some (.name s), protocol⟩)
  | numbered {n : Int} (hfirst : 1 ≤ n) (hmax : n ≤ maxPort) :
    Reads protocol (some (.int n)) none (.inl ⟨some (.number n.toNat), protocol⟩)
  | range {n last : Int} (hfirst : 1 ≤ n) (hle : n ≤ last) (hmax : last ≤ maxPort) :
    Reads protocol (some (.int n)) (some last) (.inr ⟨n.toNat, last.toNat, protocol⟩)

theorem ofRule_int_eq_ok_iff {n : Int} {v : PortValue} :
    PortValue.ofRule (.int n) = .ok v ↔ 1 ≤ n ∧ n ≤ maxPort ∧ v = .number n.toNat := by
  rw [PortValue.ofRule]
  split
  · next hn => simp [hn, eq_comm]
  · next hn =>
    refine iff_of_false nofun fun h => hn ⟨h.1, h.2.1⟩

theorem ofRule_text_eq_ok_iff {s : String} {v : PortValue} :
    PortValue.ofRule (.text s) = .ok v ↔ s ≠ "" ∧ v = .name s := by
  rw [PortValue.ofRule]
  split
  · next hs =>
    exact iff_of_false nofun fun h => h.1 (by simpa using hs)
  · next hs =>
    have hne : s ≠ "" := by simpa using hs
    simp [hne, eq_comm]

theorem make_eq_ok_iff {first last : Nat} {protocol : Protocol} {r : PortRange} :
    PortRange.make first last protocol = .ok r ↔
      1 ≤ first ∧ first ≤ last ∧ r = ⟨first, last, protocol⟩ := by
  unfold PortRange.make
  split
  · next h =>
    refine iff_of_false nofun fun h' => ?_
    omega
  · next h =>
    have hbounds : 1 ≤ first ∧ first ≤ last := by omega
    simp [hbounds, eq_comm]

/-- A port rule is read field by field. -/
theorem ofRule_eq_ok_iff {rule : PortRule} {part : PortEntry ⊕ PortRange} :
    ofRule rule = .ok part ↔
      ∃ protocol, ruleProtocol rule = .ok protocol ∧
        Reads protocol rule.port rule.endPort part := by
  unfold ofRule
  rw [Fallible.bind_eq_ok_iff]
  refine exists_congr fun protocol => and_congr_right fun _ => ?_
  rw [Fallible.bind_eq_ok_iff]
  constructor
  · intro h
    obtain ⟨value, hvalue, h⟩ := h
    cases hport : rule.port with
    | none =>
      rw [hport] at hvalue
      obtain rfl : none = value := Fallible.pure_eq_ok_iff.mp hvalue
      cases hend : rule.endPort with
      | none =>
        rw [hend] at h
        obtain rfl := Fallible.pure_eq_ok_iff.mp h
        exact .every
      | some last =>
        rw [hend] at h
        exact absurd h Fallible.not_throw_eq_ok
    | some port =>
      rw [hport] at hvalue
      obtain ⟨v, hv, rfl⟩ : ∃ v, PortValue.ofRule port = .ok v ∧ some v = value :=
        Fallible.map_eq_ok_iff.mp hvalue
      cases port with
      | text s =>
        obtain ⟨hs, rfl⟩ := ofRule_text_eq_ok_iff.mp hv
        cases hend : rule.endPort with
        | none =>
          rw [hend] at h
          obtain rfl := Fallible.pure_eq_ok_iff.mp h
          exact .named hs
        | some last =>
          rw [hend] at h
          exact absurd h Fallible.not_throw_eq_ok
      | int n =>
        obtain ⟨hfirst, hmax, rfl⟩ := ofRule_int_eq_ok_iff.mp hv
        cases hend : rule.endPort with
        | none =>
          rw [hend] at h
          obtain rfl := Fallible.pure_eq_ok_iff.mp h
          exact .numbered hfirst hmax
        | some last =>
          rw [hend] at h
          dsimp only at h
          split at h
          · next hlast =>
            obtain ⟨range, hrange, h⟩ := Fallible.bind_eq_ok_iff.mp h
            obtain rfl := Fallible.pure_eq_ok_iff.mp h
            obtain ⟨-, hle, rfl⟩ := make_eq_ok_iff.mp hrange
            exact .range hfirst (by omega) hlast.2
          · exact absurd h Fallible.not_throw_eq_ok
  · intro h
    generalize rule.port = port at h
    generalize rule.endPort = endPort at h
    cases h with
    | every => exact ⟨none, rfl, rfl⟩
    | named hs =>
      have hport := ofRule_text_eq_ok_iff.mpr ⟨hs, rfl⟩
      exact ⟨_, Fallible.map_eq_ok_iff.mpr ⟨_, hport, rfl⟩, rfl⟩
    | numbered hfirst hmax =>
      have hport := ofRule_int_eq_ok_iff.mpr ⟨hfirst, hmax, rfl⟩
      exact ⟨_, Fallible.map_eq_ok_iff.mpr ⟨_, hport, rfl⟩, rfl⟩
    | range hfirst hle hmax =>
      have hport := ofRule_int_eq_ok_iff.mpr ⟨hfirst, hle.trans hmax, rfl⟩
      refine ⟨_, Fallible.map_eq_ok_iff.mpr ⟨_, hport, rfl⟩, ?_⟩
      dsimp only
      rw [if_pos ⟨by omega, hmax⟩]
      exact Fallible.bind_eq_ok_iff.mpr ⟨_, make_eq_ok_iff.mpr ⟨by omega, by omega, rfl⟩, rfl⟩

/-- What a port rule compiles to allows the queries that the rule admits. -/
theorem partAllows_ofRule {rule : PortRule} {part : PortEntry ⊕ PortRange}
    (h : ofRule rule = .ok part) (q : PortQuery) :
    partAllows part q = true ↔ rule.Admits q := by
  obtain ⟨protocol, hprotocol, hreads⟩ := ofRule_eq_ok_iff.mp h
  unfold PortRule.Admits
  rw [namesProtocol_iff hprotocol]
  generalize rule.port = port at hreads
  generalize rule.endPort = endPort at hreads
  cases hreads with
  | every => simp [partAllows, PortEntry.allows]
  | named hs => simp [partAllows, PortEntry.allows]
  | numbered hfirst hmax =>
    simp only [partAllows, PortEntry.allows, Sum.elim_inl, Bool.and_eq_true, beq_iff_eq]
    refine and_congr_right fun _ => ?_
    omega
  | range hfirst hle hmax =>
    simp only [partAllows, PortRange.holds, Sum.elim_inr, Bool.and_eq_true, beq_iff_eq,
      decide_eq_true_eq, and_assoc]
    refine and_congr_right fun _ => ?_
    omega

/-- The matcher of a list of port rules. -/
theorem allows_ofRules {rules : List PortRule} {m : PortMatcher} (h : ofRules rules = .ok m)
    (q : PortQuery) : m.allows q = true ↔ rules = [] ∨ ∃ rule ∈ rules, rule.Admits q := by
  unfold ofRules at h
  cases rules with
  | nil =>
    obtain rfl : all = m := Fallible.pure_eq_ok_iff.mp h
    simp [allows]
  | cons rule rest =>
    obtain ⟨parts, hparts, h⟩ := Fallible.bind_eq_ok_iff.mp h
    obtain rfl := Fallible.pure_eq_ok_iff.mp h
    have hsome : ((specific (parts.filterMap (·.getLeft?)) (parts.filterMap (·.getRight?))).allows
        q = true) ↔ ∃ part ∈ parts, partAllows part q = true := by
      rw [allows_specific]
      simp only [List.mem_filterMap]
      constructor
      · intro h
        rcases h with ⟨e, ⟨part, hpart, he⟩, hallows⟩ | ⟨r, ⟨part, hpart, hr⟩, hholds⟩
        · obtain rfl := Sum.getLeft?_eq_some_iff.mp he
          exact ⟨_, hpart, hallows⟩
        · obtain rfl := Sum.getRight?_eq_some_iff.mp hr
          exact ⟨_, hpart, hholds⟩
      · intro h
        obtain ⟨part, hpart, hallows⟩ := h
        cases part with
        | inl e => exact .inl ⟨e, ⟨_, hpart, rfl⟩, hallows⟩
        | inr r => exact .inr ⟨r, ⟨_, hpart, rfl⟩, hallows⟩
    rw [allows_ofEntries, hsome]
    simp only [reduceCtorEq, false_or, Fallible.mem_iff_of_mapM hparts]
    constructor
    · intro h
      obtain ⟨part, ⟨r, hr, hpart⟩, hallows⟩ := h
      exact ⟨r, hr, (partAllows_ofRule hpart q).mp hallows⟩
    · intro h
      obtain ⟨r, hr, hadmits⟩ := h
      obtain ⟨part, hpart⟩ := Fallible.exists_mapM_eq_ok_iff.mp ⟨parts, hparts⟩ r hr
      exact ⟨part, ⟨r, hr, hpart⟩, (partAllows_ofRule hpart q).mpr hadmits⟩

end PortMatcher

instance : Std.LawfulEqOrd Network where
  eq_of_compare := by
    intro a b h
    change compareLex (compareOn fun n : Network => n.family.rank)
      (compareLex (compareOn (·.bits)) (compareOn (·.length))) a b = .eq at h
    simp only [Ordered.compareLex_eq_iff, Ordered.compareOn_eq_iff] at h
    obtain ⟨hrank, hbits, hlength⟩ := h
    have hfamily : a.family = b.family := by
      cases hfa : a.family <;> cases hfb : b.family <;> simp_all [Family.rank]
    cases a
    cases b
    simp_all

namespace IpBlock

theorem contains_read {b : BlockRule} {block : IpBlock}
    (h : read b.cidr (b.except.getD []) = .ok block) (a : Address) :
    block.contains a = true ↔ b.Admits a := by
  obtain ⟨network, hnetwork, h⟩ := Fallible.bind_eq_ok_iff.mp h
  obtain ⟨excepted, hexcepted, h⟩ := Fallible.bind_eq_ok_iff.mp h
  obtain rfl := Fallible.pure_eq_ok_iff.mp h
  simp only [contains, Bool.and_eq_true, Bool.not_eq_true', BlockRule.Admits, hnetwork,
    Except.ok.injEq, exists_eq_left', List.any_eq_false, Ordered.mem_distinct,
    Fallible.mem_iff_of_mapM hexcepted]
  refine and_congr_right fun _ => ?_
  constructor
  · intro hnone text htext n hn
    simpa using hnone n ⟨text, htext, hn⟩
  · rintro hnone n ⟨text, htext, hread⟩
    simpa using hnone text htext n hread

end IpBlock

namespace PeerMatcher

theorem namespace_allows_ofRule (own : String) (s : Option LabelSelector) (ns : String)
    (labels : Labels) :
    (NamespaceMatcher.ofRule own s).allows ns labels = true ↔
      match s with
      | none => ns = own
      | some s => s.Matches labels := by
  cases s with
  | none =>
    simp only [NamespaceMatcher.ofRule, NamespaceMatcher.allows, beq_iff_eq]
    exact eq_comm
  | some s =>
    simp only [NamespaceMatcher.ofRule]
    split
    · next hempty => simp [NamespaceMatcher.allows, LabelSelector.matches_of_isEmpty hempty]
    · exact LabelSelector.isMatch_iff

theorem pod_allows_ofRule (s : Option LabelSelector) (labels : Labels) :
    (PodMatcher.ofRule s).allows labels = true ↔ ∀ s', s = some s' → s'.Matches labels := by
  cases s with
  | none => simp [PodMatcher.ofRule, PodMatcher.allows]
  | some s =>
    simp only [PodMatcher.ofRule]
    split
    · next hempty => simp [PodMatcher.allows, LabelSelector.matches_of_isEmpty hempty]
    · simp [PodMatcher.allows, LabelSelector.isMatch_iff]

theorem allows_ofPeer {policy own : String} {port : PortMatcher} {rule : PeerRule}
    {m : PeerMatcher} (h : ofPeer policy own port rule = .ok m) (peer : Endpoint)
    (q : PortQuery) :
    m.allows peer q = true ↔ rule.Admits own peer ∧ port.allows q = true := by
  unfold ofPeer at h
  unfold PeerRule.Admits
  cases hblock : rule.ipBlock with
  | some b =>
    rw [hblock] at h
    simp only [] at h
    split at h
    · exact absurd h Fallible.not_throw_eq_ok
    · obtain ⟨block, hread, h⟩ := Fallible.bind_eq_ok_iff.mp h
      obtain rfl := Fallible.pure_eq_ok_iff.mp h
      simp only [allows, Bool.and_eq_true]
      refine and_congr_left fun _ => ?_
      cases peer.ip with
      | none => simp
      | some a => simpa using IpBlock.contains_read hread a
  | none =>
    rw [hblock] at h
    obtain rfl := Fallible.pure_eq_ok_iff.mp h
    simp only [allows, Bool.and_eq_true]
    refine and_congr_left fun _ => ?_
    cases peer.pod with
    | none => simp
    | some pod =>
      simp only [Option.any_some, Bool.and_eq_true, namespace_allows_ofRule, pod_allows_ofRule,
        Option.some.injEq, exists_eq_left']

/-- The matchers of a rule let through what the rule admits. -/
theorem any_allows_ofRule {policy own : String} {rule : Rule} {ms : List PeerMatcher}
    (h : ofRule policy own (rule.ports.getD []) (rule.peers.getD []) = .ok ms) (peer : Endpoint)
    (q : PortQuery) : ms.any (·.allows peer q) = true ↔ rule.Admits own peer q := by
  obtain ⟨port, hport, h⟩ := Fallible.bind_eq_ok_iff.mp h
  unfold Rule.Admits
  rw [← PortMatcher.allows_ofRules hport]
  cases hpeers : rule.peers.getD [] with
  | nil =>
    rw [hpeers] at h
    obtain rfl := Fallible.pure_eq_ok_iff.mp h
    split
    · next hall => simp [hall, allows, PortMatcher.allows]
    · simp [allows]
  | cons first rest =>
    rw [hpeers] at h
    have hmembers := Fallible.mapM_eq_ok_iff.mp h
    simp only [List.any_eq_true, reduceCtorEq, false_or]
    constructor
    · intro h
      obtain ⟨m, hm, hallows⟩ := h
      obtain ⟨entry, hentry, hpeer⟩ := Fallible.mem_of_forall₂ hmembers hm
      obtain ⟨hadmits, hq⟩ := (allows_ofPeer hpeer peer q).mp hallows
      exact ⟨hq, entry, hentry, hadmits⟩
    · intro h
      obtain ⟨hq, entry, hentry, hadmits⟩ := h
      obtain ⟨m, hm, hpeer⟩ := Fallible.exists_of_forall₂ hmembers hentry
      exact ⟨m, hm, (allows_ofPeer hpeer peer q).mpr ⟨hadmits, hq⟩⟩

end PeerMatcher
end PodTraffic
