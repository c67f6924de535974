import PodTraffic.Policy
import PodTraffic.Proofs.Port
import PodTraffic.Proofs.SortedMap

/-!
# Simplification keeps every verdict

The grouping of a peer list compares blocks and pod choices by their texts, so it is sound for
lists whose texts are faithful: matchers with one text reach the same peers. Simplified lists only
regroup the blocks and pod choices of the lists that they come from, so faithfulness is a property
of the matchers that were ever added to a policy, and holds on whenever the policy is simplified.
-/
namespace PodTraffic

namespace PeerMatcher

/-- The peers of a matcher, whatever the ports. -/
def reaches (m : PeerMatcher) (peer : Endpoint) : Bool :=
  match m with
  | all | ports _ => true
  | block b _ => peer.ip.any b.contains
  | pod ns pods _ => peer.pod.any fun p => ns.allows p.ns p.nsLabels && pods.allows p.labels
  | nobody => false

/-- Blocks of one text, or pod choices of one key. -/
def SameKey : PeerMatcher → PeerMatcher → Prop
  | block b _, block b' _ => b.text = b'.text
  | pod ns pods _, pod ns' pods' _ => podKey ns pods = podKey ns' pods'
  | _, _ => False

instance : DecidableRel SameKey := by
  intro m m'
  unfold SameKey
  split <;> infer_instance

/-- The block or pod choice of the matcher, on some ports, is one of `ms`. -/
def DrawnFrom (ms : List PeerMatcher) : PeerMatcher → Prop
  | block b _ => ∃ port, block b port ∈ ms
  | pod ns pods _ => ∃ port, pod ns pods port ∈ ms
  | _ => True

theorem drawnFrom_of_mem {ms : List PeerMatcher} {m : PeerMatcher} (h : m ∈ ms) :
    m.DrawnFrom ms := by
  cases m with
  | block b port => exact ⟨port, h⟩
  | pod ns pods port => exact ⟨port, h⟩
  | _ => exact trivial

end PeerMatcher

/-- Matchers of one key reach the same peers. -/
def KeysFaithful (ms : List PeerMatcher) : Prop :=
  ∀ m ∈ ms, ∀ m' ∈ ms, m.SameKey m' → ∀ peer, m.reaches peer = m'.reaches peer

namespace PeerMatcher

variable {ms : List PeerMatcher} {m m' : PeerMatcher} {before after : List PeerMatcher}

theorem reaches_eq_of_sameKey (hfaithful : KeysFaithful ms) (hm : m.DrawnFrom ms)
    (hm' : m'.DrawnFrom ms) (hkey : m.SameKey m') (peer : Endpoint) :
    m.reaches peer = m'.reaches peer := by
  cases m with
  | block b port =>
    cases m' with
    | block b' port' =>
      obtain ⟨p, hp⟩ := hm
      obtain ⟨p', hp'⟩ := hm'
      exact hfaithful _ hp _ hp' hkey peer
    | _ => exact hkey.elim
  | pod ns pods port =>
    cases m' with
    | pod ns' pods' port' =>
      obtain ⟨p, hp⟩ := hm
      obtain ⟨p', hp'⟩ := hm'
      exact hfaithful _ hp _ hp' hkey peer
    | _ => exact hkey.elim
  | _ => exact hkey.elim

/-- The peers of the first matcher on the ports of both. -/
def unite : PeerMatcher → PeerMatcher → PeerMatcher
  | block b port, block _ port' => block b (port.union port')
  | pod ns pods port, pod _ _ port' => pod ns pods (port.union port')
  | m, _ => m

theorem DrawnFrom.unite (h : m.DrawnFrom ms) (m' : PeerMatcher) : (m.unite m').DrawnFrom ms := by
  cases m <;> cases m' <;> exact h

theorem allows_unite (hkey : m.SameKey m') {peer : Endpoint}
    (hreach : m.reaches peer = m'.reaches peer) (q : PortQuery) :
    (m.unite m').allows peer q = (m.allows peer q || m'.allows peer q) := by
  cases m with
  | block b port =>
    cases m' with
    | block b' port' =>
      simp only [reaches] at hreach
      simp only [unite, allows, PortMatcher.allows_union, hreach, Bool.and_or_distrib_left]
    | _ => exact hkey.elim
  | pod ns pods port =>
    cases m' with
    | pod ns' pods' port' =>
      simp only [reaches] at hreach
      simp only [unite, allows, PortMatcher.allows_union, hreach, Bool.and_or_distrib_left]
    | _ => exact hkey.elim
  | _ => exact hkey.elim

/-- `m` is united with the first matcher of its key, or comes last. -/
inductive Gathers (m : PeerMatcher) : List PeerMatcher → List PeerMatcher → Prop where
  | last : Gathers m [] [m]
  | unite {m' : PeerMatcher} {rest : List PeerMatcher} (hkey : m'.SameKey m) :
      Gathers m (m' :: rest) (m'.unite m :: rest)
  | pass {m' : PeerMatcher} {rest rest' : List PeerMatcher} (h : Gathers m rest rest') :
      Gathers m (m' :: rest) (m' :: rest')

theorem Gathers.drawnFrom (h : Gathers m before after) (hm : m.DrawnFrom ms)
    (hbefore : ∀ x ∈ before, x.DrawnFrom ms) : ∀ x ∈ after, x.DrawnFrom ms := by
  induction h with
  | last => simpa using hm
  | unite hkey =>
    rw [List.forall_mem_cons] at hbefore ⊢
    exact ⟨hbefore.1.unite m, hbefore.2⟩
  | pass h ih =>
    rw [List.forall_mem_cons] at hbefore ⊢
    exact ⟨hbefore.1, ih hbefore.2⟩

/-- What is gathered lets through what it did, and what `m` does. -/
theorem Gathers.any_allows (h : Gathers m before after) (hfaithful : KeysFaithful ms)
    (hm : m.DrawnFrom ms) (hbefore : ∀ x ∈ before, x.DrawnFrom ms) (peer : Endpoint)
    (q : PortQuery) :
    after.any (·.allows peer q) = (before.any (·.allows peer q) || m.allows peer q) := by
  induction h with
  | last => simp
  | unite hkey =>
    rw [List.forall_mem_cons] at hbefore
    have hreach := reaches_eq_of_sameKey hfaithful hbefore.1 hm hkey peer
    rw [List.any_cons, List.any_cons, allows_unite hkey hreach, Bool.or_right_comm]
  | pass h ih =>
    rw [List.forall_mem_cons] at hbefore
    rw [List.any_cons, List.any_cons, ih hbefore.2, Bool.or_assoc]

end PeerMatcher

namespace PeerGroups

/-- Grouped matchers let through what one of them does. -/
def allows (g : PeerGroups) (peer : Endpoint) (q : PortQuery) : Bool :=
  g.everyone.any (·.allows q) ||
    g.blocks.any (fun e => (PeerMatcher.block e.1 e.2).allows peer q) ||
    g.pods.any (fun e => (PeerMatcher.pod e.1 e.2.1 e.2.2).allows peer q)

/-- Every group comes from `ms`. -/
structure DrawnFrom (ms : List PeerMatcher) (g : PeerGroups) : Prop where
  blocks : ∀ e ∈ g.blocks, (PeerMatcher.block e.1 e.2).DrawnFrom ms
  pods : ∀ e ∈ g.pods, (PeerMatcher.pod e.1 e.2.1 e.2.2).DrawnFrom ms

variable {ms : List PeerMatcher} (peer : Endpoint) (q : PortQuery)

theorem gathers_addBlock (b : IpBlock) (port : PortMatcher)
    (blocks : List (IpBlock × PortMatcher)) :
    PeerMatcher.Gathers (.block b port) (blocks.map fun e => .block e.1 e.2)
      ((addBlock b port blocks).map fun e => .block e.1 e.2) := by
  induction blocks with
  | nil => exact .last
  | cons e rest ih =>
    rw [addBlock]
    split
    · next htext =>
      have hkey : (PeerMatcher.block e.1 e.2).SameKey (.block b port) := beq_iff_eq.mp htext
      exact .unite hkey
    · exact .pass ih

theorem gathers_addPods (ns : NamespaceMatcher) (pods : PodMatcher) (port : PortMatcher)
    (groups : List (NamespaceMatcher × PodMatcher × PortMatcher)) :
    PeerMatcher.Gathers (.pod ns pods port) (groups.map fun e => .pod e.1 e.2.1 e.2.2)
      ((addPods ns pods port groups).map fun e => .pod e.1 e.2.1 e.2.2) := by
  induction groups with
  | nil => exact .last
  | cons e rest ih =>
    rw [addPods]
    split
    · next hpods =>
      have hkey : (PeerMatcher.pod e.1 e.2.1 e.2.2).SameKey (.pod ns pods port) :=
        beq_iff_eq.mp hpods
      exact .unite hkey
    · exact .pass ih

theorem DrawnFrom.add {g : PeerGroups} (hg : g.DrawnFrom ms) {m : PeerMatcher}
    (hm : m.DrawnFrom ms) : (g.add m).DrawnFrom ms := by
  cases m with
  | all => exact hg
  | nobody => exact hg
  | ports port => exact ⟨hg.blocks, hg.pods⟩
  | block b port =>
    have hadd := (gathers_addBlock b port g.blocks).drawnFrom hm (List.forall_mem_map.mpr hg.blocks)
    exact ⟨List.forall_mem_map.mp hadd, hg.pods⟩
  | pod ns pods port =>
    have hadd := (gathers_addPods ns pods port g.pods).drawnFrom hm
      (List.forall_mem_map.mpr hg.pods)
    exact ⟨hg.blocks, List.forall_mem_map.mp hadd⟩

theorem allows_add (hfaithful : KeysFaithful ms) {g : PeerGroups} (hg : g.DrawnFrom ms)
    {m : PeerMatcher} (hm : m.DrawnFrom ms) (hall : m ≠ .all) :
    (g.add m).allows peer q = (g.allows peer q || m.allows peer q) := by
  cases m with
  | all => exact absurd rfl hall
  | nobody => simp [add, PeerMatcher.allows]
  | ports port =>
    simp only [add, allows, PeerMatcher.allows]
    cases g.everyone with
    | none =>
      simp only [Option.map_none, Option.getD_none, Option.any_some, Option.any_none]
      cases port.allows q <;> simp
    | some present =>
      simp only [Option.map_some, Option.getD_some, Option.any_some, PortMatcher.allows_union]
      cases port.allows q <;> simp
  | block b port =>
    have hadd := (gathers_addBlock b port g.blocks).any_allows hfaithful hm
      (List.forall_mem_map.mpr hg.blocks) peer q
    simp only [List.any_map, Function.comp_def] at hadd
    simp only [add, allows, hadd]
    cases (PeerMatcher.block b port).allows peer q <;> simp
  | pod ns pods port =>
    have hadd := (gathers_addPods ns pods port g.pods).any_allows hfaithful hm
      (List.forall_mem_map.mpr hg.pods) peer q
    simp only [List.any_map, Function.comp_def] at hadd
    simp only [add, allows, hadd, Bool.or_assoc]

theorem DrawnFrom.foldl_add {peers : List PeerMatcher} (hpeers : ∀ m ∈ peers, m.DrawnFrom ms)
    {g : PeerGroups} (hg : g.DrawnFrom ms) : (peers.foldl PeerGroups.add g).DrawnFrom ms := by
  induction peers generalizing g with
  | nil => exact hg
  | cons m rest ih =>
    have hadd := hg.add (hpeers m (by simp))
    exact ih (fun m' hm' => hpeers m' (by simp [hm'])) hadd

/-- Grouping a list adds what its matchers let through. -/
theorem allows_foldl_add (hfaithful : KeysFaithful ms) {peers : List PeerMatcher}
    (hpeers : ∀ m ∈ peers, m.DrawnFrom ms) (hall : .all ∉ peers) {g : PeerGroups}
    (hg : g.DrawnFrom ms) :
    (peers.foldl add g).allows peer q = (g.allows peer q || peers.any (·.allows peer q)) := by
  induction peers generalizing g with
  | nil => simp
  | cons m rest ih =>
    have hm := hpeers m (by simp)
    have hne : m ≠ .all := by
      rintro rfl
      simp at hall
    have hrest := ih (fun m' hm' => hpeers m' (by simp [hm'])) (fun h => hall (by simp [h]))
      (hg.add hm)
    rw [List.foldl_cons, hrest, allows_add peer q hfaithful hg hm hne, List.any_cons, Bool.or_assoc]

/-- Ports that everyone has may be left out of a group. -/
theorem any_filterMap_remaining {α : Type} (g : PeerGroups) (groups : List (α × PortMatcher))
    (matcher : α → PortMatcher → PeerMatcher) (reached : α → Bool)
    (hmatcher : ∀ a port, (matcher a port).allows peer q = (reached a && port.allows q)) :
    (g.everyone.any (·.allows q) || (groups.filterMap fun e =>
        (g.remaining e.2).map (matcher e.1)).any (·.allows peer q)) =
      (g.everyone.any (·.allows q) || groups.any fun e => (matcher e.1 e.2).allows peer q) := by
  have hone : ∀ e : α × PortMatcher,
      (g.everyone.any (·.allows q) ||
          ((g.remaining e.2).map (matcher e.1)).any (·.allows peer q)) =
        (g.everyone.any (·.allows q) || (matcher e.1 e.2).allows peer q) := by
    intro e
    have hany : ((g.remaining e.2).map (matcher e.1)).any (·.allows peer q) =
        (reached e.1 && (g.remaining e.2).any (·.allows q)) := by
      cases g.remaining e.2 <;> simp [hmatcher]
    rw [hany, hmatcher]
    cases reached e.1 with
    | false => rfl
    | true =>
      unfold remaining
      cases g.everyone with
      | none => rfl
      | some covered =>
        have hsubtract := PortMatcher.allows_subtract e.2 covered q
        simp only [Option.any_some, Bool.true_and]
        rw [Bool.or_comm, hsubtract, Bool.or_comm]
  induction groups with
  | nil => rfl
  | cons e rest ih =>
    have he := hone e
    rw [List.any_cons, List.filterMap_cons]
    cases hremaining : (g.remaining e.2).map (matcher e.1) with
    | none =>
      rw [hremaining] at he
      simp only [Option.any_none, Bool.or_false] at he
      simp only []
      rw [ih, ← Bool.or_assoc, ← he]
    | some m =>
      rw [hremaining] at he
      simp only [Option.any_some] at he
      simp only [List.any_cons]
      rw [← Bool.or_assoc, he, Bool.or_right_comm, ih, Bool.or_right_comm, Bool.or_assoc]

theorem allows_matchers (g : PeerGroups) :
    g.matchers.any (·.allows peer q) = g.allows peer q := by
  have hblocks := any_filterMap_remaining peer q g g.blocks PeerMatcher.block
    (fun b => peer.ip.any b.contains) fun _ _ => rfl
  have hpods := any_filterMap_remaining peer q g
    (g.pods.map fun e => ((e.1, e.2.1), e.2.2)) (fun a port => PeerMatcher.pod a.1 a.2 port)
    (fun a => peer.pod.any fun p => a.1.allows p.ns p.nsLabels && a.2.allows p.labels)
    fun _ _ => rfl
  have heveryone : (g.everyone.map PeerMatcher.ports).toList.any (·.allows peer q) =
      g.everyone.any (·.allows q) := by
    cases g.everyone <;> simp [PeerMatcher.allows]
  simp only [List.filterMap_map, List.any_map, Function.comp_def] at hpods
  rw [matchers, List.any_append, List.any_append, heveryone, hblocks, allows, Bool.or_right_comm,
    hpods, Bool.or_right_comm]

theorem drawnFrom_matchers {g : PeerGroups} (hg : g.DrawnFrom ms) :
    ∀ m ∈ g.matchers, m.DrawnFrom ms := by
  intro m hm
  rw [matchers, List.mem_append, List.mem_append] at hm
  rcases hm with (hm | hm) | hm
  · rw [Option.mem_toList, Option.map_eq_some_iff] at hm
    obtain ⟨port, -, rfl⟩ := hm
    exact trivial
  · simp only [List.mem_filterMap, Option.map_eq_some_iff] at hm
    obtain ⟨e, he, port, -, rfl⟩ := hm
    exact hg.blocks e he
  · simp only [List.mem_filterMap, Option.map_eq_some_iff] at hm
    obtain ⟨e, he, port, -, rfl⟩ := hm
    exact hg.pods e he

end PeerGroups

theorem PeerGroups.drawnFrom_empty (ms : List PeerMatcher) :
    PeerGroups.DrawnFrom ms {} where
  blocks := by simp
  pods := by simp

/-- The short list lets through what the list does, from the same blocks and pod choices. -/
theorem allows_simplifyPeers {ms peers : List PeerMatcher} (hfaithful : KeysFaithful ms)
    (hpeers : ∀ m ∈ peers, m.DrawnFrom ms) (peer : Endpoint) (q : PortQuery) :
    (simplifyPeers peers).any (·.allows peer q) = peers.any (·.allows peer q) := by
  by_cases hall : .all ∈ peers
  · have hany : peers.any (·.allows peer q) = true := List.any_eq_true.mpr ⟨.all, hall, rfl⟩
    rw [hany]
    simp [simplifyPeers, hall, PeerMatcher.allows]
  · have hallows := PeerGroups.allows_foldl_add peer q hfaithful hpeers hall
      (PeerGroups.drawnFrom_empty ms)
    have hgroups : (peers.foldl PeerGroups.add {}).allows peer q =
        peers.any (·.allows peer q) := by
      simpa [PeerGroups.allows] using hallows
    have hmatchers := PeerGroups.allows_matchers peer q
      (peers.foldl PeerGroups.add {})
    rw [← hgroups, simplifyPeers]
    simp only [List.contains_eq_mem, hall, decide_false, Bool.false_or, beq_iff_eq]
    split
    · next heveryone => simp [PeerGroups.allows, heveryone, PeerMatcher.allows, PortMatcher.allows]
    · split
      · next hempty =>
        rw [← hmatchers, List.isEmpty_iff.mp hempty]
        rfl
      · exact hmatchers

theorem drawnFrom_simplifyPeers {ms peers : List PeerMatcher}
    (hpeers : ∀ m ∈ peers, m.DrawnFrom ms) : ∀ m ∈ simplifyPeers peers, m.DrawnFrom ms := by
  have hgroups : (peers.foldl PeerGroups.add {}).DrawnFrom ms :=
    (PeerGroups.drawnFrom_empty ms).foldl_add hpeers
  intro m hm
  unfold simplifyPeers at hm
  dsimp only at hm
  split at hm
  · obtain rfl := List.mem_singleton.mp hm
    exact trivial
  · split at hm
    · obtain rfl := List.mem_singleton.mp hm
      exact trivial
    · exact PeerGroups.drawnFrom_matchers hgroups m hm

end PodTraffic
