import PodTraffic.Proofs.Policy.Groups

/-!
# The normal form of a peer list

A short list is everyone alone, nobody alone, or at most one matcher for all peers, then one for
each block and one for each choice of pods, in the order in which they first occur, with the ports
that are not open to all peers. Such a list is its own short list.
-/
namespace PodTraffic

namespace PeerMatcher

def everyone? : PeerMatcher → Option PortMatcher
  | ports port => some port
  | _ => none

def block? : PeerMatcher → Option (IpBlock × PortMatcher)
  | block b port => some (b, port)
  | _ => none

def pod? : PeerMatcher → Option ((NamespaceMatcher × PodMatcher) × PortMatcher)
  | pod ns pods port => some ((ns, pods), port)
  | _ => none

def choiceKey (choice : NamespaceMatcher × PodMatcher) : String := podKey choice.1 choice.2

end PeerMatcher

open PeerMatcher

/-- All peers first, then blocks, then pods. -/
def listing (everyone : Option PortMatcher) (blocks : List (IpBlock × PortMatcher))
    (pods : List ((NamespaceMatcher × PodMatcher) × PortMatcher)) : List PeerMatcher :=
  (everyone.map .ports).toList ++ blocks.map (fun e => .block e.1 e.2) ++
    pods.map fun e => .pod e.1.1 e.1.2 e.2

section Listing

variable (everyone : Option PortMatcher) (blocks : List (IpBlock × PortMatcher))
  (pods : List ((NamespaceMatcher × PodMatcher) × PortMatcher))

theorem filterMap_everyone_listing :
    (listing everyone blocks pods).filterMap everyone? = everyone.toList := by
  have hblocks : blocks.filterMap (fun e => everyone? (.block e.1 e.2)) = [] :=
    List.filterMap_eq_nil_iff.mpr fun _ _ => rfl
  have hpods : pods.filterMap (fun e => everyone? (.pod e.1.1 e.1.2 e.2)) = [] :=
    List.filterMap_eq_nil_iff.mpr fun _ _ => rfl
  simp only [listing, List.filterMap_append, List.filterMap_map, Function.comp_def, hblocks, hpods]
  cases everyone <;> rfl

theorem filterMap_block_listing :
    (listing everyone blocks pods).filterMap block? = blocks := by
  have heveryone : (everyone.map PeerMatcher.ports).toList.filterMap block? = [] := by
    cases everyone <;> rfl
  have hblocks : blocks.filterMap (fun e => block? (.block e.1 e.2)) = blocks := List.filterMap_some
  have hpods : pods.filterMap (fun e => block? (.pod e.1.1 e.1.2 e.2)) = [] :=
    List.filterMap_eq_nil_iff.mpr fun _ _ => rfl
  simp only [listing, List.filterMap_append, List.filterMap_map, Function.comp_def, heveryone,
    hblocks, hpods, List.nil_append, List.append_nil]

theorem filterMap_pod_listing :
    (listing everyone blocks pods).filterMap pod? = pods := by
  have heveryone : (everyone.map PeerMatcher.ports).toList.filterMap pod? = [] := by
    cases everyone <;> rfl
  have hblocks : blocks.filterMap (fun e => pod? (.block e.1 e.2)) = [] :=
    List.filterMap_eq_nil_iff.mpr fun _ _ => rfl
  have hpods : pods.filterMap (fun e => pod? (.pod e.1.1 e.1.2 e.2)) = pods := List.filterMap_some
  simp only [listing, List.filterMap_append, List.filterMap_map, Function.comp_def, heveryone,
    hblocks, hpods, List.nil_append]

theorem all_not_mem_listing : .all ∉ listing everyone blocks pods := by
  simp [listing]

end Listing

namespace PeerGroups

theorem addBlock_eq_gather (b : IpBlock) (port : PortMatcher)
    (blocks : List (IpBlock × PortMatcher)) :
    addBlock b port blocks = gather IpBlock.text (b, port) blocks := by
  induction blocks with
  | nil => rfl
  | cons e rest ih => rw [addBlock, gather, ih]

/-- A group of pods as a choice with ports. -/
def choice (e : NamespaceMatcher × PodMatcher × PortMatcher) :
    (NamespaceMatcher × PodMatcher) × PortMatcher := ((e.1, e.2.1), e.2.2)

theorem addPods_eq_gather (ns : NamespaceMatcher) (pods : PodMatcher) (port : PortMatcher)
    (groups : List (NamespaceMatcher × PodMatcher × PortMatcher)) :
    (addPods ns pods port groups).map choice =
      gather choiceKey ((ns, pods), port) (groups.map choice) := by
  induction groups with
  | nil => rfl
  | cons e rest ih =>
    rw [addPods, List.map_cons, gather, ← ih]
    change (if podKey e.1 e.2.1 == podKey ns pods then _ else _ : List _).map choice =
      if podKey e.1 e.2.1 == podKey ns pods then _ else _
    split <;> rfl

/-- The groups hold what a list has of each kind, gathered. -/
structure Collects (g : PeerGroups) (peers : List PeerMatcher) : Prop where
  everyone : g.everyone = PortMatcher.unions (peers.filterMap everyone?)
  blocks : g.blocks = gatherAll IpBlock.text (peers.filterMap block?)
  pods : g.pods.map choice = gatherAll choiceKey (peers.filterMap pod?)

theorem Collects.add {g : PeerGroups} {peers : List PeerMatcher} (h : g.Collects peers)
    (m : PeerMatcher) : (g.add m).Collects (peers ++ [m]) where
  everyone := by
    cases m <;>
      simp [PeerGroups.add, List.filterMap_cons, everyone?, PortMatcher.unions_concat, h.everyone]
  blocks := by
    cases m <;>
      simp [PeerGroups.add, List.filterMap_cons, block?, gatherAll_concat, addBlock_eq_gather,
        h.blocks]
  pods := by
    cases m <;>
      simp [PeerGroups.add, List.filterMap_cons, pod?, gatherAll_concat, addPods_eq_gather, h.pods]

theorem collects_foldl_add (peers : List PeerMatcher) : (peers.foldl add {}).Collects peers := by
  induction peers using List.reverseRecOn with
  | nil => exact ⟨rfl, rfl, rfl⟩
  | append_singleton peers m ih =>
    rw [List.foldl_append]
    exact ih.add m

theorem remaining_eq_beyond (g : PeerGroups) (port : PortMatcher) :
    g.remaining port = PortMatcher.beyond g.everyone port := rfl

end PeerGroups

/-- The groups of a list, shortened and in order. -/
def shortListing (peers : List PeerMatcher) : List PeerMatcher :=
  let everyone := PortMatcher.unions (peers.filterMap everyone?)
  listing everyone (shorten IpBlock.text everyone (peers.filterMap block?))
    (shorten choiceKey everyone (peers.filterMap pod?))

theorem PeerGroups.Collects.matchers_eq {g : PeerGroups} {peers : List PeerMatcher}
    (h : g.Collects peers) : g.matchers = shortListing peers := by
  have hpods : g.pods.filterMap (fun e => (g.remaining e.2.2).map (PeerMatcher.pod e.1 e.2.1)) =
      (g.pods.map choice).filterMap fun e =>
        (PortMatcher.beyond g.everyone e.2).map (PeerMatcher.pod e.1.1 e.1.2) := by
    rw [List.filterMap_map]
    rfl
  rw [matchers, shortListing, listing]
  change _ ++ _ ++ g.pods.filterMap (fun e => (g.remaining e.2.2).map _) = _
  rw [hpods, h.pods, h.blocks]
  simp only [shorten, List.map_filterMap, Option.map_map, Function.comp_def, ← h.everyone,
    remaining_eq_beyond]

/-- The short list that a list has. -/
inductive NormalForm (peers : List PeerMatcher) : List PeerMatcher → Prop
  /-- Some matcher is open to all peers on all ports. -/
  | all (h : .all ∈ peers ∨ .ports .all ∈ peers) : NormalForm peers [.all]
  | nobody (h : ∀ m ∈ peers, m = .nobody) : NormalForm peers [.nobody]
  | listed {everyone : Option PortMatcher} {blocks : List (IpBlock × PortMatcher)}
      {pods : List ((NamespaceMatcher × PodMatcher) × PortMatcher)}
      (hall : .all ∉ peers)
      (heveryone : PortMatcher.unions (peers.filterMap everyone?) = everyone)
      (hnone : everyone = none ↔ ∀ port, .ports port ∉ peers)
      (htogether : ∀ port ∈ everyone, PortMatcher.Together none (peers.filterMap everyone?) port)
      (hports : everyone ≠ some .all)
      (hblocks : Groups IpBlock.text everyone (peers.filterMap block?) blocks)
      (hpods : Groups choiceKey everyone (peers.filterMap pod?) pods)
      (hsome : listing everyone blocks pods ≠ []) : NormalForm peers (listing everyone blocks pods)

variable {peers out : List PeerMatcher}

theorem ports_all_mem_iff :
    PortMatcher.unions (peers.filterMap everyone?) = some .all ↔ .ports .all ∈ peers := by
  rw [PortMatcher.unions_eq_all_iff, List.mem_filterMap]
  constructor
  · rintro ⟨m, hm, hport⟩
    cases m with
    | ports port => rwa [← Option.some.inj hport]
    | _ => cases hport
  · intro h
    exact ⟨_, h, rfl⟩

theorem unions_everyone_eq_none_iff :
    PortMatcher.unions (peers.filterMap everyone?) = none ↔ ∀ port, .ports port ∉ peers := by
  rw [PortMatcher.unions_eq_none_iff, List.filterMap_eq_nil_iff]
  constructor
  · intro h port hport
    cases h _ hport
  · intro h m hm
    cases m with
    | ports port => exact absurd hm (h port)
    | _ => rfl

theorem simplifyPeers_of_all (h : .all ∈ peers ∨ .ports .all ∈ peers) :
    simplifyPeers peers = [.all] := by
  have hgroups := PeerGroups.collects_foldl_add peers
  rw [← ports_all_mem_iff, ← hgroups.everyone] at h
  simp [simplifyPeers, h]

theorem simplifyPeers_of_not_all (hall : .all ∉ peers)
    (hports : PortMatcher.unions (peers.filterMap everyone?) ≠ some .all) :
    simplifyPeers peers =
      if (shortListing peers).isEmpty then [.nobody] else shortListing peers := by
  have hgroups := PeerGroups.collects_foldl_add peers
  rw [← hgroups.everyone] at hports
  simp only [simplifyPeers, ← hgroups.matchers_eq]
  rw [if_neg (by simp [hall, hports])]

/-- Only nobody is left out of a short listing altogether. -/
theorem eq_nobody_of_shortListing (hall : .all ∉ peers) (h : shortListing peers = []) :
    ∀ m ∈ peers, m = .nobody := by
  simp only [shortListing, listing, List.append_eq_nil_iff, List.map_eq_nil_iff,
    Option.toList_eq_nil_iff, Option.map_eq_none_iff] at h
  obtain ⟨⟨hnone, hblocks⟩, hpods⟩ := h
  rw [hnone] at hblocks hpods
  have heveryone := List.filterMap_eq_nil_iff.mp (PortMatcher.unions_eq_none_iff.mp hnone)
  have hblocks := List.filterMap_eq_nil_iff.mp (eq_nil_of_shorten hblocks)
  have hpods := List.filterMap_eq_nil_iff.mp (eq_nil_of_shorten hpods)
  intro m hm
  cases m with
  | all => exact absurd hm hall
  | ports port => cases heveryone _ hm
  | block b port => cases hblocks _ hm
  | pod ns pods port => cases hpods _ hm
  | nobody => rfl

theorem normalForm_simplifyPeers (peers : List PeerMatcher) :
    NormalForm peers (simplifyPeers peers) := by
  by_cases h : .all ∈ peers ∨ .ports .all ∈ peers
  · rw [simplifyPeers_of_all h]
    exact .all h
  · rw [not_or, ← ports_all_mem_iff] at h
    rw [simplifyPeers_of_not_all h.1 h.2]
    split
    · next hempty => exact .nobody (eq_nobody_of_shortListing h.1 (List.isEmpty_iff.mp hempty))
    · next hsome =>
      exact .listed h.1 rfl unions_everyone_eq_none_iff
        (fun _ hport => (PortMatcher.unites_unions hport).together) h.2 (groups_shorten h.2 _)
        (groups_shorten h.2 _) fun hempty => hsome (List.isEmpty_iff.mpr hempty)

theorem length_kinds_le (peers : List PeerMatcher) :
    (peers.filterMap everyone?).length + (peers.filterMap block?).length +
      (peers.filterMap pod?).length ≤ peers.length := by
  induction peers with
  | nil => simp
  | cons m rest ih => cases m <;> simp [List.filterMap_cons, everyone?, block?, pod?] <;> omega

namespace NormalForm

theorem ne_nil (h : NormalForm peers out) : out ≠ [] := by
  cases h with
  | all | nobody => simp
  | listed _ _ _ _ _ _ _ hsome => exact hsome

/-- At most one matcher of each kind comes from each of the list. -/
theorem length_le (h : NormalForm peers out) : out.length ≤ max 1 peers.length := by
  cases h with
  | all | nobody => simp
  | @listed everyone blocks pods _ heveryone _ _ _ hblocks hpods _ =>
    have hfirst : everyone.toList.length ≤ (peers.filterMap everyone?).length := by
      rw [← heveryone]
      exact PortMatcher.length_unions_le _
    have hkinds := length_kinds_le peers
    have hblocks := hblocks.length_le
    have hpods := hpods.length_le
    simp only [listing, List.length_append, List.length_map, Option.toList_map]
    omega

/-- A short list is its own short list. -/
theorem simplifyPeers_eq (h : NormalForm peers out) : simplifyPeers out = out := by
  cases h with
  | all | nobody => rfl
  | @listed everyone blocks pods _ _ _ _ hports hblocks hpods hsome =>
    have heveryone : PortMatcher.unions ((listing everyone blocks pods).filterMap everyone?) =
        everyone := by
      rw [filterMap_everyone_listing, PortMatcher.unions_toList]
    have hagain : shortListing (listing everyone blocks pods) = listing everyone blocks pods := by
      rw [shortListing]
      simp only [heveryone, filterMap_block_listing, filterMap_pod_listing,
        hblocks.shorten_eq_self, hpods.shorten_eq_self]
    rw [simplifyPeers_of_not_all (all_not_mem_listing everyone blocks pods) (by rwa [heveryone]),
      hagain, if_neg (by simpa using hsome)]

end NormalForm

/-- Simplifying reaches a normal form at once: a list that is not empty, in normal form, not longer
than it was unless it was empty, and that stays as it is when it is simplified again. -/
theorem simplifyPeers_normal (peers : List PeerMatcher) :
    NormalForm peers (simplifyPeers peers) ∧ simplifyPeers peers ≠ [] ∧
      (simplifyPeers peers).length ≤ max 1 peers.length ∧
      simplifyPeers (simplifyPeers peers) = simplifyPeers peers := by
  have hnormal := normalForm_simplifyPeers peers
  exact ⟨hnormal, hnormal.ne_nil, hnormal.length_le, hnormal.simplifyPeers_eq⟩

/-- Nobody and one choice of pods give way, and the other keeps the port not open to all peers. -/
example :
    let tcp (port : Nat) : PortMatcher := .ofEntries [⟨some (.number port), .tcp⟩] []
    simplifyPeers [.nobody, .pod (.exact "x") .all (tcp 80), .pod (.exact "y") .all (tcp 443),
        .ports (tcp 80), .pod (.exact "y") .all (tcp 80)] =
      [.ports (tcp 80), .pod (.exact "y") .all (tcp 443)] := by
  decide +kernel

end PodTraffic
