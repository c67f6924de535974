import PodTraffic.Policy
import PodTraffic.Proofs.Port.Canonical

/-!
# Groups of ports

Blocks with ports, and choices of pods with ports, are grouped alike: the ports of one key together
where the key first occurs, less those that are open to all peers.
-/
namespace PodTraffic

section EraseDups

variable {α : Type} [DecidableEq α]

theorem eraseDups_concat (l : List α) (a : α) :
    (l ++ [a]).eraseDups = if a ∈ l then l.eraseDups else l.eraseDups ++ [a] := by
  rw [List.eraseDups_append]
  by_cases h : a ∈ l <;> simp [List.removeAll, h, List.eraseDups_cons]

theorem nodup_eraseDups (l : List α) : l.eraseDups.Nodup := by
  induction l using List.reverseRecOn with
  | nil => simp
  | append_singleton l a ih =>
    rw [eraseDups_concat]
    split
    · exact ih
    · next ha =>
      rw [← List.concat_eq_append]
      exact ih.concat (by simpa using ha)

theorem length_eraseDups_le (l : List α) : l.eraseDups.length ≤ l.length := by
  induction l using List.reverseRecOn with
  | nil => simp
  | append_singleton l a ih =>
    rw [eraseDups_concat]
    split <;> simp <;> omega

end EraseDups

namespace PortMatcher

/-- All the ports of a list together, if there are any matchers in it. -/
def unions : List PortMatcher → Option PortMatcher
  | [] => none
  | m :: ms => some (ms.foldl union m)

theorem unions_concat (ms : List PortMatcher) (m : PortMatcher) :
    unions (ms ++ [m]) = some (((unions ms).map (·.union m)).getD m) := by
  cases ms <;> simp [unions]

theorem unions_toList (m : Option PortMatcher) : unions m.toList = m := by
  cases m <;> rfl

theorem unions_eq_none_iff {l : List PortMatcher} : unions l = none ↔ l = [] := by
  cases l <;> simp [unions]

theorem length_unions_le (l : List PortMatcher) : (unions l).toList.length ≤ l.length := by
  cases l <;> simp [unions]

theorem unites_foldl {l : List PortMatcher} {a : PortMatcher} (h : Unites l a)
    (ms : List PortMatcher) : Unites (l ++ ms) (ms.foldl union a) := by
  induction ms generalizing l a with
  | nil => simpa using h
  | cons m ms ih => simpa using ih (h.union (.single m))

theorem unites_unions {l : List PortMatcher} {u : PortMatcher} (h : unions l = some u) :
    Unites l u := by
  cases l with
  | nil => cases h
  | cons m ms =>
    cases h
    exact unites_foldl (.single m) ms

theorem unions_eq_all_iff {l : List PortMatcher} : unions l = some all ↔ all ∈ l := by
  cases h : unions l with
  | none =>
    cases l with
    | nil => simp
    | cons m ms => cases h
  | some u => rw [Option.some.injEq, (unites_unions h).eq_all_iff]

/-- The entry is listed, or is one port of a protocol or a range that is listed. -/
inductive CoversEntry (m : PortMatcher) (e : PortEntry) : Prop
  | listed (h : e ∈ m.entries)
  | protocol (h : ⟨none, e.protocol⟩ ∈ m.entries)
  | range {r : PortRange} {n : Nat} (hr : r ∈ m.ranges) (hprotocol : r.protocol = e.protocol)
    (hport : e.port = some (.number n)) (hfirst : r.first ≤ n) (hlast : n ≤ r.last)

/-- The range is one of a protocol that is listed, or lies in a listed range. -/
inductive CoversRange (m : PortMatcher) (s : PortRange) : Prop
  | protocol (h : ⟨none, s.protocol⟩ ∈ m.entries)
  | range {r : PortRange} (hr : r ∈ m.ranges) (hprotocol : r.protocol = s.protocol)
    (hfirst : r.first ≤ s.first) (hlast : s.last ≤ r.last)

variable {ports : List PortEntry} {ranges : List PortRange}

theorem specific_ne_all : specific ports ranges ≠ all := by
  simp

theorem coversEntry_eq_true_iff {e : PortEntry} :
    coversEntry ports ranges e = true ↔ (specific ports ranges).CoversEntry e := by
  simp only [coversEntry, Bool.or_eq_true, List.any_eq_true, Bool.and_eq_true, beq_iff_eq,
    Option.isNone_iff_eq_none]
  constructor
  · rintro (⟨⟨port, protocol⟩, hp, rfl | ⟨rfl, rfl⟩⟩ | hrange)
    · exact .listed hp
    · exact .protocol hp
    · cases hport : e.port with
      | none => simp [hport] at hrange
      | some v =>
        cases v with
        | name s => simp [hport] at hrange
        | number n =>
          simp only [hport, List.any_eq_true, PortRange.holds, Bool.and_eq_true, beq_iff_eq,
            decide_eq_true_eq] at hrange
          obtain ⟨r, hr, ⟨hprotocol, hfirst⟩, hlast⟩ := hrange
          exact .range hr hprotocol hport hfirst hlast
  · intro h
    cases h with
    | listed h => exact .inl ⟨e, h, .inl rfl⟩
    | protocol h => exact .inl ⟨_, h, .inr ⟨rfl, rfl⟩⟩
    | range hr hprotocol hport hfirst hlast =>
      right
      simp only [hport, List.any_eq_true]
      exact ⟨_, hr, by simp [PortRange.holds, hprotocol, hfirst, hlast]⟩

theorem coversRange_eq_true_iff {s : PortRange} :
    coversRange ports ranges s = true ↔ (specific ports ranges).CoversRange s := by
  simp only [coversRange, PortRange.covers, Bool.or_eq_true, List.any_eq_true, Bool.and_eq_true,
    beq_iff_eq, decide_eq_true_eq, Option.isNone_iff_eq_none]
  constructor
  · rintro (⟨⟨port, protocol⟩, hp, rfl, rfl⟩ | ⟨r, hr, ⟨hprotocol, hfirst⟩, hlast⟩)
    · exact .protocol hp
    · exact .range hr hprotocol hfirst hlast
  · intro h
    cases h with
    | protocol h => exact .inl ⟨_, h, rfl, rfl⟩
    | range hr hprotocol hfirst hlast => exact .inr ⟨_, hr, ⟨hprotocol, hfirst⟩, hlast⟩

theorem mem_subtract_entries {e : PortEntry} {ports' : List PortEntry} :
    e ∈ ports'.filter (fun e => !coversEntry ports ranges e) ↔
      e ∈ ports' ∧ ¬ (specific ports ranges).CoversEntry e := by
  rw [List.mem_filter, ← coversEntry_eq_true_iff, Bool.not_eq_true', Bool.not_eq_true]

theorem mem_subtract_ranges {s : PortRange} {ranges' : List PortRange} :
    s ∈ ranges'.filter (fun s => !coversRange ports ranges s) ↔
      s ∈ ranges' ∧ ¬ (specific ports ranges).CoversRange s := by
  rw [List.mem_filter, ← coversRange_eq_true_iff, Bool.not_eq_true', Bool.not_eq_true]

/-- No entry and no range that is left is covered. -/
theorem uncovered_of_subtract {a b r : PortMatcher} (h : a.subtract b = some r) :
    (∀ e ∈ r.entries, ¬ b.CoversEntry e) ∧ ∀ s ∈ r.ranges, ¬ b.CoversRange s := by
  obtain ⟨ports', ranges', rfl, ⟨-, rfl⟩ | ⟨ports, ranges, -, rfl⟩⟩ := subtract_eq_some h
  · simp [entries, PortMatcher.ranges]
  · exact ⟨fun e he => (mem_subtract_entries.mp he).2, fun s hs => (mem_subtract_ranges.mp hs).2⟩

/-- Something is left if not all entries and ranges are covered. -/
theorem isSome_subtract_iff {ports' : List PortEntry} {ranges' : List PortRange} :
    ((specific ports' ranges').subtract (specific ports ranges)).isSome = true ↔
      (∃ e ∈ ports', ¬ (specific ports ranges).CoversEntry e) ∨
        ∃ r ∈ ranges', ¬ (specific ports ranges).CoversRange r := by
  simp only [subtract, ← coversEntry_eq_true_iff, ← coversRange_eq_true_iff]
  split
  · next hnone =>
    rw [Bool.and_eq_true, List.isEmpty_iff, List.isEmpty_iff] at hnone
    simpa [List.filter_eq_nil_iff] using hnone
  · next hsome =>
    rw [Bool.and_eq_true, List.isEmpty_iff, List.isEmpty_iff] at hsome
    simpa [List.filter_eq_nil_iff, imp_iff_not_or] using hsome

/-- What of the ports is not open to all peers. -/
def beyond (everyone : Option PortMatcher) (port : PortMatcher) : Option PortMatcher :=
  match everyone with
  | none => some port
  | some covered => port.subtract covered

/-- What is left is left again. -/
theorem beyond_beyond {everyone : Option PortMatcher} {port left : PortMatcher}
    (h : beyond everyone port = some left) : beyond everyone left = some left := by
  cases everyone with
  | none => rfl
  | some covered => exact subtract_subtract h

/-- The entry is open to all peers already. -/
def OpenEntry (everyone : Option PortMatcher) (e : PortEntry) : Prop :=
  ∃ m ∈ everyone, m.CoversEntry e

def OpenRange (everyone : Option PortMatcher) (r : PortRange) : Prop :=
  ∃ m ∈ everyone, m.CoversRange r

theorem openEntry_some_iff {m : PortMatcher} {e : PortEntry} :
    OpenEntry (some m) e ↔ m.CoversEntry e := by
  simp [OpenEntry]

theorem openRange_some_iff {m : PortMatcher} {r : PortRange} :
    OpenRange (some m) r ↔ m.CoversRange r := by
  simp [OpenRange]

/-- What the matchers of a list hold together and is not open to all peers already. -/
structure Together (everyone : Option PortMatcher) (l : List PortMatcher) (m : PortMatcher) :
    Prop where
  everything : m = all ↔ all ∈ l
  entries : m ≠ all → ∀ e,
    e ∈ m.entries ↔ (∃ p ∈ l, e ∈ p.entries) ∧ ¬ OpenEntry everyone e
  ranges : m ≠ all → ∀ r,
    r ∈ m.ranges ↔ (∃ p ∈ l, r ∈ p.ranges) ∧ ¬ OpenRange everyone r
  /-- With the ports that are open to all peers, what one of the list allows. -/
  allows : ∀ q, (m.allows q = true ∨ ∃ p ∈ everyone, p.allows q = true) ↔
    (∃ p ∈ l, p.allows q = true) ∨ ∃ p ∈ everyone, p.allows q = true

/-- Something that a matcher of the list holds is not open to all peers. -/
def HasMore (everyone : Option PortMatcher) (l : List PortMatcher) : Prop :=
  everyone = none ∨ all ∈ l ∨ ∃ m ∈ l, (∃ e ∈ m.entries, ¬ OpenEntry everyone e) ∨
    ∃ r ∈ m.ranges, ¬ OpenRange everyone r

section Together

variable {everyone : Option PortMatcher} {l : List PortMatcher} {u m : PortMatcher}

theorem Unites.together (h : Unites l u) : Together none l u where
  everything := h.eq_all_iff
  entries hall e := by simpa [OpenEntry] using (h.mem_iff hall).1 e
  ranges hall r := by simpa [OpenRange] using (h.mem_iff hall).2 r
  allows q := by simpa using h.allows_iff q

theorem Unites.together_subtract {covered : PortMatcher} (h : Unites l u)
    (hm : u.subtract covered = some m) : Together (some covered) l m := by
  have hjoined (q : PortQuery) : (m.allows q = true ∨ ∃ p ∈ some covered, p.allows q = true) ↔
      (∃ p ∈ l, p.allows q = true) ∨ ∃ p ∈ some covered, p.allows q = true := by
    simpa [← h.allows_iff] using joined_of_subtract hm q
  obtain ⟨ports', ranges', rfl, ⟨rfl, rfl⟩ | ⟨ports, ranges, rfl, rfl⟩⟩ := subtract_eq_some hm
  · exact ⟨h.eq_all_iff, fun hall => absurd rfl hall, fun hall => absurd rfl hall, hjoined⟩
  · have hall : specific ports ranges ≠ all := specific_ne_all
    obtain ⟨hentries, hranges⟩ := h.mem_iff hall
    refine ⟨iff_of_false specific_ne_all fun hl => hall (h.eq_all_iff.mpr hl), fun _ e => ?_,
      fun _ r => ?_, hjoined⟩
    · rw [← hentries e, openEntry_some_iff]
      exact mem_subtract_entries
    · rw [← hranges r, openRange_some_iff]
      exact mem_subtract_ranges

theorem Unites.together_beyond (h : Unites l u) (hm : beyond everyone u = some m) :
    Together everyone l m := by
  cases everyone with
  | none =>
    cases hm
    exact h.together
  | some covered => exact h.together_subtract hm

/-- Some entry or range of a union is one of its matchers'. -/
theorem Unites.exists_iff {P : PortEntry → Prop} {R : PortRange → Prop} (h : Unites l u)
    (hall : u ≠ all) : ((∃ e ∈ u.entries, P e) ∨ ∃ r ∈ u.ranges, R r) ↔
      ∃ m ∈ l, (∃ e ∈ m.entries, P e) ∨ ∃ r ∈ m.ranges, R r := by
  obtain ⟨hentries, hranges⟩ := h.mem_iff hall
  constructor
  · intro hsome
    rcases hsome with ⟨e, he, hP⟩ | ⟨r, hr, hR⟩
    · obtain ⟨m, hm, he⟩ := (hentries e).mp he
      exact ⟨m, hm, .inl ⟨e, he, hP⟩⟩
    · obtain ⟨m, hm, hr⟩ := (hranges r).mp hr
      exact ⟨m, hm, .inr ⟨r, hr, hR⟩⟩
  · intro hsome
    obtain ⟨m, hm, hsome⟩ := hsome
    rcases hsome with ⟨e, he, hP⟩ | ⟨r, hr, hR⟩
    · exact .inl ⟨e, (hentries e).mpr ⟨m, hm, he⟩, hP⟩
    · exact .inr ⟨r, (hranges r).mpr ⟨m, hm, hr⟩, hR⟩

theorem Unites.hasMore_iff (h : Unites l u) (hall : everyone ≠ some .all) :
    (beyond everyone u).isSome = true ↔ HasMore everyone l := by
  cases everyone with
  | none => simp [beyond, HasMore]
  | some covered =>
    cases covered with
    | all => exact absurd rfl hall
    | specific ports' ranges' =>
      cases u with
      | all => simp [beyond, subtract, HasMore, h.eq_all_iff.mp rfl]
      | specific ports ranges =>
        have hne : specific ports ranges ≠ .all := specific_ne_all
        have hnot : .all ∉ l := fun hl => hne (h.eq_all_iff.mpr hl)
        change ((specific ports ranges).subtract (specific ports' ranges')).isSome = true ↔ _
        rw [isSome_subtract_iff]
        simp only [HasMore, openEntry_some_iff, openRange_some_iff, hnot, reduceCtorEq, false_or]
        exact h.exists_iff hne

end Together

end PortMatcher

section Groups

variable {β : Type} (key : β → String)

/-- Adds the ports to the group of the same key, or a group at the end. -/
def gather (x : β × PortMatcher) : List (β × PortMatcher) → List (β × PortMatcher)
  | [] => [x]
  | e :: rest => if key e.1 == key x.1 then (e.1, e.2.union x.2) :: rest else e :: gather x rest

def gatherAll (xs : List (β × PortMatcher)) : List (β × PortMatcher) :=
  xs.foldl (fun groups x => gather key x groups) []

/-- The groups with the ports that are not open to all peers. -/
def shorten (everyone : Option PortMatcher) (xs : List (β × PortMatcher)) :
    List (β × PortMatcher) :=
  (gatherAll key xs).filterMap fun e => (PortMatcher.beyond everyone e.2).map (e.1, ·)

/-- The ports that go with a key. -/
def matchersOf (xs : List (β × PortMatcher)) (k : String) : List PortMatcher :=
  (xs.filter fun x => key x.1 == k).map (·.2)

/-- The ports that go with a key, all together. -/
def portsOf (xs : List (β × PortMatcher)) (k : String) : Option PortMatcher :=
  PortMatcher.unions (matchersOf key xs k)

variable {key} {x e : β × PortMatcher} {xs groups out : List (β × PortMatcher)}

theorem gatherAll_concat (xs : List (β × PortMatcher)) (x : β × PortMatcher) :
    gatherAll key (xs ++ [x]) = gather key x (gatherAll key xs) := by
  rw [gatherAll, List.foldl_append]
  rfl

theorem keys_gather (x : β × PortMatcher) (groups : List (β × PortMatcher)) :
    (gather key x groups).map (key ·.1) =
      if key x.1 ∈ groups.map (key ·.1) then groups.map (key ·.1)
      else groups.map (key ·.1) ++ [key x.1] := by
  induction groups with
  | nil => rfl
  | cons e rest ih =>
    by_cases hkey : key e.1 = key x.1
    · simp [gather, hkey]
    · rw [gather, if_neg (by simpa using hkey), List.map_cons, ih, List.map_cons]
      simp only [List.mem_cons, Ne.symm hkey, false_or]
      split <;> rfl

/-- A group stays, or is the one of the key, or is new. -/
theorem mem_gather (hnodup : (groups.map (key ·.1)).Nodup) (he : e ∈ gather key x groups) :
    e ∈ groups ∧ key e.1 ≠ key x.1 ∨
      (∃ g ∈ groups, key g.1 = key x.1 ∧ e = (g.1, g.2.union x.2)) ∨
      key x.1 ∉ groups.map (key ·.1) ∧ e = x := by
  induction groups with
  | nil => exact .inr (.inr ⟨by simp, List.mem_singleton.mp he⟩)
  | cons g rest ih =>
    rw [List.map_cons, List.nodup_cons] at hnodup
    by_cases hkey : key g.1 = key x.1
    · rw [gather, if_pos (beq_iff_eq.mpr hkey), List.mem_cons] at he
      rcases he with rfl | he
      · exact .inr (.inl ⟨g, by simp, hkey, rfl⟩)
      · refine .inl ⟨List.mem_cons_of_mem g he, fun hsame => hnodup.1 ?_⟩
        rw [hkey, ← hsame]
        exact List.mem_map_of_mem he
    · rw [gather, if_neg (by simpa using hkey), List.mem_cons] at he
      rcases he with rfl | he
      · exact .inl ⟨by simp, hkey⟩
      · rcases ih hnodup.2 he with ⟨hrest, hne⟩ | ⟨g', hg', hsame, rfl⟩ | ⟨hnew, rfl⟩
        · exact .inl ⟨List.mem_cons_of_mem g hrest, hne⟩
        · exact .inr (.inl ⟨g', List.mem_cons_of_mem g hg', hsame, rfl⟩)
        · exact .inr (.inr ⟨by simpa [Ne.symm hkey] using hnew, rfl⟩)

theorem portsOf_concat_of_ne {k : String} (h : key x.1 ≠ k) :
    portsOf key (xs ++ [x]) k = portsOf key xs k := by
  simp [portsOf, matchersOf, h]

theorem portsOf_concat_self : portsOf key (xs ++ [x]) (key x.1) =
    some (((portsOf key xs (key x.1)).map (·.union x.2)).getD x.2) := by
  simp [portsOf, matchersOf, PortMatcher.unions_concat]

theorem portsOf_of_not_mem {k : String} (h : k ∉ xs.map (key ·.1)) : portsOf key xs k = none := by
  have hnone : xs.filter (fun x => key x.1 == k) = [] := by
    rw [List.filter_eq_nil_iff]
    intro x hx hkey
    exact h (List.mem_map.mpr ⟨x, hx, beq_iff_eq.mp hkey⟩)
  rw [portsOf, matchersOf, hnone]
  rfl

/-- The groups of a list: one for each key where it first occurs, with all its ports. -/
structure Gathered (key : β → String) (xs groups : List (β × PortMatcher)) : Prop where
  keys : groups.map (key ·.1) = (xs.map (key ·.1)).eraseDups
  first : ∀ e ∈ groups, (xs.find? fun x => key x.1 == key e.1).map (·.1) = some e.1
  ports : ∀ e ∈ groups, portsOf key xs (key e.1) = some e.2

namespace Gathered

theorem nodup (h : Gathered key xs groups) : (groups.map (key ·.1)).Nodup := by
  rw [h.keys]
  exact nodup_eraseDups _

theorem not_mem (h : Gathered key xs groups) {k : String} (hk : k ∉ groups.map (key ·.1)) :
    k ∉ xs.map (key ·.1) := by
  rwa [h.keys, List.mem_eraseDups] at hk

/-- What gathering one more keeps. -/
theorem gather (h : Gathered key xs groups) (x : β × PortMatcher) :
    Gathered key (xs ++ [x]) (gather key x groups) where
  keys := by
    rw [keys_gather, List.map_append, List.map_singleton, eraseDups_concat, h.keys]
    simp only [List.mem_eraseDups]
  first := by
    intro e he
    rw [List.find?_append]
    rcases mem_gather h.nodup he with ⟨he, -⟩ | ⟨g, hg, -, rfl⟩ | ⟨hnew, rfl⟩
    · have hfirst := h.first e he
      cases hfind : xs.find? fun x => key x.1 == key e.1 with
      | none => simp [hfind] at hfirst
      | some y => simpa [hfind] using hfirst
    · have hfirst := h.first g hg
      cases hfind : xs.find? fun x => key x.1 == key g.1 with
      | none => simp [hfind] at hfirst
      | some y => simpa [hfind] using hfirst
    · have hnone : xs.find? (fun y => key y.1 == key e.1) = none := by
        rw [List.find?_eq_none]
        intro y hy hkey
        exact h.not_mem hnew (List.mem_map.mpr ⟨y, hy, beq_iff_eq.mp hkey⟩)
      simp [hnone]
  ports := by
    intro e he
    rcases mem_gather h.nodup he with ⟨he, hne⟩ | ⟨g, hg, hkey, rfl⟩ | ⟨hnew, rfl⟩
    · rw [portsOf_concat_of_ne (Ne.symm hne), h.ports e he]
    · have hports := h.ports g hg
      rw [hkey] at hports ⊢
      rw [portsOf_concat_self, hports]
      rfl
    · rw [portsOf_concat_self, portsOf_of_not_mem (h.not_mem hnew)]
      rfl

end Gathered

theorem gathered_gatherAll (key : β → String) (xs : List (β × PortMatcher)) :
    Gathered key xs (gatherAll key xs) := by
  induction xs using List.reverseRecOn with
  | nil => exact ⟨rfl, nofun, nofun⟩
  | append_singleton xs x ih =>
    rw [gatherAll_concat]
    exact ih.gather x

theorem gather_of_not_mem (h : key x.1 ∉ groups.map (key ·.1)) :
    gather key x groups = groups ++ [x] := by
  induction groups with
  | nil => rfl
  | cons e rest ih =>
    rw [List.map_cons, List.mem_cons, not_or] at h
    have hne : (key e.1 == key x.1) = false := beq_false_of_ne (Ne.symm h.1)
    simp [gather, hne, ih h.2]

/-- Groups of distinct keys are gathered already. -/
theorem gatherAll_eq_self (h : (xs.map (key ·.1)).Nodup) : gatherAll key xs = xs := by
  induction xs using List.reverseRecOn with
  | nil => rfl
  | append_singleton xs x ih =>
    rw [List.map_append, List.nodup_append] at h
    have hx : key x.1 ∉ xs.map (key ·.1) := fun hx => h.2.2 _ hx _ (by simp) rfl
    rw [gatherAll_concat, ih h.1, gather_of_not_mem hx]

/-- The groups that have ports not open to all peers, in order of first occurrence, each with all
that the matchers of its key hold and all peers do not. -/
structure Groups (key : β → String) (everyone : Option PortMatcher)
    (xs out : List (β × PortMatcher)) : Prop where
  keys : out.map (key ·.1) = (xs.map (key ·.1)).eraseDups.filter fun k =>
    ((portsOf key xs k).bind (PortMatcher.beyond everyone)).isSome
  distinct : (out.map (key ·.1)).Nodup
  first : ∀ e ∈ out, (xs.find? fun x => key x.1 == key e.1).map (·.1) = some e.1
  ports : ∀ e ∈ out, (portsOf key xs (key e.1)).bind (PortMatcher.beyond everyone) = some e.2
  uncovered : ∀ covered, everyone = some covered → ∀ e ∈ out,
    (∀ entry ∈ e.2.entries, ¬ covered.CoversEntry entry) ∧
      ∀ range ∈ e.2.ranges, ¬ covered.CoversRange range
  together : ∀ e ∈ out, PortMatcher.Together everyone (matchersOf key xs (key e.1)) e.2
  hasMore : ∀ x ∈ xs,
    key x.1 ∈ out.map (key ·.1) ↔ PortMatcher.HasMore everyone (matchersOf key xs (key x.1))

theorem mem_shorten {everyone : Option PortMatcher} (he : e ∈ shorten key everyone xs) :
    ∃ port, (e.1, port) ∈ gatherAll key xs ∧ PortMatcher.beyond everyone port = some e.2 := by
  simp only [shorten, List.mem_filterMap, Option.map_eq_some_iff] at he
  obtain ⟨g, hg, left, hleft, rfl⟩ := he
  exact ⟨g.2, hg, hleft⟩

theorem keys_shorten (everyone : Option PortMatcher) (xs : List (β × PortMatcher)) :
    (shorten key everyone xs).map (key ·.1) = (xs.map (key ·.1)).eraseDups.filter fun k =>
      ((portsOf key xs k).bind (PortMatcher.beyond everyone)).isSome := by
  have hgathered := gathered_gatherAll key xs
  rw [← hgathered.keys, List.filter_map, shorten, List.map_filterMap]
  rw [← List.filterMap_eq_map, List.filterMap_filter]
  refine List.filterMap_congr fun e he => ?_
  simp only [Function.comp_apply, hgathered.ports e he, Option.bind_some]
  cases PortMatcher.beyond everyone e.2 <;> rfl

theorem exists_portsOf (hx : x ∈ xs) : ∃ u, portsOf key xs (key x.1) = some u := by
  rw [← Option.ne_none_iff_exists', portsOf, ne_eq, PortMatcher.unions_eq_none_iff]
  exact List.ne_nil_of_mem (List.mem_map_of_mem (List.mem_filter.mpr ⟨hx, beq_self_eq_true _⟩))

theorem groups_shorten {everyone : Option PortMatcher} (hall : everyone ≠ some .all)
    (xs : List (β × PortMatcher)) :
    Groups key everyone xs (shorten key everyone xs) where
  keys := keys_shorten everyone xs
  distinct := by
    rw [keys_shorten]
    exact (nodup_eraseDups _).filter _
  first := by
    intro e he
    obtain ⟨port, hport, -⟩ := mem_shorten he
    exact (gathered_gatherAll key xs).first (e.1, port) hport
  ports := by
    intro e he
    obtain ⟨port, hport, hleft⟩ := mem_shorten he
    rw [(gathered_gatherAll key xs).ports _ hport, Option.bind_some, hleft]
  uncovered := by
    rintro covered rfl e he
    obtain ⟨port, -, hleft⟩ := mem_shorten he
    exact PortMatcher.uncovered_of_subtract hleft
  together := by
    intro e he
    obtain ⟨port, hport, hleft⟩ := mem_shorten he
    have hunites := PortMatcher.unites_unions ((gathered_gatherAll key xs).ports _ hport)
    exact hunites.together_beyond hleft
  hasMore := by
    intro x hx
    obtain ⟨u, hu⟩ : ∃ u, portsOf key xs (key x.1) = some u := exists_portsOf hx
    have hkey : key x.1 ∈ (xs.map (key ·.1)).eraseDups :=
      List.mem_eraseDups.mpr (List.mem_map.mpr ⟨x, hx, rfl⟩)
    rw [keys_shorten, List.mem_filter, and_iff_right hkey, hu, Option.bind_some]
    exact (PortMatcher.unites_unions hu).hasMore_iff hall

/-- Only nothing is shortened to nothing when no ports are open to all peers. -/
theorem eq_nil_of_shorten (h : shorten key none xs = []) : xs = [] := by
  have hnone : gatherAll key xs = [] := by
    rw [← h]
    exact (List.filterMap_some).symm
  have hkeys := (gathered_gatherAll key xs).keys
  rw [List.eq_nil_iff_forall_not_mem]
  intro x hx
  have hkey : key x.1 ∈ (xs.map (key ·.1)).eraseDups :=
    List.mem_eraseDups.mpr (List.mem_map.mpr ⟨x, hx, rfl⟩)
  rw [← hkeys, hnone] at hkey
  cases hkey

namespace Groups

variable {everyone : Option PortMatcher}

theorem length_le (h : Groups key everyone xs out) : out.length ≤ xs.length := by
  have hkeys := congrArg List.length h.keys
  rw [List.length_map] at hkeys
  calc out.length
      ≤ (xs.map (key ·.1)).eraseDups.length := hkeys ▸ List.length_filter_le _ _
    _ ≤ xs.length := (length_eraseDups_le _).trans_eq (List.length_map _)

theorem shorten_eq_self (h : Groups key everyone xs out) : shorten key everyone out = out := by
  rw [shorten, gatherAll_eq_self h.distinct]
  have hsame : ∀ e ∈ out, (PortMatcher.beyond everyone e.2).map (e.1, ·) = some e := by
    intro e he
    obtain ⟨port, -, hleft⟩ := Option.bind_eq_some_iff.mp (h.ports e he)
    rw [PortMatcher.beyond_beyond hleft]
    rfl
  rw [List.filterMap_congr hsame, List.filterMap_some]

end Groups

end Groups
end PodTraffic
