import Mathlib.Tactic
import PodTraffic.Collections
import PodTraffic.Proofs.Ordered

/-!
# What maps and listings answer

A key of a sorted map is bound at most once, so a map is known by what it answers to each key. Each
operation is described by the answers of its result. A listing whose names differ is known by its
entries: binding a name replaces what it was bound to, so the names keep differing.
-/
namespace PodTraffic

instance : Std.LawfulEqOrd NamePair where
  eq_of_compare := by
    intro a b h
    change compareLex (compareOn NamePair.first) (compareOn NamePair.second) a b = .eq at h
    simp only [Ordered.compareLex_eq_iff, Ordered.compareOn_eq_iff] at h
    cases a
    cases b
    simp_all

namespace SortedMap

variable {κ α β : Type} [Ord κ]

theorem keys_sorted (m : SortedMap κ α) : m.keys.Pairwise fun a b => compare a b = .lt :=
  List.pairwise_map.mpr m.sorted

theorem keys_nodup [Std.LawfulEqOrd κ] (m : SortedMap κ α) : m.keys.Nodup :=
  Ordered.nodup_of_pairwise_lt m.keys_sorted

/-- A key has one value. -/
theorem eq_of_mem_entries [Std.LawfulEqOrd κ] {m : SortedMap κ α} {e f : κ × α}
    (he : e ∈ m.entries) (hf : f ∈ m.entries) (h : e.1 = f.1) : e = f :=
  List.inj_on_of_nodup_map m.keys_nodup he hf h

theorem entries_nodup [Std.LawfulEqOrd κ] (m : SortedMap κ α) : m.entries.Nodup :=
  m.keys_nodup.of_map

theorem keys_eq_of_mem_iff [Std.TransOrd κ] [Std.LawfulEqOrd κ] {m : SortedMap κ α}
    {n : SortedMap κ β} (h : ∀ k, k ∈ m.keys ↔ k ∈ n.keys) : m.keys = n.keys := by
  have hperm : m.keys.Perm n.keys := (List.perm_ext_iff_of_nodup m.keys_nodup n.keys_nodup).mpr h
  exact Ordered.eq_of_perm_of_pairwise_lt hperm m.keys_sorted n.keys_sorted

/-- Traversals are in key order, so the first entry that passes a test has the least key. -/
theorem find?_entries_eq_some_iff [Std.TransOrd κ] [Std.LawfulEqOrd κ] {m : SortedMap κ α}
    {p : κ × α → Bool} {e : κ × α} :
    m.entries.find? p = some e ↔
      e ∈ m.entries ∧ p e = true ∧ ∀ f ∈ m.entries, p f = true → compare f.1 e.1 ≠ .lt := by
  have hleast : ∀ e, m.entries.find? p = some e →
      ∀ f ∈ m.entries, p f = true → compare f.1 e.1 ≠ .lt := by
    intro e he f hf hp hlt
    obtain ⟨-, before, after, hsplit, hbefore⟩ := List.find?_eq_some_iff_append.mp he
    have hsorted := m.sorted
    rw [hsplit] at hf hsorted
    obtain ⟨-, hsorted, -⟩ := List.pairwise_append.mp hsorted
    -- what stands before the entry fails the test, what stands after it has a greater key
    rcases List.mem_append.mp hf with hf | hf
    · simpa [hp] using hbefore f hf
    · rcases List.mem_cons.mp hf with rfl | hf
      · have hself : compare f.1 f.1 = .eq := Std.ReflCmp.compare_self
        rw [hself] at hlt
        cases hlt
      · have hgt := Std.OrientedCmp.gt_of_lt ((List.pairwise_cons.mp hsorted).1 f hf)
        rw [hlt] at hgt
        cases hgt
  constructor
  · exact fun he => ⟨List.mem_of_find?_eq_some he, List.find?_some he, hleast e he⟩
  · rintro ⟨he, hp, hfirst⟩
    obtain ⟨f, hf⟩ := Option.isSome_iff_exists.mp (List.find?_isSome.mpr ⟨e, he, hp⟩)
    have hmem := List.mem_of_find?_eq_some hf
    have hkeys : compare f.1 e.1 = .eq := by
      cases hcompare : compare f.1 e.1 with
      | eq => rfl
      | lt => exact absurd hcompare (hfirst f hmem (List.find?_some hf))
      | gt => exact absurd (Std.OrientedCmp.lt_of_gt hcompare) (hleast f hf e he hp)
    rw [hf, eq_of_mem_entries hmem he (Std.LawfulEqOrd.eq_of_compare hkeys)]

variable [BEq κ] [LawfulBEq κ]

omit [Ord κ] in
theorem lookup_eq_some_iff_mem {l : List (κ × α)} (hne : (l.map (·.1)).Nodup) {k : κ} {x : α} :
    l.lookup k = some x ↔ (k, x) ∈ l := by
  rw [List.lookup_eq_some_iff]
  constructor
  · intro hx
    obtain ⟨before, after, h, -⟩ := hx
    simp [h]
  · intro h
    obtain ⟨before, after, hsplit⟩ := List.append_of_mem h
    refine ⟨before, after, hsplit, fun p hp => ?_⟩
    rw [hsplit, List.map_append, List.nodup_append] at hne
    have := hne.2.2 p.1 (List.mem_map_of_mem hp) k (by simp)
    simpa using this.symm

theorem get?_eq_some_iff [Std.LawfulEqOrd κ] {m : SortedMap κ α} {k : κ} {x : α} :
    m.get? k = some x ↔ (k, x) ∈ m.entries := lookup_eq_some_iff_mem m.keys_nodup

theorem get?_eq_none_iff {m : SortedMap κ α} {k : κ} :
    m.get? k = none ↔ ∀ e ∈ m.entries, e.1 ≠ k := by
  rw [get?, List.lookup_eq_none_iff]
  constructor
  · intro h e he heq
    simpa [heq] using h e he
  · intro h e he
    simpa using (h e he).symm

theorem mem_keys_iff [Std.LawfulEqOrd κ] {m : SortedMap κ α} {k : κ} :
    k ∈ m.keys ↔ ∃ x, m.get? k = some x := by
  simp [keys, get?_eq_some_iff]

theorem mem_values_iff [Std.LawfulEqOrd κ] {m : SortedMap κ α} {x : α} :
    x ∈ m.values ↔ ∃ k, m.get? k = some x := by
  simp [values, get?_eq_some_iff]

/-- Maps that answer alike are equal. -/
theorem ext_get? [Std.TransOrd κ] [Std.LawfulEqOrd κ] {m n : SortedMap κ α}
    (h : ∀ k, m.get? k = n.get? k) : m = n := by
  have hmem : ∀ e, e ∈ m.entries ↔ e ∈ n.entries := by
    intro e
    have := h e.1
    rw [← get?_eq_some_iff (m := m) (x := e.2), ← get?_eq_some_iff (m := n) (x := e.2), this]
  have hperm : m.entries.Perm n.entries := by
    rw [List.perm_ext_iff_of_nodup m.entries_nodup n.entries_nodup]
    exact hmem
  have hentries : m.entries = n.entries :=
    @Ordered.eq_of_perm_of_pairwise_lt _ (compareOn Prod.fst) _ _ _ hperm m.sorted n.sorted
  cases m
  cases n
  simpa using hentries

@[simp] theorem get?_insert [Std.TransOrd κ] [Std.LawfulEqOrd κ] (m : SortedMap κ α) (k : κ)
    (x : α) (j : κ) : (m.insert k x).get? j = if j == k then some x else m.get? j := by
  obtain ⟨entries, sorted⟩ := m
  simp only [get?, insert]
  induction entries with
  | nil => cases hj : j == k <;> simp [insertEntry, List.lookup_cons, hj]
  | cons hd tl ih =>
    obtain ⟨k', x'⟩ := hd
    have ih := ih (List.pairwise_cons.mp sorted).2
    rw [insertEntry]
    split
    · cases hj : j == k <;> simp [List.lookup_cons, hj]
    · next heq =>
      obtain rfl : k = k' := Std.LawfulEqOrd.eq_of_compare heq
      cases hj : j == k <;> simp [List.lookup_cons, hj]
    · next hgt =>
      have hne : k' ≠ k := by
        rintro rfl
        have : compare k' k' = .eq := Std.ReflCmp.compare_self
        rw [this] at hgt
        cases hgt
      rw [List.lookup_cons, List.lookup_cons, ih]
      cases hj : j == k' with
      | false => rfl
      | true =>
        have : j ≠ k := by rwa [eq_of_beq hj]
        simp [this]

theorem get?_alter [Std.TransOrd κ] [Std.LawfulEqOrd κ] (m : SortedMap κ α) (k : κ)
    (f : Option α → α) (j : κ) :
    (m.alter k f).get? j = if j == k then some (f (m.get? k)) else m.get? j :=
  get?_insert m k _ j

omit [LawfulBEq κ] in
@[simp] theorem get?_empty (k : κ) : (empty : SortedMap κ α).get? k = none := rfl

theorem get?_mapWithKey (f : κ → α → β) (m : SortedMap κ α) (k : κ) :
    (m.mapWithKey f).get? k = (m.get? k).map (f k) := by
  obtain ⟨entries, sorted⟩ := m
  simp only [get?, mapWithKey]
  clear sorted
  induction entries with
  | nil => rfl
  | cons hd tl ih =>
    rw [List.map_cons, List.lookup_cons, List.lookup_cons, ih]
    cases h : k == hd.1 with
    | true => simp [eq_of_beq h]
    | false => rfl

theorem get?_adjust (m : SortedMap κ α) (k : κ) (f : α → α) (j : κ) :
    (m.adjust k f).get? j = if j == k then (m.get? j).map f else m.get? j := by
  rw [adjust, get?_mapWithKey]
  cases j == k <;> simp

theorem get?_filter [Std.LawfulEqOrd κ] (p : κ → α → Bool) (m : SortedMap κ α) (k : κ) :
    (m.filter p).get? k = (m.get? k).filter (p k) := by
  ext x
  rw [get?_eq_some_iff, Option.filter_eq_some_iff, get?_eq_some_iff]
  exact List.mem_filter

theorem get?_filter_keys [Std.LawfulEqOrd κ] (p : κ → Bool) (m : SortedMap κ α) (k : κ) :
    (m.filter fun k _ => p k).get? k = if p k then m.get? k else none := by
  rw [get?_filter]
  cases p k <;> cases m.get? k <;> rfl

@[simp] theorem get?_erase [Std.LawfulEqOrd κ] (m : SortedMap κ α) (k j : κ) :
    (m.erase k).get? j = if j == k then none else m.get? j := by
  rw [erase, get?_filter_keys fun k' => !(k' == k)]
  cases j == k <;> rfl

omit [LawfulBEq κ] in
theorem contains_iff {m : SortedMap κ α} {k : κ} :
    m.contains k = true ↔ ∃ x, m.get? k = some x := Option.isSome_iff_exists

theorem contains_iff_mem_keys [Std.LawfulEqOrd κ] {m : SortedMap κ α} {k : κ} :
    m.contains k = true ↔ k ∈ m.keys := by
  rw [contains_iff, mem_keys_iff]

@[simp] theorem contains_insert [Std.TransOrd κ] [Std.LawfulEqOrd κ] (m : SortedMap κ α) (k : κ)
    (x : α) (j : κ) : (m.insert k x).contains j = (j == k || m.contains j) := by
  rw [contains, contains, get?_insert]
  cases j == k <;> simp

@[simp] theorem contains_erase [Std.LawfulEqOrd κ] (m : SortedMap κ α) (k j : κ) :
    (m.erase k).contains j = (j != k && m.contains j) := by
  rw [contains, contains, get?_erase, bne]
  cases j == k <;> simp

theorem contains_filter [Std.LawfulEqOrd κ] (p : κ → α → Bool) (m : SortedMap κ α) (k : κ) :
    (m.filter p).contains k = (m.get? k).any (p k) := by
  rw [contains, get?_filter]
  cases m.get? k with
  | none => rfl
  | some x => cases h : p k x <;> simp [h]

omit [LawfulBEq κ] in
theorem get?_of_contains_eq_false {m : SortedMap κ α} {k : κ} (h : m.contains k = false) :
    m.get? k = none :=
  Option.isNone_iff_eq_none.mp (Option.isSome_eq_false_iff.mp h)

theorem erase_of_absent [Std.TransOrd κ] [Std.LawfulEqOrd κ] {m : SortedMap κ α} {k : κ}
    (h : m.get? k = none) : m.erase k = m := by
  refine ext_get? fun j => ?_
  rw [get?_erase]
  split
  · next hj => rw [eq_of_beq hj, h]
  · rfl

theorem erase_insert_of_absent [Std.TransOrd κ] [Std.LawfulEqOrd κ] {m : SortedMap κ α} {k : κ}
    (h : m.get? k = none) (x : α) : (m.insert k x).erase k = m := by
  refine ext_get? fun j => ?_
  rw [get?_erase, get?_insert]
  split
  · next hj => rw [eq_of_beq hj, h]
  · rfl

/-- Of the entries of a list, the last at each key is kept. -/
theorem get?_ofList [Std.TransOrd κ] [Std.LawfulEqOrd κ] (l : List (κ × α)) (k : κ) :
    (ofList l).get? k = l.reverse.lookup k := by
  rw [ofList]
  induction l using List.reverseRecOn with
  | nil => rfl
  | append_singleton l e ih =>
    rw [List.foldl_append, List.reverse_append]
    simp only [List.foldl_cons, List.foldl_nil, get?_insert, ih]
    rw [List.reverse_singleton, List.singleton_append, List.lookup_cons]
    cases k == e.1 <;> rfl

theorem get?_ofList_eq_some_iff [Std.TransOrd κ] [Std.LawfulEqOrd κ] {l : List (κ × α)}
    (h : (l.map (·.1)).Nodup) {k : κ} {x : α} :
    (ofList l).get? k = some x ↔ (k, x) ∈ l := by
  have hreverse : (l.reverse.map (·.1)).Nodup := by rwa [List.map_reverse, List.nodup_reverse]
  rw [get?_ofList, lookup_eq_some_iff_mem hreverse, List.mem_reverse]

/-- Entries in key order are kept as they are. -/
theorem ofList_eq_of_sorted [Std.TransOrd κ] [Std.LawfulEqOrd κ] {l : List (κ × α)}
    (h : l.Pairwise fun a b => compare a.1 b.1 = .lt) : ofList l = ⟨l, h⟩ := by
  have hkeys : (l.map (·.1)).Nodup := keys_nodup ⟨l, h⟩
  refine ext_get? fun k => Option.ext fun x => ?_
  rw [get?_ofList_eq_some_iff hkeys, get?_eq_some_iff]

/-- A list of keys and what a function makes of them: repeated keys do no harm. -/
theorem get?_ofList_graph [Std.TransOrd κ] [Std.LawfulEqOrd κ] (f : κ → α) (ks : List κ) {k : κ}
    {x : α} : (ofList (ks.map fun k => (k, f k))).get? k = some x ↔ k ∈ ks ∧ x = f k := by
  rw [get?_ofList, ← List.map_reverse]
  by_cases hk : k ∈ ks
  · rw [List.lookup_graph f (List.mem_reverse.mpr hk), Option.some_inj]
    exact ⟨fun heq => ⟨hk, heq.symm⟩, fun h => h.2.symm⟩
  · have hnone : (ks.reverse.map fun k => (k, f k)).lookup k = none := by
      rw [List.lookup_eq_none_iff]
      intro e he
      obtain ⟨k', hk', rfl⟩ := List.mem_map.mp he
      simp only [bne_iff_ne]
      rintro rfl
      exact hk (List.mem_reverse.mp hk')
    rw [hnone]
    exact ⟨nofun, fun h => absurd h.1 hk⟩

def Related (R : α → β → Prop) (m : SortedMap κ α) (n : SortedMap κ β) : Prop :=
  List.Forall₂ (fun a b => a.1 = b.1 ∧ R a.2 b.2) m.entries n.entries

namespace Related

variable {R : α → β → Prop} {m : SortedMap κ α} {n : SortedMap κ β}

omit [BEq κ] [LawfulBEq κ] in
theorem keys_eq (h : Related R m n) : m.keys = n.keys := by
  unfold Related at h
  unfold keys
  generalize m.entries = xs, n.entries = ys at h ⊢
  induction h with
  | nil => rfl
  | cons hd _ ih => rw [List.map_cons, List.map_cons, hd.1, ih]

omit [BEq κ] [LawfulBEq κ] in
theorem values (h : Related R m n) : List.Forall₂ R m.values n.values := by
  unfold Related at h
  unfold SortedMap.values
  generalize m.entries = xs, n.entries = ys at h ⊢
  induction h with
  | nil => exact .nil
  | cons hd _ ih => exact .cons hd.2 ih

omit [LawfulBEq κ] in
theorem get? (h : Related R m n) (k : κ) : Option.Rel R (m.get? k) (n.get? k) := by
  unfold Related at h
  unfold SortedMap.get?
  generalize m.entries = xs, n.entries = ys at h ⊢
  induction h with
  | nil => exact .none
  | @cons a b _ _ hd _ ih =>
    rw [List.lookup_cons, List.lookup_cons, hd.1]
    cases k == b.1 with
    | true => exact .some hd.2
    | false => exact ih

omit [BEq κ] [LawfulBEq κ] in
theorem insert [Std.TransOrd κ] (h : Related R m n) (k : κ) {x : α} {y : β} (hxy : R x y) :
    Related R (m.insert k x) (n.insert k y) := by
  unfold Related at h
  change List.Forall₂ _ (insertEntry k x m.entries) (insertEntry k y n.entries)
  generalize m.entries = xs, n.entries = ys at h ⊢
  induction h with
  | nil => exact .cons ⟨rfl, hxy⟩ .nil
  | @cons a b _ _ hd htl ih =>
    obtain ⟨k', a⟩ := a
    obtain ⟨k'', b⟩ := b
    obtain ⟨hkey, hab⟩ := hd
    obtain rfl : k' = k'' := hkey
    simp only [insertEntry]
    cases compare k k' with
    | lt => exact .cons ⟨rfl, hxy⟩ (.cons ⟨rfl, hab⟩ htl)
    | eq => exact .cons ⟨rfl, hxy⟩ htl
    | gt => exact .cons ⟨rfl, hab⟩ ih

omit [LawfulBEq κ] in
theorem alter [Std.TransOrd κ] (h : Related R m n) (k : κ) {f : Option α → α}
    {g : Option β → β} (hfg : ∀ x y, Option.Rel R x y → R (f x) (g y)) :
    Related R (m.alter k f) (n.alter k g) :=
  h.insert k (hfg _ _ (h.get? k))

omit [BEq κ] [LawfulBEq κ] in
theorem map_left (h : Related R m n) {f : α → α} (hf : ∀ x y, R x y → R (f x) y) :
    Related R (m.map f) n := by
  unfold Related at h ⊢
  change List.Forall₂ _ (m.entries.map fun e => (e.1, f e.2)) _
  rw [List.forall₂_map_left_iff]
  exact h.imp fun _ _ hab => ⟨hab.1, hf _ _ hab.2⟩

omit [BEq κ] [LawfulBEq κ] in
theorem refl {S : α → α → Prop} {m : SortedMap κ α} (h : ∀ x ∈ m.values, S x x) :
    Related S m m := by
  unfold Related
  rw [List.forall₂_same]
  intro e he
  exact ⟨rfl, h e.2 (List.mem_map_of_mem he)⟩

end Related

end SortedMap

namespace Listing

variable {α : Type}

def names (l : Listing α) : List String := l.map (·.1)

theorem contains_iff {l : Listing α} {name : String} :
    l.contains name = true ↔ ∃ x, (name, x) ∈ l := by
  simp [contains]

theorem mem_put {l : Listing α} {name : String} {v : α} {e : String × α} :
    e ∈ l.put name v ↔ e = (name, v) ∨ e.1 ≠ name ∧ e ∈ l := by
  unfold put
  split
  · next hbound =>
    obtain ⟨x, hx⟩ := contains_iff.mp hbound
    rw [List.mem_map]
    constructor
    · rintro ⟨entry, hentry, rfl⟩
      by_cases hname : entry.1 = name
      · simp [hname]
      · simp [hname, hentry]
    · rintro (rfl | ⟨hname, he⟩)
      · exact ⟨(name, x), hx, by simp⟩
      · exact ⟨e, he, by simp [hname]⟩
  · next hbound =>
    have hne : e ∈ l → e.1 ≠ name := by
      rintro he rfl
      exact hbound (contains_iff.mpr ⟨e.2, he⟩)
    rw [List.mem_append, List.mem_singleton]
    tauto

theorem contains_put (l : Listing α) (name : String) (v : α) (other : String) :
    (l.put name v).contains other = (other == name || l.contains other) := by
  rw [Bool.eq_iff_iff, Bool.or_eq_true, beq_iff_eq, contains_iff, contains_iff]
  simp only [mem_put, Prod.mk.injEq, exists_or, exists_and_left, exists_eq, and_true]
  tauto

theorem names_put (l : Listing α) (name : String) (v : α) :
    (l.put name v).names = if l.contains name then l.names else l.names ++ [name] := by
  unfold put names
  split
  · rw [List.map_map]
    refine List.map_congr_left fun e _ => ?_
    by_cases h : e.1 = name <;> simp [h]
  · rw [List.map_append, List.map_singleton]

theorem nodup_names_put {l : Listing α} (h : l.names.Nodup) (name : String) (v : α) :
    (l.put name v).names.Nodup := by
  rw [names_put]
  split
  · exact h
  · next hbound =>
    have hne : name ∉ l.names := by
      intro hmem
      obtain ⟨e, he, rfl⟩ := List.mem_map.mp hmem
      exact hbound (contains_iff.mpr ⟨e.2, he⟩)
    rw [← List.concat_eq_append]
    exact h.concat hne

theorem mem_erase {l : Listing α} {name : String} {e : String × α} :
    e ∈ Listing.erase l name ↔ e.1 ≠ name ∧ e ∈ l := by
  rw [Listing.erase, List.mem_filter, bne_iff_ne, and_comm]

theorem nodup_names_filter {l : Listing α} (h : l.names.Nodup) (p : String × α → Bool) :
    Listing.names (l.filter p) |>.Nodup :=
  h.sublist (List.filter_sublist.map _)

/-- Entries whose names differ are listed as they come. -/
theorem ofList_eq_self {l : List (String × α)} (h : (l.map (·.1)).Nodup) : ofList l = l := by
  rw [ofList]
  induction l using List.reverseRecOn with
  | nil => rfl
  | append_singleton l e ih =>
    rw [List.map_append, List.map_singleton, ← List.concat_eq_append, List.nodup_concat] at h
    have hnew : ¬ Listing.contains l e.1 = true := by
      intro hbound
      obtain ⟨x, hx⟩ := contains_iff.mp hbound
      exact h.1 (List.mem_map.mpr ⟨_, hx, rfl⟩)
    rw [List.foldl_append, ih h.2, List.foldl_cons, List.foldl_nil, put, if_neg hnew]

end Listing
end PodTraffic
