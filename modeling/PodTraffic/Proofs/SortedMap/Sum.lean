import PodTraffic.Proofs.SortedMap

/-!
# Sums of sorted maps

Maps are added key by key. A key that only one of both binds keeps its value, so a missing key
stands for zero, and the values of a sum are those of both maps together.
-/
namespace PodTraffic.SortedMap

variable {κ α : Type} [Ord κ] [BEq κ] [LawfulBEq κ] [Std.TransOrd κ] [Std.LawfulEqOrd κ]

theorem get?_foldl_alter (f : α → α → α) {l : List (κ × α)} (h : (l.map (·.1)).Nodup)
    (m : SortedMap κ α) (k : κ) :
    (l.foldl (fun m e => m.alter e.1 fun present => (present.map (f · e.2)).getD e.2) m).get? k =
      Option.merge f (m.get? k) (l.lookup k) := by
  induction l generalizing m with
  | nil =>
    rw [List.foldl_nil, List.lookup_nil]
    cases m.get? k <;> rfl
  | cons e rest ih =>
    rw [List.map_cons, List.nodup_cons] at h
    rw [List.foldl_cons, ih h.2, get?_alter, List.lookup_cons]
    cases hk : k == e.1 with
    | false => rfl
    | true =>
      obtain rfl := eq_of_beq hk
      have hlater : rest.lookup e.1 = none := by
        rw [List.lookup_eq_none_iff]
        intro e' he'
        have hne : e.1 ≠ e'.1 := fun heq => h.1 (heq ▸ List.mem_map_of_mem he')
        simpa using hne
      rw [hlater]
      cases m.get? e.1 <;> rfl

theorem get?_unionWith (f : α → α → α) (m n : SortedMap κ α) (k : κ) :
    (m.unionWith f n).get? k = Option.merge f (m.get? k) (n.get? k) :=
  get?_foldl_alter f n.keys_nodup m k

/-- Entries whose keys differ are kept, in key order. -/
theorem entries_ofList_perm {l : List (κ × α)} (h : (l.map (·.1)).Nodup) :
    (ofList l).entries.Perm l := by
  rw [List.perm_ext_iff_of_nodup (entries_nodup _) h.of_map]
  intro e
  rw [← get?_ofList_eq_some_iff h, get?_eq_some_iff]

omit [Std.TransOrd κ] in
theorem beq_eq_false_of_compare {k k' : κ} (h : compare k k' ≠ .eq) : (k == k') = false := by
  rw [beq_eq_false_iff_ne]
  rintro rfl
  exact h Std.ReflCmp.compare_self

variable [AddCommMonoid α]

instance : Zero (SortedMap κ α) := ⟨.empty⟩

instance : Add (SortedMap κ α) := ⟨unionWith (· + ·)⟩

theorem get?_add (m n : SortedMap κ α) (k : κ) :
    (m + n).get? k = Option.merge (· + ·) (m.get? k) (n.get? k) := get?_unionWith _ m n k

instance : AddCommMonoid (SortedMap κ α) where
  add_assoc a b c := by
    refine ext_get? fun k => ?_
    simp only [get?_add]
    cases a.get? k <;> cases b.get? k <;> cases c.get? k <;> simp [Option.merge, add_assoc]
  zero_add a := by
    refine ext_get? fun k => ?_
    rw [get?_add]
    cases a.get? k <;> rfl
  add_zero _ := rfl
  add_comm a b := by
    refine ext_get? fun k => ?_
    simp only [get?_add]
    cases a.get? k <;> cases b.get? k <;> simp [Option.merge, add_comm]
  nsmul := nsmulRec

/-- Nothing is bound to zero. -/
def valueOf (m : SortedMap κ α) (k : κ) : α := (m.get? k).getD 0

theorem valueOf_add (m n : SortedMap κ α) (k : κ) :
    (m + n).valueOf k = m.valueOf k + n.valueOf k := by
  rw [valueOf, get?_add, valueOf, valueOf]
  cases m.get? k <;> cases n.get? k <;> simp [Option.merge]

theorem valueOf_ofList_const (ks : List κ) (x : α) (k : κ) :
    (ofList (ks.map fun j => (j, x))).valueOf k = if k ∈ ks then x else 0 := by
  rw [valueOf]
  split
  · next hk => rw [(get?_ofList_graph (fun _ => x) ks).mpr ⟨hk, rfl⟩, Option.getD_some]
  · next hk =>
    cases hvalue : (ofList (ks.map fun j => (j, x))).get? k with
    | none => rfl
    | some y => exact absurd ((get?_ofList_graph (fun _ => x) ks).mp hvalue).1 hk

/-- A value that is raised by an amount raises the sum of the values by it. -/
theorem sum_insertEntry {l : List (κ × α)} (h : l.Pairwise fun a b => compare a.1 b.1 = .lt)
    (k : κ) (x : α) : ((insertEntry k ((l.lookup k).getD 0 + x) l).map (·.2)).sum =
      (l.map (·.2)).sum + x := by
  induction l with
  | nil => simp [insertEntry]
  | cons e rest ih =>
    obtain ⟨k', x'⟩ := e
    obtain ⟨hfirst, hrest⟩ := List.pairwise_cons.mp h
    rw [insertEntry]
    cases hk : compare k k' with
    | lt =>
      have hnew : ((k', x') :: rest).lookup k = none := by
        rw [List.lookup_eq_none_iff]
        intro e he
        have hbefore : compare k e.1 = .lt := by
          rcases List.mem_cons.mp he with rfl | he
          · exact hk
          · exact Std.TransCmp.lt_trans hk (hfirst e he)
        simp [bne, beq_eq_false_of_compare (show compare k e.1 ≠ .eq by simp [hbefore])]
      simp [hnew, add_comm]
    | eq =>
      obtain rfl := Std.LawfulEqOrd.eq_of_compare hk
      simp [add_right_comm]
    | gt =>
      have hne : (k == k') = false := beq_eq_false_of_compare (by simp [hk])
      simp [List.lookup_cons, hne, ih hrest, add_assoc]

theorem sum_values_alter (m : SortedMap κ α) (k : κ) (x : α) {f : Option α → α}
    (hf : ∀ present, f present = present.getD 0 + x) :
    (m.alter k f).values.sum = m.values.sum + x := by
  rw [alter, hf]
  exact sum_insertEntry m.sorted k x

omit [BEq κ] [LawfulBEq κ] [Std.TransOrd κ] [Std.LawfulEqOrd κ] in
/-- Steps that each raise the sum of the values by an amount. -/
theorem sum_values_foldl {β : Type} {step : SortedMap κ α → β → SortedMap κ α} {x : β → α}
    {l : List β} (h : ∀ b ∈ l, ∀ m, (step m b).values.sum = m.values.sum + x b)
    (m : SortedMap κ α) : (l.foldl step m).values.sum = m.values.sum + (l.map x).sum := by
  induction l generalizing m with
  | nil => simp
  | cons b rest ih =>
    obtain ⟨hfirst, hrest⟩ := List.forall_mem_cons.mp h
    rw [List.foldl_cons, ih hrest, hfirst, List.map_cons, List.sum_cons, add_assoc]

theorem sum_values_add (m n : SortedMap κ α) :
    (m + n).values.sum = m.values.sum + n.values.sum := by
  have hraise : ∀ (x : α) (present : Option α),
      (present.map (· + x)).getD x = present.getD 0 + x := by
    intro x present
    cases present <;> simp
  exact sum_values_foldl (fun e _ m => sum_values_alter m e.1 e.2 (hraise e.2)) m

/-- The sum of all values adds up along maps. -/
def valuesHom : SortedMap κ α →+ α where
  toFun m := m.values.sum
  map_zero' := rfl
  map_add' := sum_values_add

end PodTraffic.SortedMap
