import Mathlib.Tactic
import PodTraffic.Collections

/-!
# Sorting keeps the elements

An order that is compared field by field calls values equal when the fields are.
-/
namespace PodTraffic.Ordered

variable {α : Type}

theorem insertBy_perm (cmp : α → α → Ordering) (a : α) (l : List α) :
    (insertBy cmp a l).Perm (a :: l) := by
  induction l with
  | nil => exact List.Perm.refl _
  | cons b bs ih =>
    rw [insertBy]
    split
    · exact (ih.cons b).trans (List.Perm.swap a b bs)
    · exact List.Perm.refl _

theorem sortBy_perm (cmp : α → α → Ordering) (l : List α) : (sortBy cmp l).Perm l := by
  induction l with
  | nil => exact List.Perm.refl _
  | cons a l ih => exact (insertBy_perm cmp a _).trans (ih.cons a)

theorem sort_perm [Ord α] (l : List α) : (sort l).Perm l := sortBy_perm compare l

section Pairwise

variable {cmp : α → α → Ordering} [Std.TransCmp cmp]

theorem pairwise_insertBy {a : α} {l : List α} (hl : l.Pairwise fun x y => cmp x y = .lt)
    (ha : ∀ b ∈ l, cmp a b ≠ .eq) : (insertBy cmp a l).Pairwise fun x y => cmp x y = .lt := by
  induction l with
  | nil => simp [insertBy]
  | cons b bs ih =>
    obtain ⟨hfirst, hrest⟩ := List.pairwise_cons.mp hl
    have hb := ha b List.mem_cons_self
    rw [insertBy]
    split
    · next hgt =>
      refine List.pairwise_cons.mpr ⟨fun x hx => ?_, ih hrest fun c hc => ha c (by simp [hc])⟩
      rcases List.mem_cons.mp ((insertBy_perm cmp a bs).mem_iff.mp hx) with rfl | hx
      · exact Std.OrientedCmp.lt_of_gt hgt
      · exact hfirst x hx
    · next hgt =>
      have hlt : cmp a b = .lt := by
        cases h : cmp a b with
        | lt => rfl
        | eq => exact absurd h hb
        | gt => exact absurd h hgt
      refine List.pairwise_cons.mpr ⟨fun x hx => ?_, hl⟩
      rcases List.mem_cons.mp hx with rfl | hx
      · exact hlt
      · exact Std.TransCmp.lt_trans hlt (hfirst x hx)

/-- Elements that the order tells apart are sorted strictly. -/
theorem pairwise_sortBy {l : List α} (h : l.Pairwise fun x y => cmp x y ≠ .eq) :
    (sortBy cmp l).Pairwise fun x y => cmp x y = .lt := by
  induction l with
  | nil => exact .nil
  | cons a l ih =>
    obtain ⟨hfirst, hrest⟩ := List.pairwise_cons.mp h
    exact pairwise_insertBy (ih hrest) fun b hb =>
      hfirst b ((sortBy_perm cmp l).mem_iff.mp hb)

theorem pairwise_isLE_insertBy {a : α} {l : List α} (hl : l.Pairwise fun x y => (cmp x y).isLE) :
    (insertBy cmp a l).Pairwise fun x y => (cmp x y).isLE := by
  induction l with
  | nil => simp [insertBy]
  | cons b bs ih =>
    obtain ⟨hfirst, hrest⟩ := List.pairwise_cons.mp hl
    rw [insertBy]
    split
    · next hgt =>
      have hba : (cmp b a).isLE := by simp [Std.OrientedCmp.lt_of_gt hgt]
      refine List.pairwise_cons.mpr ⟨fun x hx => ?_, ih hrest⟩
      rcases List.mem_cons.mp ((insertBy_perm cmp a bs).mem_iff.mp hx) with rfl | hx
      · exact hba
      · exact hfirst x hx
    · next hgt =>
      have hab : (cmp a b).isLE := Ordering.isLE_iff_ne_gt.mpr hgt
      refine List.pairwise_cons.mpr ⟨fun x hx => ?_, hl⟩
      rcases List.mem_cons.mp hx with rfl | hx
      · exact hab
      · exact Std.TransCmp.isLE_trans hab (hfirst x hx)

theorem pairwise_isLE_sortBy (l : List α) : (sortBy cmp l).Pairwise fun x y => (cmp x y).isLE := by
  induction l with
  | nil => exact .nil
  | cons a l ih => exact pairwise_isLE_insertBy ih

end Pairwise

/-- The order in which the elements come does not matter. -/
theorem sort_congr [Ord α] [Std.TransOrd α] [Std.LawfulEqOrd α] {l l' : List α}
    (h : l.Perm l') : sort l = sort l' := by
  have hperm : (sort l).Perm (sort l') := (sort_perm l).trans (h.trans (sort_perm l').symm)
  refine hperm.eq_of_pairwise ?_ (pairwise_isLE_sortBy l) (pairwise_isLE_sortBy l')
  intro a b _ _ hab hba
  exact Std.LawfulEqOrd.eq_of_compare (Std.OrientedCmp.isLE_antisymm hab hba)

section Strict

variable {cmp : α → α → Ordering}

/-- What is sorted strictly repeats nothing. -/
theorem nodup_of_pairwise_lt [Std.ReflCmp cmp] {l : List α}
    (h : l.Pairwise fun x y => cmp x y = .lt) : l.Nodup := by
  refine h.imp ?_
  rintro a b hlt rfl
  have hself : cmp a a = .eq := Std.ReflCmp.compare_self
  rw [hself] at hlt
  cases hlt

/-- There is one strict order of given elements. -/
theorem eq_of_perm_of_pairwise_lt [Std.OrientedCmp cmp] {l l' : List α} (hperm : l.Perm l')
    (h : l.Pairwise fun x y => cmp x y = .lt) (h' : l'.Pairwise fun x y => cmp x y = .lt) :
    l = l' := by
  refine hperm.eq_of_pairwise ?_ h h'
  intro a b _ _ hab hba
  rw [Std.OrientedCmp.gt_of_lt hba] at hab
  cases hab

end Strict

section Distinct

variable [Ord α] [Std.TransOrd α] [Std.LawfulEqOrd α]

theorem pairwise_insertNew {a : α} {l : List α} (hl : l.Pairwise fun x y => compare x y = .lt) :
    (insertNew a l).Pairwise fun x y => compare x y = .lt := by
  induction l with
  | nil => simp [insertNew]
  | cons b bs ih =>
    obtain ⟨hfirst, hrest⟩ := List.pairwise_cons.mp hl
    rw [insertNew]
    split
    · next hlt =>
      refine List.pairwise_cons.mpr ⟨fun x hx => ?_, hl⟩
      rcases List.mem_cons.mp hx with rfl | hx
      · exact hlt
      · exact Std.TransCmp.lt_trans hlt (hfirst x hx)
    · exact hl
    · next hgt =>
      refine List.pairwise_cons.mpr ⟨fun x hx => ?_, ih hrest⟩
      rcases mem_insertNew.mp hx with rfl | hx
      · exact Std.OrientedCmp.lt_of_gt hgt
      · exact hfirst x hx

theorem pairwise_distinct (l : List α) :
    (distinct l).Pairwise fun x y => compare x y = .lt := by
  induction l with
  | nil => exact .nil
  | cons a l ih => exact pairwise_insertNew ih

theorem nodup_distinct (l : List α) : (distinct l).Nodup :=
  nodup_of_pairwise_lt (pairwise_distinct l)

/-- Where nothing is repeated, nothing is left out. -/
theorem distinct_perm {l : List α} (h : l.Nodup) : (distinct l).Perm l :=
  (List.perm_ext_iff_of_nodup (nodup_distinct l) h).mpr fun _ => mem_distinct

/-- Given the elements, the strict order of them is found. -/
theorem distinct_eq_of_pairwise {l l' : List α} (h : l'.Pairwise fun x y => compare x y = .lt)
    (hmem : ∀ x, x ∈ l ↔ x ∈ l') : distinct l = l' := by
  have hperm : (distinct l).Perm l' :=
    (List.perm_ext_iff_of_nodup (nodup_distinct l) (nodup_of_pairwise_lt h)).mpr fun x =>
      mem_distinct.trans (hmem x)
  exact eq_of_perm_of_pairwise_lt hperm (pairwise_distinct l) h

/-- Neither order nor repetition of the elements matters. -/
theorem distinct_congr {l l' : List α} (h : ∀ x, x ∈ l ↔ x ∈ l') : distinct l = distinct l' :=
  distinct_eq_of_pairwise (pairwise_distinct l') fun x => (h x).trans mem_distinct.symm

end Distinct

theorem distinct_eq_nil_iff [Ord α] [Std.LawfulEqOrd α] {l : List α} :
    distinct l = [] ↔ l = [] := by
  simp only [List.eq_nil_iff_forall_not_mem, mem_distinct]

theorem compareOn_eq_iff {β : Type} [Ord β] [Std.LawfulEqOrd β] {f : α → β} {a b : α} :
    compareOn f a b = .eq ↔ f a = f b := by
  rw [compareOn, Std.LawfulEqOrd.compare_eq_iff_eq]

theorem compareLex_eq_iff {first second : α → α → Ordering} {a b : α} :
    compareLex first second a b = .eq ↔ first a b = .eq ∧ second a b = .eq := by
  rw [compareLex, Ordering.then_eq_eq]

theorem compareOn_eq_lt_iff {β : Type} [LinearOrder β] {f : α → β} {a b : α} :
    compareOn f a b = .lt ↔ f a < f b := by
  rw [compareOn, compare_lt_iff_lt]

theorem compareLex_eq_lt_iff {first second : α → α → Ordering} {a b : α} :
    compareLex first second a b = .lt ↔
      first a b = .lt ∨ first a b = .eq ∧ second a b = .lt := by
  rw [compareLex, Ordering.then_eq_lt]

end PodTraffic.Ordered
