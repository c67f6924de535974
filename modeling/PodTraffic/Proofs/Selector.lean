import PodTraffic.Manifest
import PodTraffic.Proofs.SortedMap

/-!
# Selectors and their normal forms

A selector asks for its own labels and for each of its requirements. A requirement looks at the
values it lists only through membership, and a selector at its requirements only as a set, so a
selector and its normal form match the same labels. Selectors have one normal form exactly when they
differ in nothing but the order of requirements, the order and repetition of values, and absent
against empty parts.
-/
namespace PodTraffic

/-- What a requirement asks of labels: that its key has one of the values, that its key is there
with none of them, that it is there, or that it is not. An operator of another name asks for what
no labels have. -/
inductive Requirement.Met (r : Requirement) (labels : Labels) : Prop
  | isIn {value : String} (hoperator : r.operator = "In")
    (hkey : labels.get? r.key = some value) (hvalue : value ∈ r.valueList)
  | notIn {value : String} (hoperator : r.operator = "NotIn")
    (hkey : labels.get? r.key = some value) (hvalue : value ∉ r.valueList)
  | present {value : String} (hoperator : r.operator = "Exists")
    (hkey : labels.get? r.key = some value)
  | absent (hoperator : r.operator = "DoesNotExist") (hkey : labels.get? r.key = none)

/-- The labels have those of the selector among them and meet its requirements. -/
structure LabelSelector.Matches (s : LabelSelector) (labels : Labels) : Prop where
  values : ∀ key value, s.labels.get? key = some value → labels.get? key = some value
  requirements : ∀ r ∈ s.expressions, r.Met labels

theorem Operator.ofName_eq_iff (name : String) :
    (ofName name = .isIn ↔ name = "In") ∧ (ofName name = .notIn ↔ name = "NotIn") ∧
      (ofName name = .present ↔ name = "Exists") ∧
        (ofName name = .absent ↔ name = "DoesNotExist") := by
  simp only [ofName, beq_iff_eq]
  grind

namespace Requirement

theorem holds_iff {r : Requirement} {labels : Labels} : r.holds labels = true ↔ r.Met labels := by
  obtain ⟨hisIn, hnotIn, hpresent, habsent⟩ := Operator.ofName_eq_iff r.operator
  constructor
  · intro h
    cases hop : Operator.ofName r.operator <;> cases hkey : labels.get? r.key <;>
      simp only [holds, hop, hkey, Bool.false_eq_true] at h
    · exact .isIn (hisIn.mp hop) hkey (by simpa using h)
    · exact .notIn (hnotIn.mp hop) hkey (by simpa using h)
    · exact .present (hpresent.mp hop) hkey
    · exact .absent (habsent.mp hop) hkey
  · intro h
    cases h with
    | isIn hop hkey hvalue => simpa [holds, hisIn.mpr hop, hkey] using hvalue
    | notIn hop hkey hvalue => simpa [holds, hnotIn.mpr hop, hkey] using hvalue
    | present hop hkey => simp [holds, hpresent.mpr hop, hkey]
    | absent hop hkey => simp [holds, habsent.mpr hop, hkey]

theorem valueList_normalize (r : Requirement) :
    r.normalize.valueList = Ordered.distinct r.valueList := by
  by_cases h : Ordered.distinct r.valueList = [] <;> simp [normalize, valueList] at h ⊢ <;> simp [h]

theorem contains_valueList_normalize (r : Requirement) (value : String) :
    r.normalize.valueList.contains value = r.valueList.contains value := by
  rw [valueList_normalize, Bool.eq_iff_iff]
  simp [Ordered.mem_distinct]

theorem holds_normalize (r : Requirement) (labels : Labels) :
    r.normalize.holds labels = r.holds labels := by
  simp only [holds, contains_valueList_normalize]
  rfl

/-- The same key and operator, and the same values in any order and number. -/
structure Alike (r r' : Requirement) : Prop where
  key : r.key = r'.key
  operator : r.operator = r'.operator
  values : ∀ v, v ∈ r.valueList ↔ v ∈ r'.valueList

theorem normalize_eq_iff {r r' : Requirement} : r.normalize = r'.normalize ↔ r.Alike r' := by
  constructor
  · intro h
    have hvalues : Ordered.distinct r.valueList = Ordered.distinct r'.valueList := by
      rw [← valueList_normalize, h, valueList_normalize]
    have hkey : r.normalize.key = r'.normalize.key := by rw [h]
    have hoperator : r.normalize.operator = r'.normalize.operator := by rw [h]
    refine ⟨hkey, hoperator, fun v => ?_⟩
    rw [← Ordered.mem_distinct, hvalues, Ordered.mem_distinct]
  · intro h
    have hvalues := Ordered.distinct_congr h.values
    simp only [normalize, h.key, h.operator, hvalues]

theorem normalize_normalize (r : Requirement) : r.normalize.normalize = r.normalize := by
  refine normalize_eq_iff.mpr ⟨rfl, rfl, fun v => ?_⟩
  rw [valueList_normalize, Ordered.mem_distinct]

/-- By key, operator and values, so that only equal requirements compare as equal. -/
instance : Std.LawfulEqOrd Requirement where
  eq_of_compare := by
    intro r r' h
    change compareLex (compareOn (·.key))
      (compareLex (compareOn (·.operator)) (compareOn (·.values))) r r' = .eq at h
    simp only [Ordered.compareLex_eq_iff, Ordered.compareOn_eq_iff] at h
    cases r
    cases r'
    simp_all

end Requirement

namespace LabelSelector

theorem isMatch_iff {s : LabelSelector} {labels : Labels} :
    s.isMatch labels = true ↔ s.Matches labels := by
  simp only [isMatch, Bool.and_eq_true, List.all_eq_true, beq_iff_eq, Requirement.holds_iff]
  constructor
  · intro h
    exact ⟨fun key value hvalue => h.1 (key, value) (SortedMap.get?_eq_some_iff.mp hvalue), h.2⟩
  · intro h
    exact ⟨fun e he => h.values e.1 e.2 (SortedMap.get?_eq_some_iff.mpr he), h.requirements⟩

theorem labels_normalize (s : LabelSelector) : s.normalize.labels = s.labels := by
  obtain ⟨_ | ⟨_ | ⟨e, es⟩, h⟩, _⟩ := s <;> rfl

theorem entries_labels_normalize (s : LabelSelector) :
    s.normalize.labels.entries = s.labels.entries := by
  rw [labels_normalize]

theorem expressions_normalize (s : LabelSelector) :
    s.normalize.expressions = Ordered.sort (s.expressions.map (·.normalize)) := by
  obtain ⟨_, _ | es⟩ := s
  · rfl
  · by_cases h : Ordered.sort (es.map (·.normalize)) = [] <;>
      simp [normalize, expressions, h, Option.filter]

theorem isMatch_normalize (s : LabelSelector) (labels : Labels) :
    s.normalize.isMatch labels = s.isMatch labels := by
  have hexpr : s.normalize.expressions.all (·.holds labels) =
      s.expressions.all (·.holds labels) := by
    rw [expressions_normalize, (Ordered.sort_perm _).all_eq, List.all_map]
    simp only [Function.comp_def, Requirement.holds_normalize]
  rw [isMatch, isMatch, entries_labels_normalize, hexpr]

theorem isEmpty_normalize (s : LabelSelector) : s.normalize.isEmpty = s.isEmpty := by
  have hexpr : s.normalize.expressions.length = s.expressions.length := by
    rw [expressions_normalize, (Ordered.sort_perm _).length_eq, List.length_map]
  have hempty : s.normalize.expressions.isEmpty = s.expressions.isEmpty := by
    rw [Bool.eq_iff_iff, List.isEmpty_iff_length_eq_zero, List.isEmpty_iff_length_eq_zero, hexpr]
  rw [isEmpty, isEmpty, labels_normalize, hempty]

/-- A normal form is told by its labels and its requirements. -/
theorem normalize_eq_of_parts {s t : LabelSelector} (hlabels : s.labels = t.labels)
    (hexpr : Ordered.sort (s.expressions.map (·.normalize)) =
      Ordered.sort (t.expressions.map (·.normalize))) : s.normalize = t.normalize := by
  have hparts : ∀ u : LabelSelector, u.normalize =
      ⟨(some u.labels).filter (!·.isEmpty),
        (some (Ordered.sort (u.expressions.map (·.normalize)))).filter (!·.isEmpty)⟩ := by
    intro u
    obtain ⟨_ | m, _ | es⟩ := u <;> rfl
  rw [hparts, hparts, hlabels, hexpr]

/-- The same labels and, in some order, alike requirements. -/
structure Alike (s t : LabelSelector) : Prop where
  labels : s.labels = t.labels
  expressions : ∃ es, s.expressions.Perm es ∧ List.Forall₂ Requirement.Alike es t.expressions

theorem sort_normalize_eq_iff {es es' : List Requirement} :
    Ordered.sort (es.map (·.normalize)) = Ordered.sort (es'.map (·.normalize)) ↔
      ∃ u, es.Perm u ∧ List.Forall₂ Requirement.Alike u es' := by
  constructor
  · intro h
    have hperm : (es'.map (·.normalize)).Perm (es.map (·.normalize)) := by
      have hsorted := Ordered.sort_perm (es'.map (·.normalize))
      rw [← h] at hsorted
      exact hsorted.symm.trans (Ordered.sort_perm _)
    have hself : List.Forall₂ (fun (r : Requirement) r' => r = r'.normalize)
        (es.map (·.normalize)) es := by
      rw [List.forall₂_map_left_iff, List.forall₂_same]
      exact fun _ _ => rfl
    obtain ⟨u, hu, huperm⟩ := List.perm_comp_forall₂ hperm hself
    rw [List.forall₂_map_left_iff] at hu
    refine ⟨u, huperm.symm, hu.flip.imp fun r r' hr => ?_⟩
    exact Requirement.normalize_eq_iff.mp hr.symm
  · intro h
    obtain ⟨u, hperm, halike⟩ := h
    have hmap : u.map (·.normalize) = es'.map (·.normalize) := by
      rw [← List.forall₂_eq_eq_eq, List.forall₂_map_left_iff, List.forall₂_map_right_iff]
      exact halike.imp fun _ _ => Requirement.normalize_eq_iff.mpr
    rw [← hmap]
    exact Ordered.sort_congr (hperm.map _)

theorem normalize_eq_iff {s t : LabelSelector} : s.normalize = t.normalize ↔ s.Alike t := by
  constructor
  · intro h
    refine ⟨?_, sort_normalize_eq_iff.mp ?_⟩
    · rw [← labels_normalize, h, labels_normalize]
    · rw [← expressions_normalize, h, expressions_normalize]
  · intro h
    exact normalize_eq_of_parts h.labels (sort_normalize_eq_iff.mpr h.expressions)

/-- A normal form differs from its selector in nothing that matters. -/
theorem alike_normalize (s : LabelSelector) : s.normalize.Alike s := by
  refine ⟨s.labels_normalize, s.expressions.map (·.normalize), ?_, ?_⟩
  · rw [expressions_normalize]
    exact Ordered.sort_perm _
  · rw [List.forall₂_map_left_iff, List.forall₂_same]
    exact fun r _ => Requirement.normalize_eq_iff.mp r.normalize_normalize

/-- Normal forms match what their selectors match, are their own normal forms, and are empty with
their selectors. They are equal just for selectors that are alike, which therefore have one key. -/
theorem normalize_forgets_order (s t : LabelSelector) :
    (∀ labels, s.normalize.isMatch labels = s.isMatch labels) ∧
      s.normalize.normalize = s.normalize ∧ s.normalize.isEmpty = s.isEmpty ∧
      (s.normalize = t.normalize ↔ s.Alike t) ∧ (s.Alike t → s.key = t.key) := by
  refine ⟨s.isMatch_normalize, normalize_eq_iff.mpr s.alike_normalize, s.isEmpty_normalize,
    normalize_eq_iff, fun h => ?_⟩
  have hnormal : s.normalize = t.normalize := normalize_eq_iff.mpr h
  rw [key, key, hnormal]

/-- One key twice, values repeated and out of order, and empty parts against absent ones. -/
theorem normalize_forgets_order_of_four :
    let s : LabelSelector := ⟨some .empty,
      some [⟨"pod", "In", some ["b", "a", "b"]⟩, ⟨"app", "Exists", none⟩,
        ⟨"pod", "Near", some []⟩, ⟨"pod", "NotIn", some ["c"]⟩]⟩
    let t : LabelSelector := ⟨none,
      some [⟨"pod", "NotIn", some ["c", "c"]⟩, ⟨"app", "Exists", some []⟩,
        ⟨"pod", "In", some ["a", "b"]⟩, ⟨"pod", "Near", none⟩]⟩
    s.Alike t ∧ s.normalize = t.normalize ∧ s.key = t.key := by
  intro s t
  have halike : s.Alike t := by
    refine ⟨rfl, [⟨"pod", "NotIn", some ["c"]⟩, ⟨"app", "Exists", none⟩,
      ⟨"pod", "In", some ["b", "a", "b"]⟩, ⟨"pod", "Near", some []⟩], by decide, ?_⟩
    refine .cons ⟨rfl, rfl, ?_⟩ (.cons ⟨rfl, rfl, ?_⟩ (.cons ⟨rfl, rfl, ?_⟩
      (.cons ⟨rfl, rfl, ?_⟩ .nil))) <;>
      simp [Requirement.valueList, or_comm]
  obtain ⟨-, -, -, hnormal, hkey⟩ := normalize_forgets_order s t
  exact ⟨halike, hnormal.mpr halike, hkey halike⟩

end LabelSelector
end PodTraffic
