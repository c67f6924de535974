import PodTraffic.Probe
import PodTraffic.Proofs.SortedMap

/-!
# Cells of probe tables

A cell holds the last verdict that was reported for it. When all results for one place agree, the
order in which they come does not matter.
-/
namespace PodTraffic

/-- The place in a table where a result goes. -/
structure JobResult.ReportsAt (x : JobResult) (row column key : String) : Prop where
  row : x.job.fromKey = row
  column : x.job.toKey = column
  key : x.job.key = key

instance (x : JobResult) (row column key : String) : Decidable (x.ReportsAt row column key) :=
  decidable_of_iff (x.job.fromKey = row ∧ x.job.toKey = column ∧ x.job.key = key)
    ⟨fun h => ⟨h.1, h.2.1, h.2.2⟩, fun h => ⟨h.row, h.column, h.key⟩⟩

namespace ProbeTable

def verdict? (t : ProbeTable) (row column key : String) : Option Verdict :=
  (TruthTable.get? t row column).bind (·.get? key)

theorem verdict?_record (t : ProbeTable) (x : JobResult) (row column key : String) :
    verdict? (record t x) row column key =
      if x.ReportsAt row column key then some x.verdict else verdict? t row column key := by
  unfold verdict? record TruthTable.get? TruthTable.alter
  rw [SortedMap.get?_alter]
  by_cases hplace : (NamePair.mk row column) = ⟨x.job.fromKey, x.job.toKey⟩
  · obtain ⟨rfl, rfl⟩ := NamePair.mk.inj hplace
    rw [if_pos (beq_self_eq_true _), Option.bind_some, SortedMap.get?_insert]
    by_cases hkey : key = x.job.key
    · subst hkey
      rw [if_pos (beq_self_eq_true _), if_pos ⟨rfl, rfl, rfl⟩]
    · have hno : ¬x.ReportsAt x.job.fromKey x.job.toKey key := fun h => hkey h.key.symm
      rw [if_neg (by simpa using hkey), if_neg hno]
      cases t.cells.get? ⟨x.job.fromKey, x.job.toKey⟩ with
      | none => simp
      | some cell => rfl
  · have hno : ¬x.ReportsAt row column key := by
      intro h
      obtain ⟨hrow, hcolumn, -⟩ := h
      exact hplace (by rw [hrow, hcolumn])
    rw [if_neg (by simpa using hplace), if_neg hno]

/-- All results for one place agree. -/
def Consistent (results : List JobResult) : Prop :=
  ∀ x ∈ results, ∀ y ∈ results, x.job.fromKey = y.job.fromKey → x.job.toKey = y.job.toKey →
    x.job.key = y.job.key → x.verdict = y.verdict

theorem Consistent.subset {results results' : List JobResult} (h : Consistent results)
    (hsub : results' ⊆ results) : Consistent results' :=
  fun x hx y hy => h x (hsub hx) y (hsub hy)

/-- A cell is filled just when a result reports there. -/
theorem verdict?_ofResults {r : Resources} {results : List JobResult} (h : Consistent results)
    {row column key : String} {v : Verdict} :
    verdict? (ofResults r results) row column key = some v ↔
      ∃ x ∈ results, x.ReportsAt row column key ∧ x.verdict = v := by
  unfold ofResults
  induction results using List.reverseRecOn with
  | nil => simp [verdict?, TruthTable.get?, ofResources]
  | append_singleton before x ih =>
    have ih := ih (h.subset (List.subset_append_left _ _))
    rw [List.foldl_append, List.foldl_cons, List.foldl_nil, verdict?_record]
    by_cases hx : x.ReportsAt row column key
    · rw [if_pos hx, Option.some.injEq]
      constructor
      · rintro rfl
        exact ⟨x, by simp, hx, rfl⟩
      · intro h
        obtain ⟨y, hy, hplace, rfl⟩ := h
        exact h x (by simp) y hy (hx.row.trans hplace.row.symm)
          (hx.column.trans hplace.column.symm) (hx.key.trans hplace.key.symm)
    · rw [if_neg hx, ih]
      constructor
      · intro h
        obtain ⟨y, hy, hplace, hv⟩ := h
        exact ⟨y, List.mem_append_left _ hy, hplace, hv⟩
      · intro h
        obtain ⟨y, hy, hplace, hv⟩ := h
        rcases List.mem_append.mp hy with hy | hy
        · exact ⟨y, hy, hplace, hv⟩
        · obtain rfl := List.mem_singleton.mp hy
          exact absurd hplace hx

theorem shape_ofResults (r : Resources) (results : List JobResult) :
    (ofResults r results).froms = r.podKeys ∧ (ofResults r results).tos = r.destinationKeys := by
  unfold ofResults
  induction results using List.reverseRecOn with
  | nil => exact ⟨rfl, rfl⟩
  | append_singleton before x ih =>
    rw [List.foldl_append]
    exact ih

/-- A cell is unset just when no result reports in it. -/
theorem get?_ofResults_eq_none_iff {r : Resources} {results : List JobResult}
    {row column : String} : TruthTable.get? (ofResults r results) row column = none ↔
      ∀ x ∈ results, ¬(x.job.fromKey = row ∧ x.job.toKey = column) := by
  unfold ofResults
  induction results using List.reverseRecOn with
  | nil => simp [TruthTable.get?, ofResources]
  | append_singleton before x ih =>
    rw [List.foldl_append, List.foldl_cons, List.foldl_nil, record, TruthTable.get?,
      TruthTable.alter, SortedMap.get?_alter]
    by_cases hplace : x.job.fromKey = row ∧ x.job.toKey = column
    · obtain ⟨rfl, rfl⟩ := hplace
      simp
    · have hne : NamePair.mk row column ≠ ⟨x.job.fromKey, x.job.toKey⟩ := by
        intro h
        obtain ⟨hrow, hcolumn⟩ := NamePair.mk.inj h
        exact hplace ⟨hrow.symm, hcolumn.symm⟩
      rw [if_neg (by simpa using hne)]
      refine ih.trans ?_
      simp only [List.mem_append, List.mem_singleton, or_imp, forall_and, forall_eq]
      exact (and_iff_left hplace).symm

theorem ext {t t' : ProbeTable} (hfroms : t.froms = t'.froms) (htos : t.tos = t'.tos)
    (hunset : ∀ row column,
      TruthTable.get? t row column = none ↔ TruthTable.get? t' row column = none)
    (hverdicts : ∀ row column key, verdict? t row column key = verdict? t' row column key) :
    t = t' := by
  obtain ⟨froms, tos, cells⟩ := t
  obtain ⟨froms', tos', cells'⟩ := t'
  obtain rfl : froms = froms' := hfroms
  obtain rfl : tos = tos' := htos
  have hcells : cells = cells' := by
    refine SortedMap.ext_get? fun place => ?_
    have hunset : cells.get? place = none ↔ cells'.get? place = none :=
      hunset place.first place.second
    have hverdicts : ∀ key, (cells.get? place).bind (·.get? key) =
        (cells'.get? place).bind (·.get? key) := hverdicts place.first place.second
    cases hcell : cells.get? place with
    | none => exact (hunset.mp hcell).symm
    | some cell =>
      cases hcell' : cells'.get? place with
      | none => simp [hunset.mpr hcell'] at hcell
      | some cell' =>
        rw [hcell, hcell'] at hverdicts
        exact congrArg some (SortedMap.ext_get? hverdicts)
  rw [hcells]

/-- The order in which results come does not matter. -/
theorem ofResults_perm {r : Resources} {results results' : List JobResult}
    (h : Consistent results) (hperm : results'.Perm results) :
    ofResults r results' = ofResults r results := by
  have h' : Consistent results' := h.subset hperm.subset
  refine ext ?_ ?_ (fun row column => ?_) fun row column key => ?_
  · rw [(shape_ofResults r results').1, (shape_ofResults r results).1]
  · rw [(shape_ofResults r results').2, (shape_ofResults r results).2]
  · simp only [get?_ofResults_eq_none_iff, hperm.mem_iff]
  · apply Option.ext
    intro v
    simp only [verdict?_ofResults h, verdict?_ofResults h', hperm.mem_iff]

theorem sum_filter_ne_zero (l : List (Connectivity × Nat)) :
    ((l.filter (·.2 != 0)).map (·.2)).sum = (l.map (·.2)).sum := by
  induction l with
  | nil => rfl
  | cons x rest ih =>
    by_cases hx : x.2 = 0 <;> simp [hx, ih]

theorem sum_countP (l : List Verdict) :
    (Connectivity.all.map fun c => l.countP (·.combined == c)).sum = l.length := by
  induction l with
  | nil => rfl
  | cons v rest ih =>
    rw [List.length_cons, ← ih]
    cases h : v.combined <;> simp [Connectivity.all, h] <;> omega

/-- Each verdict is counted once. -/
theorem sum_counts (t : ProbeTable) : ((counts t).map (·.2)).sum = (verdicts t).length := by
  rw [counts, sum_filter_ne_zero, List.map_map]
  exact sum_countP (verdicts t)

/-- The number of verdicts in a cell. -/
def cellSize (t : ProbeTable) (row column : String) : Nat :=
  ((TruthTable.get? t row column).map (·.keys.length)).getD 0

theorem length_flatMap_filterMap {α β γ : Type} (f : α → Option β) (g : β → List γ) (l : List α) :
    ((l.filterMap f).flatMap g).length =
      (l.map fun a => ((f a).map fun b => (g b).length).getD 0).sum := by
  induction l with
  | nil => rfl
  | cons a rest ih =>
    cases ha : f a with
    | none => simpa [ha] using ih
    | some b => simpa [ha] using ih

/-- The verdicts are those of the cells, row by row. -/
theorem length_verdicts (t : ProbeTable) :
    (verdicts t).length = (t.froms.map fun row => (t.tos.map (cellSize t row)).sum).sum := by
  rw [verdicts, TruthTable.setCells, length_flatMap_filterMap, TruthTable.entries, List.map_map,
    TruthTable.keys, List.map_flatMap, List.flatMap_def, List.sum_flatten, List.map_map]
  refine congrArg List.sum (List.map_congr_left fun row _ => congrArg List.sum ?_)
  refine List.map_map.trans (List.map_congr_left fun column _ => ?_)
  simp [cellSize, SortedMap.values, SortedMap.keys, Function.comp_def]

/-- Every result of the first list has one of the second for the same job and outcome. -/
def Covers (results results' : List JobResult) : Prop :=
  ∀ x ∈ results, ∃ y ∈ results', y.job = x.job ∧ y.verdict.combined = x.verdict.combined

theorem combined_eq_of_covers {r : Resources} {results results' : List JobResult}
    (h : Consistent results) (h' : Consistent results') (hcovers : Covers results results')
    {row column key : String} {c : Connectivity}
    (hcell : (verdict? (ofResults r results) row column key).map (·.combined) = some c) :
    (verdict? (ofResults r results') row column key).map (·.combined) = some c := by
  obtain ⟨v, hv, rfl⟩ := Option.map_eq_some_iff.mp hcell
  obtain ⟨x, hx, hplace, rfl⟩ := (verdict?_ofResults h).mp hv
  obtain ⟨y, hy, hjob, hcombined⟩ := hcovers x hx
  have hplace' : y.ReportsAt row column key :=
    ⟨by rw [hjob, hplace.row], by rw [hjob, hplace.column], by rw [hjob, hplace.key]⟩
  rw [(verdict?_ofResults h').mpr ⟨y, hy, hplace', rfl⟩, Option.map_some, hcombined]

/-- Tables of results for the same jobs and outcomes have the same cells. -/
theorem combined_eq {r : Resources} {results results' : List JobResult} (h : Consistent results)
    (h' : Consistent results') (hcovers : Covers results results')
    (hcovers' : Covers results' results) (row column key : String) :
    (verdict? (ofResults r results) row column key).map (·.combined) =
      (verdict? (ofResults r results') row column key).map (·.combined) := by
  apply Option.ext
  intro c
  constructor
  · exact combined_eq_of_covers h h' hcovers
  · exact combined_eq_of_covers h' h hcovers'

end ProbeTable
end PodTraffic
