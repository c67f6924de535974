import PodTraffic.Probe
import PodTraffic.Proofs.Probe

/-!
# What a comparison counts

Each cell of the two probes is compared, and in it each key that one of both has a verdict for. So
it does not matter which probe is the expected one, a comparison without differences means equal
outcomes, and every key is counted once.
-/
namespace PodTraffic

namespace TruthTable

variable {α β : Type}

/-- One cell of a table that is made from another. -/
def fill (f : String → String → Option α → Option β) (t : TruthTable α) (made : TruthTable β)
    (place : String × String) : TruthTable β :=
  match f place.1 place.2 (t.get? place.1 place.2) with
  | some y => made.set place.1 place.2 y
  | none => made

variable {f : String → String → Option α → Option β} {t : TruthTable α}

theorem map_eq_foldl_fill (f : String → String → Option α → Option β) (t : TruthTable α) :
    t.map f = t.keys.foldl (fill f t) ⟨t.froms, t.tos, .empty⟩ := by
  rw [map, entries, List.foldl_map]
  rfl

theorem shape_foldl_fill (places : List (String × String)) (made : TruthTable β) :
    (places.foldl (fill f t) made).froms = made.froms ∧
      (places.foldl (fill f t) made).tos = made.tos := by
  induction places generalizing made with
  | nil => exact ⟨rfl, rfl⟩
  | cons place rest ih =>
    have hplace : (fill f t made place).froms = made.froms ∧
        (fill f t made place).tos = made.tos := by
      unfold fill
      cases f place.1 place.2 (t.get? place.1 place.2) <;> exact ⟨rfl, rfl⟩
    obtain ⟨hfroms, htos⟩ := ih (fill f t made place)
    exact ⟨hfroms.trans hplace.1, htos.trans hplace.2⟩

theorem get?_fill (made : TruthTable β) (place : String × String) (row column : String) :
    (fill f t made place).get? row column =
      if (row, column) = place then (f row column (t.get? row column)).or (made.get? row column)
      else made.get? row column := by
  obtain ⟨row', column'⟩ := place
  unfold fill
  by_cases hplace : (row, column) = (row', column')
  · obtain ⟨rfl, rfl⟩ := Prod.mk.inj hplace
    rw [if_pos rfl]
    cases f row column (t.get? row column) with
    | none => rfl
    | some y => simp [get?, set]
  · rw [if_neg hplace]
    cases f row' column' (t.get? row' column') with
    | none => rfl
    | some y =>
      have hne : NamePair.mk row column ≠ ⟨row', column'⟩ := by simpa using hplace
      simp [get?, set, hne]

/-- A cell is made from the one in its place, however often the place is listed. -/
theorem get?_map (f : String → String → Option α → Option β) (t : TruthTable α)
    (row column : String) : (t.map f).get? row column =
      if (row, column) ∈ t.keys then f row column (t.get? row column) else none := by
  rw [map_eq_foldl_fill]
  generalize t.keys = places
  induction places using List.reverseRecOn with
  | nil => rfl
  | append_singleton places place ih =>
    rw [List.foldl_append, List.foldl_cons, List.foldl_nil, get?_fill, ih]
    by_cases hplace : (row, column) = place
    · cases hcell : f row column (t.get? row column) <;> simp [hplace]
    · simp [hplace]

theorem ext_get? {t t' : TruthTable α} (hfroms : t.froms = t'.froms) (htos : t.tos = t'.tos)
    (h : ∀ row column, t.get? row column = t'.get? row column) : t = t' := by
  have hcells : t.cells = t'.cells := SortedMap.ext_get? fun place => h place.first place.second
  obtain ⟨froms, tos, cells⟩ := t
  obtain ⟨froms', tos', cells'⟩ := t'
  exact congr (congrArg₂ TruthTable.mk hfroms htos) hcells

end TruthTable

namespace AgreementCounts

instance : Zero AgreementCounts := ⟨{}⟩

theorem ext_fields {a b : AgreementCounts} (hsame : a.same = b.same)
    (hdifferent : a.different = b.different) (hignored : a.ignored = b.ignored) : a = b := by
  cases a
  cases b
  simp_all

instance : AddCommMonoid AgreementCounts where
  add_assoc _ _ _ := ext_fields (Nat.add_assoc _ _ _) (Nat.add_assoc _ _ _) (Nat.add_assoc _ _ _)
  zero_add _ := ext_fields (Nat.zero_add _) (Nat.zero_add _) (Nat.zero_add _)
  add_zero _ := rfl
  add_comm _ _ := ext_fields (Nat.add_comm _ _) (Nat.add_comm _ _) (Nat.add_comm _ _)
  nsmul := nsmulRec

theorem sum_eq (counts : List AgreementCounts) : sum counts = counts.sum := by
  rw [List.sum_eq_foldl]
  rfl

def differentHom : AgreementCounts →+ ℕ where
  toFun := different
  map_zero' := rfl
  map_add' _ _ := rfl

@[simp] theorem differentHom_apply (c : AgreementCounts) : differentHom c = c.different := rfl

def ignoredHom : AgreementCounts →+ ℕ where
  toFun := ignored
  map_zero' := rfl
  map_add' _ _ := rfl

@[simp] theorem ignoredHom_apply (c : AgreementCounts) : ignoredHom c = c.ignored := rfl

def totalHom : AgreementCounts →+ ℕ where
  toFun := total
  map_zero' := rfl
  map_add' a b := by
    change a.same + b.same + (a.different + b.different) + (a.ignored + b.ignored) =
      a.same + a.different + a.ignored + (b.same + b.different + b.ignored)
    omega

@[simp] theorem totalHom_apply (c : AgreementCounts) : totalHom c = c.total := rfl

theorem total_one (x : Agreement) : (one x).total = 1 := by
  cases x <;> rfl

theorem different_one_eq_zero_iff {x : Agreement} : (one x).different = 0 ↔ x ≠ .different := by
  cases x <;> simp [one]

theorem ignored_one (x : Agreement) : (one x).ignored = if x = .ignored then 1 else 0 := by
  cases x <;> rfl

end AgreementCounts

namespace ProbeTable

/-- The outcome of a check, if the probe made it. -/
def outcome? (t : ProbeTable) (row column key : String) : Option Connectivity :=
  (verdict? t row column key).map (·.combined)

/-- The keys that one of both probes has a verdict for, each once. -/
def keysAt (t t' : ProbeTable) (row column : String) : List String :=
  Ordered.distinct (Comparison.cellKeys (TruthTable.get? t row column) ++
    Comparison.cellKeys (TruthTable.get? t' row column))

variable {t t' : ProbeTable} {row column key : String}

theorem mem_cellKeys : key ∈ Comparison.cellKeys (TruthTable.get? t row column) ↔
    outcome? t row column key ≠ none := by
  unfold outcome? verdict? Comparison.cellKeys
  cases TruthTable.get? t row column with
  | none => simp
  | some cell => simp [SortedMap.mem_keys_iff, Option.ne_none_iff_exists']

theorem mem_keysAt : key ∈ keysAt t t' row column ↔
    outcome? t row column key ≠ none ∨ outcome? t' row column key ≠ none := by
  rw [keysAt, Ordered.mem_distinct, List.mem_append, mem_cellKeys, mem_cellKeys]

/-- The same keys as a set. -/
def presentKeys (t t' : ProbeTable) (row column : String) : Finset String :=
  (Comparison.cellKeys (TruthTable.get? t row column)).toFinset ∪
    (Comparison.cellKeys (TruthTable.get? t' row column)).toFinset

theorem length_keysAt (t t' : ProbeTable) (row column : String) :
    (keysAt t t' row column).length = (presentKeys t t' row column).card := by
  have hset : (keysAt t t' row column).toFinset = presentKeys t t' row column := by
    ext key
    simp [keysAt, presentKeys, Ordered.mem_distinct]
  have hnodup : (keysAt t t' row column).Nodup := Ordered.nodup_distinct _
  rw [← hset, List.toFinset_card_of_nodup hnodup]

theorem keysAt_comm (t t' : ProbeTable) (row column : String) :
    keysAt t t' row column = keysAt t' t row column := by
  refine Ordered.distinct_congr fun key => ?_
  rw [List.mem_append, List.mem_append, or_comm]

end ProbeTable

namespace Agreement

theorem ofOutcomes_comm (a b : Option Connectivity) : ofOutcomes a b = ofOutcomes b a := by
  have hcond : (a.isSome && a == b) = (b.isSome && b == a) := by
    cases a with
    | none => cases b <;> rfl
    | some x =>
      cases b with
      | none => rfl
      | some y => simp [eq_comm]
  rw [ofOutcomes, ofOutcomes, hcond]

theorem ofOutcomes_ne_ignored (a b : Option Connectivity) : ofOutcomes a b ≠ .ignored := by
  unfold ofOutcomes
  split <;> simp

/-- Of outcomes one of which is there, there is no difference only if both are there and equal. -/
theorem ofOutcomes_ne_different_iff {a b : Option Connectivity} (h : a ≠ none ∨ b ≠ none) :
    ofOutcomes a b ≠ .different ↔ a = b := by
  unfold ofOutcomes
  cases a with
  | none => cases b <;> simp_all
  | some x => cases b <;> simp

end Agreement

namespace Comparison

open ProbeTable

variable {expected actual : ProbeTable} {row column : String}

/-- What a comparison says of a key in a cell. -/
def agreementAt (ignoreLoopback : Bool) (expected actual : ProbeTable) (row column key : String) :
    Agreement :=
  if ignoreLoopback && row == column then .ignored
  else .ofOutcomes (outcome? expected row column key) (outcome? actual row column key)

theorem agreementAt_comm (ignoreLoopback : Bool) (expected actual : ProbeTable)
    (row column key : String) : agreementAt ignoreLoopback expected actual row column key =
      agreementAt ignoreLoopback actual expected row column key := by
  rw [agreementAt, agreementAt, Agreement.ofOutcomes_comm]

theorem agreementAt_eq_ignored_iff {ignoreLoopback : Bool} {key : String} :
    agreementAt ignoreLoopback expected actual row column key = .ignored ↔
      ignoreLoopback = true ∧ row = column := by
  unfold agreementAt
  split
  · next h => simpa using h
  · next h =>
    have hne : ¬(ignoreLoopback = true ∧ row = column) := by simpa using h
    exact iff_of_false (Agreement.ofOutcomes_ne_ignored _ _) hne

/-- A cell has an entry for each key, in key order. -/
theorem entries_cell (ignoreLoopback : Bool) (expected actual : ProbeTable) (row column : String) :
    (cell (ignoreLoopback && row == column) (TruthTable.get? expected row column)
      (TruthTable.get? actual row column)).entries =
        (keysAt expected actual row column).map fun key =>
          (key, agreementAt ignoreLoopback expected actual row column key) := by
  have hsorted : ((keysAt expected actual row column).map fun key =>
      (key, agreementAt ignoreLoopback expected actual row column key)).Pairwise
        fun a b => compare a.1 b.1 = .lt := by
    rw [List.pairwise_map]
    exact Ordered.pairwise_distinct _
  exact congrArg SortedMap.entries (SortedMap.ofList_eq_of_sorted hsorted)

theorem get?_ofProbes (ignoreLoopback : Bool) (expected actual : ProbeTable)
    (row column : String) : TruthTable.get? (ofProbes ignoreLoopback expected actual) row column =
      if (row, column) ∈ TruthTable.keys expected then
        some (cell (ignoreLoopback && row == column) (TruthTable.get? expected row column)
          (TruthTable.get? actual row column))
      else none := TruthTable.get?_map _ expected row column

theorem shape_ofProbes (ignoreLoopback : Bool) (expected actual : ProbeTable) :
    (ofProbes ignoreLoopback expected actual).froms = expected.froms ∧
      (ofProbes ignoreLoopback expected actual).tos = expected.tos := by
  rw [ofProbes, TruthTable.map_eq_foldl_fill]
  exact TruthTable.shape_foldl_fill _ _

theorem cell_comm (ignoreLoopback : Bool) (expected actual : ProbeTable) (row column : String) :
    cell (ignoreLoopback && row == column) (TruthTable.get? expected row column)
      (TruthTable.get? actual row column) =
    cell (ignoreLoopback && row == column) (TruthTable.get? actual row column)
      (TruthTable.get? expected row column) := by
  have hentries := entries_cell ignoreLoopback expected actual row column
  simp only [keysAt_comm expected actual, agreementAt_comm ignoreLoopback expected actual]
    at hentries
  rw [← entries_cell] at hentries
  exact SortedMap.ext_get? fun key => congrArg (·.lookup key) hentries

theorem ofProbes_comm (ignoreLoopback : Bool) (hfroms : expected.froms = actual.froms)
    (htos : expected.tos = actual.tos) :
    ofProbes ignoreLoopback expected actual = ofProbes ignoreLoopback actual expected := by
  obtain ⟨hrows, hcolumns⟩ := shape_ofProbes ignoreLoopback expected actual
  obtain ⟨hrows', hcolumns'⟩ := shape_ofProbes ignoreLoopback actual expected
  refine TruthTable.ext_get? ?_ ?_ fun row column => ?_
  · rw [hrows, hrows', hfroms]
  · rw [hcolumns, hcolumns', htos]
  · have hkeys : TruthTable.keys expected = TruthTable.keys actual := by
      rw [TruthTable.keys, TruthTable.keys, hfroms, htos]
    rw [get?_ofProbes, get?_ofProbes, hkeys, cell_comm]

theorem setCells_ofProbes (ignoreLoopback : Bool) (expected actual : ProbeTable) :
    TruthTable.setCells (ofProbes ignoreLoopback expected actual) =
      (TruthTable.keys expected).map fun place => (place.1, place.2,
        cell (ignoreLoopback && place.1 == place.2) (TruthTable.get? expected place.1 place.2)
          (TruthTable.get? actual place.1 place.2)) := by
  obtain ⟨hfroms, htos⟩ := shape_ofProbes ignoreLoopback expected actual
  have hkeys : TruthTable.keys (ofProbes ignoreLoopback expected actual) =
      TruthTable.keys expected := by
    rw [TruthTable.keys, TruthTable.keys, hfroms, htos]
  rw [TruthTable.setCells, TruthTable.entries, hkeys, List.filterMap_map, ← List.filterMap_eq_map]
  refine List.filterMap_congr fun place hplace => ?_
  simp only [Function.comp_apply, get?_ofProbes, if_pos hplace]
  rfl

theorem entries_ofProbes (ignoreLoopback : Bool) (expected actual : ProbeTable) :
    entries (ofProbes ignoreLoopback expected actual) =
      (TruthTable.keys expected).flatMap fun place =>
        (keysAt expected actual place.1 place.2).map fun key =>
          (key, agreementAt ignoreLoopback expected actual place.1 place.2 key) := by
  rw [entries, setCells_ofProbes, List.flatMap_map]
  exact List.flatMap_congr fun place _ => entries_cell _ _ _ _ _

/-- What adds up along counts adds up over the rows, the columns and the keys of each cell. -/
theorem map_counts_ofProbes (f : AgreementCounts →+ ℕ) (ignoreLoopback : Bool)
    (expected actual : ProbeTable) : f (counts (ofProbes ignoreLoopback expected actual)) =
      (expected.froms.map fun row => (expected.tos.map fun column =>
        ((keysAt expected actual row column).map fun key =>
          f (.one (agreementAt ignoreLoopback expected actual row column key))).sum).sum).sum := by
  rw [counts, AgreementCounts.sum_eq, map_list_sum, entries_ofProbes, TruthTable.keys]
  simp only [List.map_flatMap, List.flatMap_assoc, List.flatMap_map, List.map_map,
    Function.comp_def]
  simp only [List.flatMap_def, List.sum_flatten, List.map_map, Function.comp_def]

theorem total_counts_ofProbes (ignoreLoopback : Bool) (expected actual : ProbeTable) :
    (counts (ofProbes ignoreLoopback expected actual)).total =
      (expected.froms.map fun row => (expected.tos.map fun column =>
        (presentKeys expected actual row column).card).sum).sum := by
  refine (map_counts_ofProbes AgreementCounts.totalHom ignoreLoopback expected actual).trans ?_
  simp [AgreementCounts.total_one, length_keysAt]

theorem ignored_counts_ofProbes (ignoreLoopback : Bool) (expected actual : ProbeTable) :
    (counts (ofProbes ignoreLoopback expected actual)).ignored =
      if ignoreLoopback then (expected.froms.map fun row => (expected.tos.map fun column =>
        if row = column then (presentKeys expected actual row column).card else 0).sum).sum
      else 0 := by
  have hignored : ∀ row column, ((keysAt expected actual row column).map fun key =>
      (AgreementCounts.one
        (agreementAt ignoreLoopback expected actual row column key)).ignored).sum =
      if ignoreLoopback = true ∧ row = column then (presentKeys expected actual row column).card
      else 0 := by
    intro row column
    simp only [AgreementCounts.ignored_one, agreementAt_eq_ignored_iff, ← length_keysAt]
    split <;> simp
  refine (map_counts_ofProbes AgreementCounts.ignoredHom ignoreLoopback expected actual).trans ?_
  simp only [AgreementCounts.ignoredHom_apply, hignored]
  cases ignoreLoopback <;> simp

/-- A key that neither probe has a verdict for makes no difference, any other does unless both
have the same. -/
theorem isSame_ofProbes_iff {ignoreLoopback : Bool} :
    isSame (ofProbes ignoreLoopback expected actual) = true ↔
      ∀ row ∈ expected.froms, ∀ column ∈ expected.tos, ¬(ignoreLoopback = true ∧ row = column) →
        ∀ key, outcome? expected row column key = outcome? actual row column key := by
  have hkey : ∀ row column key, key ∈ keysAt expected actual row column →
      ¬(ignoreLoopback = true ∧ row = column) →
        (agreementAt ignoreLoopback expected actual row column key ≠ .different ↔
          outcome? expected row column key = outcome? actual row column key) := by
    intro row column key hmem hcompared
    have hnot : ¬(ignoreLoopback && row == column) = true := by simpa using hcompared
    rw [agreementAt, if_neg hnot]
    exact Agreement.ofOutcomes_ne_different_iff (mem_keysAt.mp hmem)
  have hsum := map_counts_ofProbes AgreementCounts.differentHom ignoreLoopback expected actual
  have hsame : isSame (ofProbes ignoreLoopback expected actual) = true ↔
      ∀ row ∈ expected.froms, ∀ column ∈ expected.tos, ∀ key ∈ keysAt expected actual row column,
        agreementAt ignoreLoopback expected actual row column key ≠ .different := by
    rw [isSame, beq_iff_eq]
    refine (Eq.congr_left hsum).trans ?_
    simp only [AgreementCounts.differentHom_apply, List.sum_eq_zero_iff, List.forall_mem_map,
      AgreementCounts.different_one_eq_zero_iff]
  rw [hsame]
  constructor
  · intro h row hrow column hcolumn hcompared key
    by_cases hmem : key ∈ keysAt expected actual row column
    · exact (hkey row column key hmem hcompared).mp (h row hrow column hcolumn key hmem)
    · rw [mem_keysAt, not_or, not_not, not_not] at hmem
      rw [hmem.1, hmem.2]
  · intro h row hrow column hcolumn key hmem
    by_cases hloopback : ignoreLoopback = true ∧ row = column
    · rw [agreementAt_eq_ignored_iff.mpr hloopback]
      simp
    · exact (hkey row column key hmem hloopback).mpr (h row hrow column hcolumn hloopback key)

/-- Probes of one shape can be swapped. They are the same exactly if every outcome that is compared
is missing from both or in both and equal; what is ignored are the keys of loopback cells, and each
key of each cell is counted once. -/
theorem ofProbes_misses_nothing (ignoreLoopback : Bool) (hfroms : expected.froms = actual.froms)
    (htos : expected.tos = actual.tos) :
    ofProbes ignoreLoopback expected actual = ofProbes ignoreLoopback actual expected ∧
      (isSame (ofProbes ignoreLoopback expected actual) = true ↔
        ∀ row ∈ expected.froms, ∀ column ∈ expected.tos,
          ¬(ignoreLoopback = true ∧ row = column) →
            ∀ key, outcome? expected row column key = outcome? actual row column key) ∧
      (counts (ofProbes ignoreLoopback expected actual)).ignored = (if ignoreLoopback then
        (expected.froms.map fun row => (expected.tos.map fun column =>
          if row = column then (presentKeys expected actual row column).card else 0).sum).sum
        else 0) ∧
      (counts (ofProbes ignoreLoopback expected actual)).total =
        (expected.froms.map fun row => (expected.tos.map fun column =>
          (presentKeys expected actual row column).card).sum).sum :=
  ⟨ofProbes_comm ignoreLoopback hfroms htos, isSame_ofProbes_iff,
    ignored_counts_ofProbes ignoreLoopback expected actual,
    total_counts_ofProbes ignoreLoopback expected actual⟩

/-- A loopback cell that differs, a cell in which one probe has a key more, an empty cell against
an unset one, and a cell that is unset in both. -/
theorem ofProbes_misses_nothing_one_sided :
    let cell (checks : List (String × Connectivity)) : ProbeCell :=
      .ofList (checks.map fun check => (check.1, .ofCluster check.2))
    let pods := ["x/a", "x/b"]
    let expected : ProbeTable := ⟨pods, pods, .ofList
      [(⟨"x/a", "x/a"⟩, cell [("80/TCP", .blocked)]), (⟨"x/a", "x/b"⟩, cell [("80/TCP", .allowed)]),
        (⟨"x/b", "x/a"⟩, .empty)]⟩
    let actual : ProbeTable := ⟨pods, pods, .ofList
      [(⟨"x/a", "x/a"⟩, cell [("80/TCP", .allowed)]),
        (⟨"x/a", "x/b"⟩, cell [("80/TCP", .allowed), ("80/UDP", .allowed)])]⟩
    expected.froms = actual.froms ∧ expected.tos = actual.tos ∧
      ofProbes true expected actual = ofProbes true actual expected ∧
      ¬isSame (ofProbes true expected actual) = true ∧
      (counts (ofProbes true expected actual)).ignored = 1 ∧
      (counts (ofProbes true expected actual)).total = 3 := by
  intro cell pods expected actual
  have hfroms : expected.froms = actual.froms := rfl
  have htos : expected.tos = actual.tos := rfl
  obtain ⟨hcomm, hsame, hignored, htotal⟩ := ofProbes_misses_nothing true hfroms htos
  refine ⟨hfroms, htos, hcomm, ?_, ?_, ?_⟩
  · rw [hsame]
    intro h
    have hone := h "x/a" (by simp [expected, pods]) "x/b" (by simp [expected, pods]) (by simp)
      "80/UDP"
    exact absurd hone (by decide)
  · rw [hignored]
    decide
  · rw [htotal]
    decide

end Comparison
end PodTraffic
