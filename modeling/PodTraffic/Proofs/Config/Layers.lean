import Mathlib
import PodTraffic.Config.Layers
import PodTraffic.Proofs.Document.Toml

/-!
# Laying one table over another

A table and what its paths lead to. Of two tables that are laid one over the other, all leaves of
the upper one are seen, and those leaves of the lower one that it does not cover; laying the upper
one over both again changes nothing.
-/
namespace PodTraffic

namespace Value

/-- Where a path of names leads through tables. -/
def at? : List String → Value → Option Value
  | [], v => some v
  | name :: path, .object fields => fields.lookup name >>= at? path
  | _ :: _, _ => none

/-- The path leads to a value that is no table. -/
def Leaf (v : Value) (path : List String) (leaf : Value) : Prop :=
  v.at? path = some leaf ∧ leaf.isTable = false

variable {fields : Fields} {name : String} {path : List String} {v leaf : Value}

theorem at?_cons : (object fields).at? (name :: path) = (fields.lookup name).bind (at? path) := rfl

theorem at?_cons_of_leaf (h : v.isTable = false) : v.at? (name :: path) = none := by
  cases v <;> first | rfl | cases h

theorem not_leaf_nil : ¬ (object fields).Leaf [] leaf := by
  rintro ⟨hat, hleaf⟩
  obtain rfl := Option.some.inj hat
  cases hleaf

theorem leaf_cons : (object fields).Leaf (name :: path) leaf ↔
    ∃ v, fields.lookup name = some v ∧ v.Leaf path leaf := by
  simp only [Leaf, at?_cons, Option.bind_eq_some_iff, ← exists_and_right, and_assoc]

theorem leaf_of_leaf (h : v.isTable = false) : v.Leaf path leaf ↔ path = [] ∧ leaf = v := by
  cases path with
  | nil =>
    constructor
    · intro hleaf
      exact ⟨rfl, (Option.some.inj hleaf.1).symm⟩
    · rintro ⟨-, rfl⟩
      exact ⟨rfl, h⟩
  | cons name path => simp [Leaf, at?_cons_of_leaf h]

end Value

namespace Layer

/-- The layer covers nothing at the path: no part of the path leads to a value that is no table, and
the path itself does not lead to a table. -/
structure Spares (overlay : Value) (path : List String) : Prop where
  passes : ∀ part, part ≠ [] → part <+: path → ∀ v, overlay.at? part = some v → v.isTable = true
  noTable : ∀ v, overlay.at? path = some v → v.isTable = false

section Spares

variable {fields : Fields} {name : String} {path : List String} {v : Value}

theorem spares_of_unbound (h : fields.lookup name = none) :
    Spares (.object fields) (name :: path) where
  passes := by
    intro part hpart hprefix w hw
    obtain ⟨rest, rfl, -⟩ := (List.prefix_cons_iff.mp hprefix).resolve_left hpart
    simp [Value.at?_cons, h] at hw
  noTable := by
    intro w hw
    simp [Value.at?_cons, h] at hw

theorem spares_of_bound (h : fields.lookup name = some v) :
    Spares (.object fields) (name :: path) ↔ v.isTable = true ∧ Spares v path := by
  have hat : ∀ path, (Value.object fields).at? (name :: path) = v.at? path := by
    intro path
    rw [Value.at?_cons, h, Option.bind_some]
  constructor
  · rintro ⟨hpasses, hnoTable⟩
    refine ⟨hpasses [name] (by simp) (by simp) v (hat []), fun part hpart hprefix w hw => ?_,
      fun w hw => hnoTable w ((hat path).trans hw)⟩
    exact hpasses (name :: part) (by simp) ((List.prefix_cons_inj name).mpr hprefix) w
      ((hat part).trans hw)
  · rintro ⟨htable, hpasses, hnoTable⟩
    refine ⟨fun part hpart hprefix w hw => ?_, fun w hw => hnoTable w ((hat path).symm.trans hw)⟩
    obtain ⟨rest, rfl, hrest⟩ := (List.prefix_cons_iff.mp hprefix).resolve_left hpart
    rw [hat] at hw
    by_cases hnil : rest = []
    · subst hnil
      obtain rfl := Option.some.inj hw
      exact htable
    · exact hpasses rest hnil hrest w hw

end Spares

/-- The fields of a table with another one laid over it. -/
def layered (base overlay : Fields) : Fields :=
  mergeFields base overlay ++ overlay.filter fun field => !base.any (·.1 == field.1)

theorem merge_object (base overlay : Fields) :
    merge (.object base) (.object overlay) = .object (layered base overlay) := by
  rw [merge, layered]

theorem merge_eq_overlay {base overlay : Value}
    (h : base.isTable = false ∨ overlay.isTable = false) : merge base overlay = overlay := by
  cases base <;> cases overlay <;> simp_all [merge, Value.isTable]

/-- What is seen of a field of the base. -/
def laid (overlay : Fields) (field : String × Value) : Value :=
  (overlay.lookup field.1).elim field.2 (merge field.2)

theorem mergeFields_eq_map (base overlay : Fields) :
    mergeFields base overlay = base.map fun field => (field.1, laid overlay field) := by
  induction base with
  | nil => rfl
  | cons field base ih =>
    rw [mergeFields, ih, List.map_cons, laid]
    cases overlay.lookup field.1 <;> rfl

section Layered

variable {base overlay : Fields} {name : String} {v above : Value}

theorem lookup_map_laid (base overlay : Fields) (name : String) :
    (base.map fun field => (field.1, laid overlay field)).lookup name =
      (base.lookup name).map fun v => laid overlay (name, v) := by
  induction base with
  | nil => rfl
  | cons field base ih =>
    rw [List.map_cons, List.lookup_cons, List.lookup_cons]
    cases hname : name == field.1 with
    | true =>
      obtain rfl := eq_of_beq hname
      rfl
    | false => exact ih

/-- A name that a filter keeps is bound as before. -/
theorem lookup_filter {p : String → Bool} (hname : p name = true) (fields : Fields) :
    (fields.filter fun field => p field.1).lookup name = fields.lookup name := by
  induction fields with
  | nil => rfl
  | cons field fields ih =>
    rw [List.filter_cons, List.lookup_cons]
    cases hfield : name == field.1 with
    | true =>
      obtain rfl := eq_of_beq hfield
      rw [if_pos hname, List.lookup_cons_self]
    | false =>
      split
      · rw [List.lookup_cons, hfield, ih]
      · exact ih

theorem lookup_layered (base overlay : Fields) (name : String) :
    (layered base overlay).lookup name =
      ((base.lookup name).map fun v => laid overlay (name, v)).or (overlay.lookup name) := by
  rw [layered, mergeFields_eq_map, List.lookup_append, lookup_map_laid]
  cases hbase : base.lookup name with
  | some v => rfl
  | none =>
    have hname : (!base.any (·.1 == name)) = true := by
      rw [Bool.not_eq_true', List.any_eq_false]
      rintro field hfield heq
      have hne := List.lookup_eq_none_iff.mp hbase field hfield
      rw [beq_iff_eq.mp heq, bne_self_eq_false] at hne
      cases hne
    exact lookup_filter (p := fun name => !base.any (·.1 == name)) hname overlay

theorem lookup_layered_of_absent (h : base.lookup name = none) :
    (layered base overlay).lookup name = overlay.lookup name := by
  rw [lookup_layered, h, Option.map_none, Option.none_or]

theorem lookup_layered_of_unbound (h : overlay.lookup name = none) :
    (layered base overlay).lookup name = base.lookup name := by
  simp [lookup_layered, laid, h]

theorem lookup_layered_of_bound (hbase : base.lookup name = some v)
    (hoverlay : overlay.lookup name = some above) :
    (layered base overlay).lookup name = some (merge v above) := by
  simp [lookup_layered, laid, hbase, hoverlay]

end Layered

/-- Where one of two values is no table, the upper one covers all. -/
theorem not_spared {base overlay : Value} (h : base.isTable = false ∨ overlay.isTable = false)
    {path : List String} {leaf : Value} :
    ¬ (base.Leaf path leaf ∧ overlay.isTable = true ∧ Spares overlay path) := by
  rintro ⟨hleaf, htable, hspares⟩
  rcases h with h | h
  · obtain ⟨rfl, -⟩ := (Value.leaf_of_leaf h).mp hleaf
    rw [hspares.noTable overlay rfl] at htable
    cases htable
  · rw [h] at htable
    cases htable

/-- A leaf is seen in the upper layer, or in the lower one where the upper one covers nothing. -/
theorem leaf_layered_iff (base overlay : Fields) (path : List String) (leaf : Value) :
    (Value.object (layered base overlay)).Leaf path leaf ↔
      (Value.object overlay).Leaf path leaf ∨
        (Value.object base).Leaf path leaf ∧ Spares (.object overlay) path := by
  induction path generalizing base overlay with
  | nil => simp [Value.not_leaf_nil]
  | cons name path ih =>
    simp only [Value.leaf_cons]
    cases hoverlay : overlay.lookup name with
    | none =>
      have hspares : Spares (.object overlay) (name :: path) := spares_of_unbound hoverlay
      simp [lookup_layered_of_unbound hoverlay, hspares]
    | some above =>
      rw [spares_of_bound hoverlay]
      cases hbase : base.lookup name with
      | none => simp [lookup_layered_of_absent hbase, hoverlay]
      | some v =>
        simp only [lookup_layered_of_bound hbase hoverlay, Option.some.injEq, exists_eq_left']
        by_cases htables : v.isTable = false ∨ above.isTable = false
        · rw [merge_eq_overlay htables, or_iff_left (not_spared htables)]
        · rw [not_or, Bool.not_eq_false, Bool.not_eq_false] at htables
          obtain ⟨inner, rfl⟩ := Value.isTable_iff.mp htables.1
          obtain ⟨innerAbove, rfl⟩ := Value.isTable_iff.mp htables.2
          rw [merge_object, ih, and_iff_right htables.2]

theorem lookup_of_mem {fields : Fields} (h : (Value.object fields).NamesOnce)
    {field : String × Value} (hfield : field ∈ fields) :
    fields.lookup field.1 = some field.2 :=
  (SortedMap.lookup_eq_some_iff_mem h.nodup).mpr hfield

/-- An overlay that binds no new name and nothing otherwise is not seen. -/
theorem layered_eq_base {base overlay : Fields}
    (hnames : ∀ field ∈ overlay, base.any (·.1 == field.1) = true)
    (hlaid : ∀ field ∈ base, laid overlay field = field.2) : layered base overlay = base := by
  have hbase : (base.map fun field => (field.1, laid overlay field)) = base := by
    conv_rhs => rw [← List.map_id base]
    exact List.map_congr_left fun field hfield => Prod.ext rfl (hlaid field hfield)
  have hnew : (overlay.filter fun field => !base.any (·.1 == field.1)) = [] := by
    refine List.filter_eq_nil_iff.mpr fun field hfield => ?_
    simp [hnames field hfield]
  rw [layered, mergeFields_eq_map, hbase, hnew, List.append_nil]

theorem merge_self {v : Value} (h : v.NamesOnce) : merge v v = v := by
  induction h with
  | leaf h => exact merge_eq_overlay (.inl h)
  | @table fields names values ih =>
    rw [merge_object, layered_eq_base]
    · intro field hfield
      exact List.any_eq_true.mpr ⟨field, hfield, beq_self_eq_true _⟩
    · intro field hfield
      rw [laid, lookup_of_mem (.table names values) hfield]
      exact ih field hfield

/-- Every name of the overlay is bound in the layered table. -/
theorem any_layered (base : Fields) {overlay : Fields} {field : String × Value}
    (hfield : field ∈ overlay) : (layered base overlay).any (·.1 == field.1) = true := by
  rw [layered, mergeFields_eq_map, List.any_append, List.any_map, Bool.or_eq_true]
  by_cases hbase : base.any (·.1 == field.1) = true
  · exact .inl hbase
  · refine .inr (List.any_eq_true.mpr ⟨field, List.mem_filter.mpr ⟨hfield, ?_⟩, beq_self_eq_true _⟩)
    rw [Bool.not_eq_true', ← Bool.not_eq_true]
    exact hbase

theorem merge_merge {base overlay : Value} (h : overlay.NamesOnce) :
    merge (merge base overlay) overlay = merge base overlay := by
  induction h generalizing base with
  | leaf h => rw [merge_eq_overlay (.inr h), merge_eq_overlay (.inr h)]
  | @table overlay names values ih =>
    have honce : (Value.object overlay).NamesOnce := .table names values
    cases hbase : base.isTable with
    | false => rw [merge_eq_overlay (.inl hbase), merge_self honce]
    | true =>
      obtain ⟨base, rfl⟩ := Value.isTable_iff.mp hbase
      rw [merge_object, merge_object, layered_eq_base fun field => any_layered base]
      intro field hfield
      rw [layered, mergeFields_eq_map, List.mem_append] at hfield
      rcases hfield with hfield | hfield
      · obtain ⟨below, -, rfl⟩ := List.mem_map.mp hfield
        unfold laid
        cases habove : overlay.lookup below.1 with
        | none => rfl
        | some above =>
          exact ih (below.1, above) ((SortedMap.lookup_eq_some_iff_mem names).mp habove)
      · have hmem := (List.mem_filter.mp hfield).1
        rw [laid, lookup_of_mem honce hmem]
        exact merge_self (values field hmem)

/-- What is seen of two tables, one laid over the other. -/
structure Covers (base overlay merged : Value) : Prop where
  upper : ∀ path leaf, overlay.Leaf path leaf → merged.Leaf path leaf
  /-- A leaf of the lower table is seen, not just repeated by the upper one, where it is spared. -/
  lower : ∀ path leaf, base.Leaf path leaf →
    ((merged.Leaf path leaf ∧ ¬ overlay.Leaf path leaf) ↔ Spares overlay path)
  noOther : ∀ path leaf, merged.Leaf path leaf →
    overlay.Leaf path leaf ∨ base.Leaf path leaf ∧ Spares overlay path

/-- Where the overlay spares a path it has no leaf. -/
theorem Spares.not_leaf {overlay : Fields} {path : List String} {leaf : Value}
    (h : Spares (.object overlay) path) : ¬ (Value.object overlay).Leaf path leaf := by
  rintro ⟨hat, hleaf⟩
  by_cases hpath : path = []
  · subst hpath
    exact Value.not_leaf_nil ⟨hat, hleaf⟩
  · have htable := h.passes path hpath (List.prefix_refl path) leaf hat
    rw [hleaf] at htable
    cases htable

/-- Of two tables, one laid over the other, all leaves of the upper one are seen, those leaves of
the lower one that are spared, and no others; laying the upper one over a second time changes
nothing. -/
theorem merge_covers (base : Fields) {overlay : Fields} (h : (Value.object overlay).NamesOnce) :
    Covers (.object base) (.object overlay) (merge (.object base) (.object overlay)) ∧
      merge (merge (.object base) (.object overlay)) (.object overlay) =
        merge (.object base) (.object overlay) := by
  refine ⟨?_, merge_merge h⟩
  rw [merge_object]
  refine ⟨fun path leaf hleaf => ?_, fun path leaf hleaf => ?_, fun path leaf hleaf => ?_⟩
  · exact (leaf_layered_iff base overlay path leaf).mpr (.inl hleaf)
  · rw [leaf_layered_iff base overlay path leaf]
    constructor
    · rintro ⟨hseen, hupper⟩
      exact (hseen.resolve_left hupper).2
    · intro hspares
      exact ⟨.inr ⟨hleaf, hspares⟩, hspares.not_leaf⟩
  · exact (leaf_layered_iff base overlay path leaf).mp hleaf

/-- A table over a value, a value over a table, and an empty table over a value. -/
theorem merge_covers_mixed :
    let base : Fields := [
      ("a", .object [("b", .int 1), ("c", .int 2)]), ("d", .object [("e", .int 3)]), ("f", .int 4)]
    let text := "d = \"v\"\n[a.b]\ng = \"w\"\n[f]\n"
    let overlay : Fields := [
      ("d", .string "v"), ("a", .object [("b", .object [("g", .string "w")])]), ("f", .object [])]
    let merged := merge (.object base) (.object overlay)
    Toml.parse? text = some (.object overlay) ∧ (Value.object overlay).NamesOnce ∧
      merged = .object [
        ("a", .object [("b", .object [("g", .string "w")]), ("c", .int 2)]), ("d", .string "v"),
        ("f", .object [])] ∧
      Covers (.object base) (.object overlay) merged ∧ merge merged (.object overlay) = merged := by
  intro base text overlay merged
  have hparse : Toml.parse? text = some (.object overlay) := by cbv
  have honce := (Toml.namesOnce_of_parse? hparse).2
  exact ⟨hparse, honce, rfl, merge_covers base honce⟩

end Layer
end PodTraffic
