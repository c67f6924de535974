import PodTraffic.Proofs.Config.Layers

/-!
# The built-in layer holds the defaults

A layer stands for the defaults of a record when reading what lies over it fills in what reading
that alone would. Of a record this is known field by field, so the built-in layer stands for the
default configuration, and it does not matter whether a file is read over it or alone.
-/
namespace PodTraffic

/-- Reading over the layer is reading with the default that the layer reads as. -/
structure Layer.StandsFor {α : Type} (layer : Value) (read : Value → Option α) (default : α) :
    Prop where
  read_layer : read layer = some default
  read_merge : ∀ v : Value, v.NamesOnce → read (merge layer v) = read v

namespace Layer

variable {α : Type} {base fields : Fields} {name : String} {layer : Value} {default : α}
  {read : Value → Option α}

theorem StandsFor.of_leaf (hread : read layer = some default) (hleaf : layer.isTable = false) :
    StandsFor layer read default where
  read_layer := hread
  read_merge := fun v _ => by rw [merge_eq_overlay (.inl hleaf)]

/-- The table has a layer under the name that stands for the default. -/
def Supplies (table : Value) (name : String) (read : Value → Option α) (default : α) : Prop :=
  ∃ layer, table.at? [name] = some layer ∧ StandsFor layer read default

theorem supplies_leaf {table : Value} (htable : table.at? [name] = some layer)
    (hread : read layer = some default) (hleaf : layer.isTable = false) :
    Supplies table name read default :=
  ⟨layer, htable, .of_leaf hread hleaf⟩

theorem withDefault_layered (h : Supplies (.object base) name read default)
    (hfields : (Value.object fields).NamesOnce) :
    Fields.withDefault (layered base fields) name default read =
      Fields.withDefault fields name default read := by
  obtain ⟨layer, htable, hlayer⟩ := h
  have hbase : base.lookup name = some layer := by
    simpa [Value.at?_cons, Option.bind_eq_some_iff, Value.at?] using htable
  unfold Fields.withDefault
  cases hname : fields.lookup name with
  | none =>
    rw [lookup_layered_of_unbound hname, hbase]
    exact hlayer.read_layer
  | some v =>
    have hmem : (name, v) ∈ fields := (SortedMap.lookup_eq_some_iff_mem hfields.nodup).mp hname
    rw [lookup_layered_of_bound hbase hname]
    exact hlayer.read_merge v (hfields.field hmem)

theorem nullable_layered (hbase : base.lookup name = none) :
    Fields.nullable (layered base fields) name read = Fields.nullable fields name read := by
  rw [Fields.nullable, lookup_layered_of_absent hbase, Fields.nullable]

theorem names_layered (base fields : Fields) : Listing.names (layered base fields) =
    Listing.names base ++ (Listing.names fields).filter fun name => !base.any (·.1 == name) := by
  simp [Listing.names, layered, mergeFields_eq_map, List.filter_map, Function.comp_def]

theorem nodup_names_layered (hbase : (Listing.names base).Nodup)
    (hfields : (Listing.names fields).Nodup) : (Listing.names (layered base fields)).Nodup := by
  rw [names_layered, List.nodup_append]
  refine ⟨hbase, hfields.filter _, fun name hname other hother => ?_⟩
  rintro rfl
  obtain ⟨field, hfield, rfl⟩ := List.mem_map.mp hname
  have hnew := (List.mem_filter.mp hother).2
  rw [Bool.not_eq_true', List.any_eq_false] at hnew
  exact hnew field hfield (beq_self_eq_true _)

end Layer

namespace Value

variable {names : List String} {fields : Fields}

theorem record?_of_nodup (h : (Listing.names fields).Nodup) :
    record? names (.object fields) = some fields := by
  have honce : ∀ name, (fields.filter (·.1 == name)).length ≤ 1 := by
    intro name
    have hcount : (fields.filter (·.1 == name)).length = (Listing.names fields).count name := by
      rw [Listing.names, List.count, List.countP_map, List.countP_eq_length_filter]
      rfl
    rw [hcount]
    exact List.nodup_iff_count_le_one.mp h name
  simp [record?, honce]

/-- A record with no names but these is left as it is. -/
theorem closedRecord?_of_nodup (h : (Listing.names fields).Nodup) :
    closedRecord? names (.object fields) =
      if (Listing.names fields).all names.contains then some fields else none := by
  rw [closedRecord?, record?_of_nodup h, Listing.names, List.all_map]
  rfl

end Value

namespace Layer

variable {α : Type} {base : Fields} {names : List String} {default : α}

theorem all_names_layered {p : String → Bool} (hbase : (Listing.names base).all p = true)
    (fields : Fields) :
    (Listing.names (layered base fields)).all p = (Listing.names fields).all p := by
  rw [names_layered, List.all_append, hbase, Bool.true_and, Bool.eq_iff_iff, List.all_eq_true,
    List.all_eq_true]
  constructor
  · intro h name hname
    by_cases hbound : base.any (·.1 == name) = true
    · obtain ⟨field, hfield, heq⟩ := List.any_eq_true.mp hbound
      obtain rfl := eq_of_beq heq
      exact List.all_eq_true.mp hbase _ (List.mem_map_of_mem hfield)
    · have hnew : base.any (·.1 == name) = false := Bool.eq_false_of_not_eq_true hbound
      exact h name (List.mem_filter.mpr ⟨hname, by rw [hnew, Bool.not_false]⟩)
  · intro h name hname
    exact h name (List.mem_filter.mp hname).1

/-- A layer of fields stands for a record if it does so field by field. -/
theorem StandsFor.record {build : Fields → Option α} (hnodup : (Listing.names base).Nodup)
    (hnames : (Listing.names base).all names.contains = true) (hdefault : build base = some default)
    (hbuild : ∀ fields : Fields, (Value.object fields).NamesOnce →
      build (layered base fields) = build fields) :
    StandsFor (.object base) (fun v => (v.closedRecord? names).bind build) default where
  read_layer := by
    rw [Value.closedRecord?_of_nodup hnodup, if_pos hnames]
    exact hdefault
  read_merge := by
    intro v hv
    cases htable : v.isTable with
    | false => rw [merge_eq_overlay (.inr htable)]
    | true =>
      obtain ⟨fields, rfl⟩ := Value.isTable_iff.mp htable
      rw [merge_object, Value.closedRecord?_of_nodup (nodup_names_layered hnodup hv.nodup),
        Value.closedRecord?_of_nodup hv.nodup, all_names_layered hnames]
      split
      · exact hbuild fields hv
      · rfl

end Layer

namespace Config

open Layer

theorem supplies_common : Supplies builtin "common" common? {} := by
  refine ⟨_, rfl, .record (by decide) (by decide) (by decide) fun fields hfields => ?_⟩
  simp (disch := first | exact hfields | exact supplies_leaf rfl rfl rfl) only [withDefault_layered]

theorem supplies_trial : Supplies builtin "interpreter" trial? {} := by
  refine ⟨_, rfl, .record (by decide) (by decide) (by decide) fun fields hfields => ?_⟩
  simp (disch := first | exact hfields | exact supplies_leaf rfl rfl rfl) only [withDefault_layered]

theorem supplies_cluster : Supplies builtin "cluster" cluster? {} := by
  refine ⟨_, rfl, .record (by decide) (by decide) (by decide) fun fields hfields => ?_⟩
  simp (disch := first | exact hfields | exact supplies_leaf rfl rfl rfl) only [withDefault_layered]

/-- The address has no default, and no layer. -/
theorem supplies_corpus : Supplies builtin "generator" corpus? {} := by
  refine ⟨_, rfl, .record (by decide) (by decide) (by decide) fun fields hfields => ?_⟩
  simp (disch := first | exact hfields | exact supplies_leaf rfl rfl rfl | decide) only
    [withDefault_layered, nullable_layered]

theorem standsFor_builtin : StandsFor builtin ofValue? {} := by
  refine .record (by decide) (by decide) ?_ fun fields hfields => ?_
  · rfl
  · simp only [withDefault_layered supplies_common hfields,
      withDefault_layered supplies_trial hfields, withDefault_layered supplies_cluster hfields,
      withDefault_layered supplies_corpus hfields]

theorem ofTable_merge_builtin {table : Value} (h : table.NamesOnce) :
    ofTable (merge builtin table) = ofTable table := by
  rw [ofTable, ofTable, standsFor_builtin.read_merge table h]

theorem namesOnce_readTable {t : FileTree} {path : String} {table : Value}
    (h : readTable t path = .ok table) : table.NamesOnce := by
  unfold readTable at h
  split at h
  · cases h
  · split at h
    · next hparse =>
      cases h
      exact (Toml.namesOnce_of_parse? hparse).2
    · cases h

/-- The built-in layer alone is the default configuration, and a table that is laid over it gives
the configuration that the table alone does, or fails as it does. So where there is no user's file,
loading a file over the built-in layer is reading that file alone. -/
theorem builtin_holds_defaults :
    ofTable builtin = .ok {} ∧
      (∀ table : Value, table.NamesOnce → ofTable (merge builtin table) = ofTable table) ∧
      ∀ t places path, userFile? t places = none →
        load t places (some path) = readTable t path >>= ofTable := by
  refine ⟨?_, fun table => ofTable_merge_builtin, fun t places path huser => ?_⟩
  · rw [ofTable, standsFor_builtin.read_layer]
  · rw [load, layerFiles, huser]
    cases hread : readTable t path with
    | error e => simp [hread, bind, Except.bind]
    | ok table =>
      have honce := namesOnce_readTable hread
      simpa [hread, bind, Except.bind, pure, Except.pure] using ofTable_merge_builtin honce

/-- A section that is written as a list of its first settings, and one setting of another. -/
theorem builtin_holds_defaults_two_sections :
    let text := "common=[\"2.0\"]\ncluster=\x7bpods=[\"p\"]\x7d"
    let table : Value := .object [
      ("common", .list [.string "2.0"]), ("cluster", .object [("pods", .list [.string "p"])])]
    let t : FileTree := { files := [(["c.toml"], text)] }
    table.NamesOnce ∧ userFile? t {} = none ∧
      ofTable (merge builtin table) = ofTable table ∧
      load t {} (some "c.toml") =
        .ok { common := { version := "2.0" }, cluster := { pods := ["p"] } } := by
  intro text table t
  have hparse : Toml.parse? text = some table := by cbv
  have hfound : t.read? "c.toml" = some text := by decide
  have hread : readTable t "c.toml" = .ok table := by simp only [readTable, hfound, hparse]
  have honce := namesOnce_readTable hread
  have huser : userFile? t {} = none := rfl
  obtain ⟨-, htables, hfiles⟩ := builtin_holds_defaults
  refine ⟨honce, huser, htables table honce, ?_⟩
  rw [hfiles t {} "c.toml" huser, hread]
  rfl

end Config
end PodTraffic
