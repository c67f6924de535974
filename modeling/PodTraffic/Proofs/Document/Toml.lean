import PodTraffic.Document.Toml
import PodTraffic.Proofs.SortedMap

/-!
# Tables bind names once

A table that is read from TOML text binds no name twice, and neither do the tables in it: whatever
opens a table or binds a name in one keeps the names apart.
-/
namespace PodTraffic

namespace Value

def isTable : Value → Bool
  | .object _ => true
  | _ => false

theorem isTable_iff {v : Value} : v.isTable = true ↔ ∃ fields, v = .object fields := by
  cases v <;> simp [isTable]

/-- No table binds a name twice, from this value down to the first ones that are no tables. -/
inductive NamesOnce : Value → Prop
  | leaf {v : Value} (h : v.isTable = false) : NamesOnce v
  | table {fields : Fields} (names : (Listing.names fields).Nodup)
      (values : ∀ field ∈ fields, NamesOnce field.2) : NamesOnce (.object fields)

theorem NamesOnce.nodup {fields : Fields} (h : NamesOnce (.object fields)) :
    (Listing.names fields).Nodup := by
  cases h with
  | leaf h => cases h
  | table names _ => exact names

theorem NamesOnce.field {fields : Fields} (h : NamesOnce (.object fields)) {field : String × Value}
    (hfield : field ∈ fields) : field.2.NamesOnce := by
  cases h with
  | leaf h => cases h
  | table _ values => exact values field hfield

end Value

namespace Toml

/-- As of values. A list of tables counts as a whole. -/
inductive Item.NamesOnce : Item → Prop
  | value {v : Value} (h : v.NamesOnce) : NamesOnce (.value v)
  | table {origin : Origin} {fields : Items} (names : (Listing.names fields).Nodup)
      (items : ∀ field ∈ fields, NamesOnce field.2) : NamesOnce (.table origin fields)
  | tables {latest : Items} {earlier : List Items} : NamesOnce (.tables latest earlier)

structure Items.NamesOnce (fields : Items) : Prop where
  names : (Listing.names fields).Nodup
  items : ∀ field ∈ fields, field.2.NamesOnce

theorem fieldsToValue_eq_map (fields : Items) :
    fieldsToValue fields = fields.map fun field => (field.1, field.2.toValue) := by
  induction fields with
  | nil => rfl
  | cons field rest ih => rw [fieldsToValue, ih, List.map_cons]

theorem Item.NamesOnce.toValue {item : Item} (h : item.NamesOnce) : item.toValue.NamesOnce := by
  induction h with
  | value h => exact h
  | tables => exact .leaf rfl
  | @table origin fields names items ih =>
    rw [Item.toValue, fieldsToValue_eq_map]
    refine .table (by simpa [Listing.names, Function.comp_def] using names) fun field hfield => ?_
    obtain ⟨inner, hinner, rfl⟩ := List.mem_map.mp hfield
    exact ih inner hinner

namespace Items.NamesOnce

variable {fields result : Items} {item : Item} {name : String} {path : List String}

theorem nil : NamesOnce ([] : Items) := ⟨.nil, nofun⟩

theorem toTable (h : NamesOnce fields) (origin : Origin) : (Item.table origin fields).NamesOnce :=
  .table h.names h.items

theorem of_table {origin : Origin} (h : (Item.table origin fields).NamesOnce) :
    NamesOnce fields := by
  cases h with
  | table names items => exact ⟨names, items⟩

theorem toValue (h : NamesOnce fields) : (Value.object (fieldsToValue fields)).NamesOnce :=
  (h.toTable .header).toValue

theorem put (h : NamesOnce fields) (name : String) (hitem : item.NamesOnce) :
    NamesOnce (Listing.put fields name item) where
  names := Listing.nodup_names_put h.names name item
  items := by
    intro field hfield
    rcases Listing.mem_put.mp hfield with rfl | ⟨-, hfield⟩
    · exact hitem
    · exact h.items field hfield

theorem of_lookup (h : NamesOnce fields) (hlookup : fields.lookup name = some item) :
    item.NamesOnce :=
  h.items (name, item) ((SortedMap.lookup_eq_some_iff_mem h.names).mp hlookup)

/-- A table on the way is bound again with what was made of its inside. -/
theorem put_of_bind {inside : Option Items} {make : Items → Item} (h : NamesOnce fields)
    (hresult : ((inside.map make).bind fun item => pure (Listing.put fields name item)) =
      some result) (hmake : ∀ inner, inside = some inner → (make inner).NamesOnce) :
    NamesOnce result := by
  obtain ⟨item, hitem, hresult⟩ := Option.bind_eq_some_iff.mp hresult
  obtain ⟨inner, hinner, rfl⟩ := Option.map_eq_some_iff.mp hitem
  obtain rfl := Option.some.inj hresult
  exact h.put name (hmake inner hinner)

theorem within {change : Items → Option Items}
    (hchange : ∀ fields result, NamesOnce fields → change fields = some result → NamesOnce result)
    (h : NamesOnce fields) (hwithin : within change path fields = some result) :
    NamesOnce result := by
  induction path generalizing fields result with
  | nil => exact hchange fields result h hwithin
  | cons next path ih =>
    rw [Toml.within] at hwithin
    split at hwithin
    · exact h.put_of_bind hwithin fun inner hinner => (ih nil hinner).toTable _
    · cases hwithin
    · next hlookup =>
      have hinside := of_table (h.of_lookup hlookup)
      exact h.put_of_bind hwithin fun inner hinner => (ih hinside hinner).toTable _
    · exact h.put_of_bind hwithin fun inner _ => .tables

theorem openTable (h : NamesOnce fields) (hopen : openTable name fields = some result) :
    NamesOnce result := by
  unfold Toml.openTable at hopen
  split at hopen
  · obtain rfl := Option.some.inj hopen
    exact h.put name (nil.toTable _)
  · next hlookup =>
    obtain rfl := Option.some.inj hopen
    exact h.put name ((of_table (h.of_lookup hlookup)).toTable _)
  · cases hopen

theorem openNext (h : NamesOnce fields) (hopen : openNext name fields = some result) :
    NamesOnce result := by
  unfold Toml.openNext at hopen
  split at hopen
  · obtain rfl := Option.some.inj hopen
    exact h.put name .tables
  · obtain rfl := Option.some.inj hopen
    exact h.put name .tables
  · cases hopen

theorem bind {v : Value} (hv : v.NamesOnce) {fits : Bool} (h : NamesOnce fields)
    (hbind : bind name v path fits fields = some result) : NamesOnce result := by
  induction path generalizing fits fields result with
  | nil =>
    rw [Toml.bind] at hbind
    split at hbind
    · cases hbind
    · obtain rfl := Option.some.inj hbind
      exact h.put name (.value hv)
  | cons next path ih =>
    rw [Toml.bind] at hbind
    split at hbind
    · exact h.put_of_bind hbind fun inner hinner => (ih nil hinner).toTable _
    · cases hbind
    · cases hbind
    · next hlookup =>
      have hinside := of_table (h.of_lookup hlookup)
      exact h.put_of_bind hbind fun inner hinner => (ih hinside hinner).toTable _
    · next hlookup =>
      have hinside := of_table (h.of_lookup hlookup)
      exact h.put_of_bind hbind fun inner hinner => (ih hinside hinner).toTable _
    · exact h.put_of_bind hbind fun inner _ => .tables

theorem bindPath {v : Value} (hv : v.NamesOnce) (h : NamesOnce fields)
    (hbind : bindPath path v fields = some result) : NamesOnce result := by
  rw [Toml.bindPath, Option.bind_eq_bind, Option.bind_eq_some_iff] at hbind
  obtain ⟨name, -, hbind⟩ := hbind
  exact h.bind hv hbind

end Items.NamesOnce

section Scalars

variable {negative : Bool} {cs : List Char} {v : Value}

theorem isTable_withinLong {n : Int} (h : withinLong n = some v) : v.isTable = false := by
  unfold withinLong at h
  split at h
  · obtain rfl := Option.some.inj h
    rfl
  · cases h

theorem isTable_radixNumber? {radix : Nat} (h : radixNumber? radix cs = some v) :
    v.isTable = false := by
  unfold radixNumber? at h
  simp only [Option.bind_eq_bind] at h
  split at h
  · cases h
  · obtain ⟨n, -, hn⟩ := Option.bind_eq_some_iff.mp h
    exact isTable_withinLong hn

theorem isTable_decimal? (h : decimal? negative cs = some v) : v.isTable = false := by
  unfold decimal? at h
  simp only [Option.bind_eq_bind] at h
  split at h
  · cases h
  · split at h
    · split at h
      · cases h
      · obtain ⟨n, -, hn⟩ := Option.bind_eq_some_iff.mp h
        exact isTable_withinLong hn
    · obtain ⟨n, -, hn⟩ := Option.bind_eq_some_iff.mp h
      split at hn
      · obtain rfl := Option.some.inj hn
        rfl
      · split at hn
        · obtain rfl := Option.some.inj hn
          rfl
        · cases hn

theorem isTable_signed? (h : signed? negative cs = some v) : v.isTable = false := by
  unfold signed? at h
  split at h
  · obtain rfl := Option.some.inj h
    rfl
  · split at h
    · obtain rfl := Option.some.inj h
      rfl
    · exact isTable_decimal? h

theorem isTable_plain? (h : plain? cs = some v) : v.isTable = false := by
  unfold plain? at h
  split at h
  · exact isTable_signed? h
  · exact isTable_signed? h
  · exact isTable_radixNumber? h
  · exact isTable_radixNumber? h
  · exact isTable_radixNumber? h
  · split at h
    · obtain rfl := Option.some.inj h
      rfl
    · split at h
      · obtain rfl := Option.some.inj h
        rfl
      · exact isTable_signed? h

theorem isTable_readPlain {rest : List Char} (h : readPlain cs = some (v, rest)) :
    v.isTable = false := by
  unfold readPlain at h
  split at h
  · obtain ⟨rfl, -⟩ := Prod.mk.inj (Option.some.inj h)
    rfl
  · obtain ⟨w, hw, heq⟩ := Option.map_eq_some_iff.mp h
    obtain ⟨rfl, -⟩ := Prod.mk.inj heq
    exact isTable_plain? hw

end Scalars

/-- A reader of values whose tables bind names once. -/
def ReadsOnce (read : Reader Value) : Prop := ∀ cs v rest, read cs = some (v, rest) → v.NamesOnce

theorem ReadsOnce.readBinding {read : Reader Value} (hread : ReadsOnce read) {cs rest : List Char}
    {path : List String} {v : Value} (h : readBinding read cs = some ((path, v), rest)) :
    v.NamesOnce := by
  rw [Toml.readBinding, Option.bind_eq_bind, Option.bind_eq_some_iff] at h
  obtain ⟨⟨names, cs'⟩, -, h⟩ := h
  simp only [] at h
  split at h
  · obtain ⟨⟨w, cs''⟩, hw, heq⟩ := Option.bind_eq_some_iff.mp h
    obtain ⟨hbound, -⟩ := Prod.mk.inj (Option.some.inj heq)
    obtain ⟨-, rfl⟩ := Prod.mk.inj hbound
    exact hread _ _ _ hw
  · cases h

theorem ReadsOnce.readBindings {read : Reader Value} (hread : ReadsOnce read) {fuel : Nat}
    {fields result : Items} {cs rest : List Char} (hfields : fields.NamesOnce)
    (h : readBindings read fuel fields cs = some (result, rest)) : result.NamesOnce := by
  induction fuel generalizing fields cs with
  | zero => cases h
  | succ fuel ih =>
    rw [Toml.readBindings, Option.bind_eq_bind, Option.bind_eq_some_iff] at h
    obtain ⟨⟨⟨path, v⟩, cs'⟩, hbinding, h⟩ := h
    obtain ⟨bound, hbound, h⟩ := Option.bind_eq_some_iff.mp h
    have honce := hfields.bindPath (hread.readBinding hbinding) hbound
    split at h
    · exact ih honce h
    · obtain ⟨rfl, -⟩ := Prod.mk.inj (Option.some.inj h)
      exact honce
    · cases h

/-- A value within one more list or table. -/
theorem ReadsOnce.succ {depth : Nat} (hread : ReadsOnce (readValue depth)) :
    ReadsOnce (readValue (depth + 1)) := by
  intro cs v rest h
  unfold readValue at h
  split at h
  · cases h
  · next heq =>
    obtain rfl := Nat.succ.inj heq
    dsimp only at h
    split at h
    · cases h
    · obtain ⟨⟨items, rest'⟩, -, hlist⟩ := Option.bind_eq_some_iff.mp h
      obtain ⟨rfl, -⟩ := Prod.mk.inj (Option.some.inj hlist)
      exact .leaf rfl
  · next heq =>
    obtain rfl := Nat.succ.inj heq
    dsimp only at h
    split at h
    · cases h
    · split at h
      · obtain ⟨rfl, -⟩ := Prod.mk.inj (Option.some.inj h)
        exact .table .nil nofun
      · obtain ⟨⟨fields, rest'⟩, hfields, htable⟩ := Option.bind_eq_some_iff.mp h
        obtain ⟨rfl, -⟩ := Prod.mk.inj (Option.some.inj htable)
        exact (hread.readBindings .nil hfields).toValue
  · obtain ⟨⟨text, rest'⟩, -, htext⟩ := Option.map_eq_some_iff.mp h
    obtain ⟨rfl, -⟩ := Prod.mk.inj htext
    exact .leaf rfl
  · obtain ⟨⟨text, rest'⟩, -, htext⟩ := Option.map_eq_some_iff.mp h
    obtain ⟨rfl, -⟩ := Prod.mk.inj htext
    exact .leaf rfl
  · exact .leaf (isTable_readPlain h)

theorem readsOnce_readValue (depth : Nat) : ReadsOnce (readValue depth) := by
  induction depth with
  | zero =>
    intro cs v rest h
    cases h
  | succ depth ih => exact ih.succ

theorem root_open {r r' : Reading} {openAt : String → Items → Option Items} {path : List String}
    (hopen : ∀ name fields result, Items.NamesOnce fields → openAt name fields = some result →
      Items.NamesOnce result)
    (hr : Items.NamesOnce r.root) (h : r.open openAt path = some r') :
    Items.NamesOnce r'.root := by
  obtain ⟨name, -, h⟩ := Option.bind_eq_some_iff.mp h
  obtain ⟨root, hroot, heq⟩ := Option.bind_eq_some_iff.mp h
  obtain rfl := Option.some.inj heq
  exact hr.within (hopen name) hroot

theorem root_readLine {r r' : Reading} {cs rest : List Char} (hr : Items.NamesOnce r.root)
    (h : readLine r cs = some (r', rest)) : Items.NamesOnce r'.root := by
  unfold readLine at h
  split at h
  · obtain ⟨⟨path, cs'⟩, -, h⟩ := Option.bind_eq_some_iff.mp h
    split at h
    · obtain ⟨opened, hopened, h⟩ := Option.bind_eq_some_iff.mp h
      obtain ⟨cs'', -, heq⟩ := Option.bind_eq_some_iff.mp h
      obtain ⟨rfl, -⟩ := Prod.mk.inj (Option.some.inj heq)
      exact root_open (fun _ _ _ => Items.NamesOnce.openNext) hr hopened
    · cases h
  · obtain ⟨⟨path, cs'⟩, -, h⟩ := Option.bind_eq_some_iff.mp h
    split at h
    · obtain ⟨opened, hopened, h⟩ := Option.bind_eq_some_iff.mp h
      obtain ⟨cs'', -, heq⟩ := Option.bind_eq_some_iff.mp h
      obtain ⟨rfl, -⟩ := Prod.mk.inj (Option.some.inj heq)
      exact root_open (fun _ _ _ => Items.NamesOnce.openTable) hr hopened
    · cases h
  · obtain ⟨⟨⟨path, v⟩, cs'⟩, hbinding, h⟩ := Option.bind_eq_some_iff.mp h
    obtain ⟨root, hroot, h⟩ := Option.bind_eq_some_iff.mp h
    obtain ⟨cs'', -, heq⟩ := Option.bind_eq_some_iff.mp h
    obtain ⟨rfl, -⟩ := Prod.mk.inj (Option.some.inj heq)
    have hv := (readsOnce_readValue depthLimit).readBinding hbinding
    exact hr.within (fun _ _ hfields => hfields.bindPath hv) hroot

theorem namesOnce_readLines {fuel : Nat} {r : Reading} {cs : List Char} {fields : Items}
    (hr : Items.NamesOnce r.root) (h : readLines fuel r cs = some fields) :
    Items.NamesOnce fields := by
  induction fuel generalizing r cs with
  | zero => cases h
  | succ fuel ih =>
    rw [readLines, Option.bind_eq_bind, Option.bind_eq_some_iff] at h
    obtain ⟨cs', -, h⟩ := h
    split at h
    · obtain rfl := Option.some.inj h
      exact hr
    · obtain ⟨⟨r', cs''⟩, hline, h⟩ := Option.bind_eq_some_iff.mp h
      exact ih (root_readLine hr hline) h

/-- What a text holds is a table that binds names once, as do the tables in it. -/
theorem namesOnce_of_parse? {text : String} {v : Value} (h : parse? text = some v) :
    v.isTable = true ∧ v.NamesOnce := by
  obtain ⟨fields, hfields, heq⟩ := Option.bind_eq_some_iff.mp h
  obtain rfl := Option.some.inj heq
  exact ⟨rfl, (namesOnce_readLines .nil hfields).toValue⟩

end Toml
end PodTraffic
