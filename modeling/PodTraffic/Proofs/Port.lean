import Mathlib.Tactic
import PodTraffic.Port
import PodTraffic.Proofs.Ordered

/-!
# What port matchers let through

Union and difference are described by the queries that their results allow: a union allows what one
of both allows, and a difference leaves out nothing that the other matcher does not allow. What is
left of a matcher is its own entries and ranges in their order, and taking the same away again
changes nothing. Protocols are read in any letter case.
-/
namespace PodTraffic

namespace Protocol

theorem isUpper_iff {d : Char} : d.isUpper = true ↔ 65 ≤ d.val ∧ d.val ≤ 90 := by
  change decide (65 ≤ d.val ∧ d.val ≤ 90) = true ↔ _
  rw [decide_eq_true_eq]

theorem bounds_of_isUpper {d : Char} (hd : d.isUpper = true) : 65 ≤ d.toNat ∧ d.toNat ≤ 90 := by
  simpa [UInt32.le_iff_toNat_le] using isUpper_iff.mp hd

theorem toNat_toLower {d : Char} (hd : d.isUpper = true) : d.toLower.toNat = d.toNat + 32 := by
  have hbounds := bounds_of_isUpper hd
  have hlower : d.toLower.val = d.val + 32 := congrArg Char.val (dif_pos (isUpper_iff.mp hd))
  change d.toLower.val.toNat = d.val.toNat + 32
  rw [hlower, UInt32.toNat_add]
  change (d.toNat + 32) % 2 ^ 32 = d.toNat + 32
  omega

theorem upper_eq_iff {c d : Char} (hd : d.isUpper = true) :
    upper c = d ↔ c = d ∨ c = d.toLower := by
  have hbounds := bounds_of_isUpper hd
  rw [← Char.toNat_inj, ← Char.toNat_inj, ← Char.toNat_inj, toNat_toLower hd]
  unfold upper
  split
  · next h =>
    have hc : 97 ≤ c.toNat ∧ c.toNat ≤ 122 := by
      simpa [Char.le_def, UInt32.le_iff_toNat_le] using h
    have hvalid : (c.toNat - 32).isValidChar := .inl (by omega)
    have hsmall : (Char.ofNat (c.toNat - 32)).toNat = c.toNat - 32 := by
      rw [Char.ofNat, dif_pos hvalid]
      rfl
    omega
  · next h =>
    have hc : ¬ (97 ≤ c.toNat ∧ c.toNat ≤ 122) := by
      simpa [Char.le_def, UInt32.le_iff_toNat_le] using h
    omega

/-- The text has the letters of the name, each as a capital or as a small one. -/
def Spelled (p : Protocol) (s : String) : Prop :=
  List.Forall₂ (fun c d => c = d ∨ c = d.toLower) s.toList p.name.toList

theorem map_upper_eq_iff {cs ds : List Char} (hds : ∀ d ∈ ds, d.isUpper = true) :
    cs.map upper = ds ↔ List.Forall₂ (fun c d => c = d ∨ c = d.toLower) cs ds := by
  induction cs generalizing ds with
  | nil => simp [eq_comm]
  | cons c cs ih =>
    cases ds with
    | nil => simp
    | cons d ds =>
      rw [List.forall_mem_cons] at hds
      rw [List.map_cons, List.cons.injEq, List.forall₂_cons, upper_eq_iff hds.1, ih hds.2]

theorem isUpper_of_mem_name (p : Protocol) : ∀ d ∈ p.name.toList, d.isUpper = true := by
  cases p <;> simp [name, isUpper_iff]

theorem ofName?_eq_some_iff {s : String} {p : Protocol} : ofName? s = some p ↔ p.name = s := by
  constructor
  · intro h
    have hname : (p.name == s) = true := by
      unfold ofName? at h
      simpa using List.find?_some h
    exact beq_iff_eq.mp hname
  · rintro rfl
    cases p <;> decide

theorem read?_eq_some_iff {s : String} {p : Protocol} : read? s = some p ↔ p.Spelled s := by
  rw [read?, ofName?_eq_some_iff, Spelled, ← map_upper_eq_iff p.isUpper_of_mem_name,
    ← String.toList_inj, String.toList_ofList, eq_comm]

theorem read?_name (p : Protocol) : read? p.name = some p := by
  cases p <;> decide

end Protocol

instance : Std.LawfulEqOrd PortValue where
  eq_of_compare := by
    intro a b h
    change compareLex (compareOn PortValue.isNumber)
      (compareLex (compareOn PortValue.nameText) (compareOn PortValue.value)) a b = .eq at h
    simp only [Ordered.compareLex_eq_iff, Ordered.compareOn_eq_iff] at h
    cases a <;> cases b <;> simp_all [PortValue.isNumber, PortValue.nameText, PortValue.value]

instance : Std.LawfulEqOrd PortEntry where
  eq_of_compare := by
    intro a b h
    change compareLex (compareOn PortEntry.port) (compareOn PortEntry.protocol) a b = .eq at h
    simp only [Ordered.compareLex_eq_iff, Ordered.compareOn_eq_iff] at h
    cases a
    cases b
    simp_all

instance : Std.LawfulEqOrd PortRange where
  eq_of_compare := by
    intro a b h
    change compareLex (compareOn PortRange.first)
      (compareLex (compareOn PortRange.last) (compareOn PortRange.protocol)) a b = .eq at h
    simp only [Ordered.compareLex_eq_iff, Ordered.compareOn_eq_iff] at h
    cases a
    cases b
    simp_all

namespace PortMatcher

theorem allows_specific (ports : List PortEntry) (ranges : List PortRange) (q : PortQuery) :
    (specific ports ranges).allows q = true ↔
      (∃ e ∈ ports, e.allows q = true) ∨ ∃ r ∈ ranges, r.holds q.number q.protocol = true := by
  simp [allows]

theorem allows_ofEntries (ports : List PortEntry) (ranges : List PortRange) (q : PortQuery) :
    (ofEntries ports ranges).allows q = (specific ports ranges).allows q := by
  rw [Bool.eq_iff_iff, ofEntries, allows_specific, allows_specific]
  simp only [Ordered.mem_distinct]

theorem allows_union (a b : PortMatcher) (q : PortQuery) :
    (a.union b).allows q = (a.allows q || b.allows q) := by
  cases a with
  | all => rfl
  | specific ports ranges =>
    cases b with
    | all => simp [union, allows]
    | specific ports' ranges' =>
      rw [union, allows_ofEntries]
      simp only [allows, List.any_append]
      cases ports.any (·.allows q) <;> cases ports'.any (·.allows q) <;> simp

/-- A query that a covered entry allows is allowed by what covers it. -/
theorem allows_of_coversEntry (ports : List PortEntry) (ranges : List PortRange) {e : PortEntry}
    {q : PortQuery} (h : coversEntry ports ranges e = true) (he : e.allows q = true) :
    (specific ports ranges).allows q = true := by
  rw [allows_specific]
  simp only [PortEntry.allows, Bool.and_eq_true, beq_iff_eq] at he
  rw [coversEntry, Bool.or_eq_true, List.any_eq_true] at h
  rcases h with ⟨p, hp, hcover⟩ | hrange
  · refine .inl ⟨p, hp, ?_⟩
    simp only [Bool.or_eq_true, Bool.and_eq_true, beq_iff_eq, Option.isNone_iff_eq_none] at hcover
    rcases hcover with rfl | ⟨hport, hprotocol⟩
    · simpa [PortEntry.allows] using he
    · simp [PortEntry.allows, hport, hprotocol, he.1]
  · cases hport : e.port with
    | none => simp [hport] at hrange
    | some v =>
      cases v with
      | name s => simp [hport] at hrange
      | number n =>
        simp only [hport, List.any_eq_true] at hrange
        obtain ⟨r, hr, hholds⟩ := hrange
        simp only [hport, beq_iff_eq] at he
        exact .inr ⟨r, hr, by rwa [← he.1, ← he.2]⟩

theorem allows_of_coversRange (ports : List PortEntry) (ranges : List PortRange) {r : PortRange}
    {q : PortQuery} (h : coversRange ports ranges r = true)
    (hr : r.holds q.number q.protocol = true) : (specific ports ranges).allows q = true := by
  rw [allows_specific]
  simp only [PortRange.holds, Bool.and_eq_true, beq_iff_eq, decide_eq_true_eq] at hr
  rw [coversRange, Bool.or_eq_true, List.any_eq_true, List.any_eq_true] at h
  rcases h with ⟨p, hp, hcover⟩ | ⟨s, hs, hcover⟩
  · refine .inl ⟨p, hp, ?_⟩
    simp only [Bool.and_eq_true, beq_iff_eq, Option.isNone_iff_eq_none] at hcover
    simp [PortEntry.allows, hcover.1, hcover.2, hr.1.1]
  · refine .inr ⟨s, hs, ?_⟩
    simp only [PortRange.covers, Bool.and_eq_true, beq_iff_eq, decide_eq_true_eq] at hcover
    simp only [PortRange.holds, Bool.and_eq_true, beq_iff_eq, decide_eq_true_eq]
    exact ⟨⟨hcover.1.1.trans hr.1.1, by omega⟩, by omega⟩

theorem any_or_allows_filter {α : Type} (xs : List α) (holds : α → Bool) {covered : α → Bool}
    {rest : Bool} (h : ∀ x ∈ xs, covered x = true → holds x = true → rest = true) :
    ((xs.filter fun x => !covered x).any holds || rest) = (xs.any holds || rest) := by
  rw [Bool.eq_iff_iff]
  simp only [Bool.or_eq_true, List.any_eq_true, List.mem_filter, Bool.not_eq_true']
  constructor
  · intro h
    rcases h with ⟨x, ⟨hx, -⟩, hholds⟩ | hrest
    · exact .inl ⟨x, hx, hholds⟩
    · exact .inr hrest
  · intro h
    rcases h with ⟨x, hx, hholds⟩ | hrest
    · cases hc : covered x with
      | false => exact .inl ⟨x, ⟨hx, hc⟩, hholds⟩
      | true => exact .inr (h x hx hc hholds)
    · exact .inr hrest

theorem or_or_eq {a a' b b' rest : Bool} (ha : (a' || rest) = (a || rest))
    (hb : (b' || rest) = (b || rest)) : ((a' || b') || rest) = ((a || b) || rest) := by
  cases rest with
  | true => simp
  | false =>
    simp only [Bool.or_false] at ha hb ⊢
    rw [ha, hb]

/-- With `b` open, taking `b` away from `a` changes no answer. -/
theorem allows_subtract (a b : PortMatcher) (q : PortQuery) :
    ((a.subtract b).any (·.allows q) || b.allows q) = (a.allows q || b.allows q) := by
  cases b with
  | all => simp [allows]
  | specific ports' ranges' =>
    cases a with
    | all => simp [subtract, allows]
    | specific ports ranges =>
      have hports := any_or_allows_filter ports (·.allows q)
        fun e _ hcover hallows => allows_of_coversEntry ports' ranges' hcover hallows
      have hranges := any_or_allows_filter ranges (·.holds q.number q.protocol)
        fun r _ hcover hholds => allows_of_coversRange ports' ranges' hcover hholds
      have hremainder : (subtract (specific ports ranges) (specific ports' ranges')).any
            (·.allows q) =
          (specific (ports.filter fun e => !coversEntry ports' ranges' e)
            (ranges.filter fun r => !coversRange ports' ranges' r)).allows q := by
        rw [subtract]
        split
        · next hempty =>
          simp only [Bool.and_eq_true, List.isEmpty_iff] at hempty
          simp [allows, hempty.1, hempty.2]
        · rfl
      rw [hremainder]
      exact or_or_eq hports hranges

variable {a b r : PortMatcher}

/-- Something is left of everything, or of entries and ranges that are not all covered. -/
theorem subtract_eq_some (h : a.subtract b = some r) :
    ∃ ports' ranges', b = specific ports' ranges' ∧
      (a = all ∧ r = all ∨ ∃ ports ranges, a = specific ports ranges ∧
        r = specific (ports.filter fun e => !coversEntry ports' ranges' e)
          (ranges.filter fun s => !coversRange ports' ranges' s)) := by
  cases b with
  | all => cases a <;> cases h
  | specific ports' ranges' =>
    refine ⟨ports', ranges', rfl, ?_⟩
    cases a with
    | all =>
      cases h
      exact .inl ⟨rfl, rfl⟩
    | specific ports ranges =>
      rw [subtract] at h
      split at h
      · cases h
      · cases h
        exact .inr ⟨ports, ranges, rfl, rfl⟩

/-- What is left allows nothing that was not allowed before. -/
theorem allows_of_subtract (h : a.subtract b = some r) {q : PortQuery} (hq : r.allows q = true) :
    a.allows q = true := by
  obtain ⟨ports', ranges', -, ⟨rfl, -⟩ | ⟨ports, ranges, rfl, rfl⟩⟩ := subtract_eq_some h
  · rfl
  · rw [allows_specific] at hq ⊢
    rcases hq with ⟨e, he, hallows⟩ | ⟨s, hs, hholds⟩
    · exact .inl ⟨e, List.mem_of_mem_filter he, hallows⟩
    · exact .inr ⟨s, List.mem_of_mem_filter hs, hholds⟩

/-- Nothing that is left is covered, so nothing more can be taken away. -/
theorem subtract_subtract (h : a.subtract b = some r) : r.subtract b = some r := by
  obtain ⟨ports', ranges', rfl, ⟨rfl, rfl⟩ | ⟨ports, ranges, rfl, rfl⟩⟩ := subtract_eq_some h
  · rfl
  · -- The second difference filters by the same tests, and is empty only if the first one is.
    have hagain : (specific (ports.filter fun e => !coversEntry ports' ranges' e)
        (ranges.filter fun s => !coversRange ports' ranges' s)).subtract (specific ports' ranges') =
          (specific ports ranges).subtract (specific ports' ranges') := by
      simp only [subtract, List.filter_filter, Bool.and_self]
    rw [hagain, h]

/-- What `b` leaves of `a`. -/
structure Remains (a b r : PortMatcher) : Prop where
  allowed : ∀ q, r.allows q = true → a.allows q = true
  /-- Only queries that `b` allows are given up. -/
  missed : ∀ q, a.allows q = true → b.allows q = false → r.allows q = true
  joined : ∀ q, r.allows q = true ∨ b.allows q = true ↔ a.allows q = true ∨ b.allows q = true
  settled : r.subtract b = some r
  sublists : ∀ ports ranges, a = specific ports ranges → ∃ ports' ranges',
    r = specific ports' ranges' ∧ ports'.Sublist ports ∧ ranges'.Sublist ranges

theorem joined_of_subtract (h : a.subtract b = some r) (q : PortQuery) :
    r.allows q = true ∨ b.allows q = true ↔ a.allows q = true ∨ b.allows q = true := by
  have hjoined := allows_subtract a b q
  rw [h, Option.any_some] at hjoined
  rw [← Bool.or_eq_true, ← Bool.or_eq_true, hjoined]

theorem remains_of_subtract (h : a.subtract b = some r) : Remains a b r where
  allowed _ hq := allows_of_subtract h hq
  missed := by
    intro q ha hb
    refine ((joined_of_subtract h q).mpr (.inl ha)).resolve_right ?_
    simp [hb]
  joined := joined_of_subtract h
  settled := subtract_subtract h
  sublists := by
    intro ports ranges ha
    obtain ⟨ports', ranges', -, ⟨rfl, -⟩ | ⟨_, _, rfl, rfl⟩⟩ := subtract_eq_some h
    · cases ha
    · cases ha
      exact ⟨_, _, rfl, List.filter_sublist, List.filter_sublist⟩

/-- A difference gives up only what the other matcher allows: if nothing is left, that one allows
everything; and what is left, if anything is, remains. -/
theorem subtract_gives_up_covered (a b : PortMatcher) :
    (a.subtract b = none → ∀ q, a.allows q = true → b.allows q = true) ∧
      ∀ r, a.subtract b = some r → Remains a b r := by
  refine ⟨fun h q ha => ?_, fun r h => remains_of_subtract h⟩
  have hjoined := allows_subtract a b q
  rw [h, ha] at hjoined
  simpa using hjoined

/-- A range covers one entry and another range; all ports of the protocol cover the rest. -/
theorem subtract_gives_up_covered_twice :
    let a := specific [⟨some (.number 53), .udp⟩, ⟨some (.number 80), .tcp⟩] [⟨8000, 8010, .udp⟩]
    let b := specific [] [⟨50, 9000, .udp⟩]
    let r := specific [⟨some (.number 80), .tcp⟩] []
    let everyTcp := specific [⟨none, .tcp⟩] []
    a.subtract b = some r ∧ Remains a b r ∧
      r.subtract everyTcp = none ∧ ∀ q, r.allows q = true → everyTcp.allows q = true := by
  intro a b r everyTcp
  have hr : a.subtract b = some r := by decide
  have hnone : r.subtract everyTcp = none := by decide
  exact ⟨hr, (subtract_gives_up_covered a b).2 r hr, hnone,
    (subtract_gives_up_covered r everyTcp).1 hnone⟩

end PortMatcher
end PodTraffic
