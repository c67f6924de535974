import PodTraffic.Proofs.Fallible
import PodTraffic.Proofs.Port

/-!
# Port matchers as sets

Whatever reading, unions and differences build is everything, or lists its entries and ranges in
strict order. Such a matcher is told by what it lists, so unions commute, associate and absorb
repetitions, and any nesting of unions gives one matcher for the same entries and ranges.
-/
namespace PodTraffic

/-- Names before numbers. -/
def PortValue.Before : PortValue → PortValue → Prop
  | .name s, .name t => s < t
  | .name _, .number _ => True
  | .number _, .name _ => False
  | .number m, .number n => m < n

/-- No port before any port; one port in the order TCP, UDP, SCTP. -/
def PortEntry.Before (e f : PortEntry) : Prop :=
  match e.port, f.port with
  | none, none => e.protocol.rank < f.protocol.rank
  | none, some _ => True
  | some _, none => False
  | some v, some w => v.Before w ∨ v = w ∧ e.protocol.rank < f.protocol.rank

/-- By the first number, then by the last, then by the protocol. -/
def PortRange.Before (r s : PortRange) : Prop :=
  r.first < s.first ∨ r.first = s.first ∧
    (r.last < s.last ∨ r.last = s.last ∧ r.protocol.rank < s.protocol.rank)

theorem PortValue.compare_eq_lt_iff {v w : PortValue} : compare v w = .lt ↔ v.Before w := by
  change compareLex (compareOn PortValue.isNumber)
    (compareLex (compareOn PortValue.nameText) (compareOn PortValue.value)) v w = .lt ↔ _
  have hname : compareOn PortValue.nameText v w = .lt ↔ v.nameText < w.nameText :=
    compareOfLessAndEq_eq_lt
  simp only [Ordered.compareLex_eq_lt_iff, Ordered.compareOn_eq_lt_iff, Ordered.compareOn_eq_iff,
    hname]
  cases v <;> cases w <;> simp [isNumber, nameText, value, Before]

theorem Protocol.compare_eq_lt_iff {p q : Protocol} : compare p q = .lt ↔ p.rank < q.rank :=
  Ordered.compareOn_eq_lt_iff

theorem PortEntry.compare_eq_lt_iff {e f : PortEntry} : compare e f = .lt ↔ e.Before f := by
  obtain ⟨port, protocol⟩ := e
  obtain ⟨port', protocol'⟩ := f
  change compareLex (compareOn PortEntry.port) (compareOn PortEntry.protocol) _ _ = .lt ↔ _
  rw [Ordered.compareLex_eq_lt_iff, Ordered.compareOn_eq_iff, compareOn, compareOn,
    Protocol.compare_eq_lt_iff]
  cases port with
  | none => cases port' <;> simp [Before, compare]
  | some v =>
    cases port' with
    | none => simp [Before, compare]
    | some w =>
      have hvalue : compare (some v) (some w) = compare v w := rfl
      simp only [hvalue, PortValue.compare_eq_lt_iff, Before, Option.some.injEq]

theorem PortRange.compare_eq_lt_iff {r s : PortRange} : compare r s = .lt ↔ r.Before s := by
  change compareLex (compareOn PortRange.first)
    (compareLex (compareOn PortRange.last) (compareOn PortRange.protocol)) r s = .lt ↔ _
  simp only [Ordered.compareLex_eq_lt_iff, Ordered.compareOn_eq_lt_iff, Ordered.compareOn_eq_iff]
  rw [compareOn, Protocol.compare_eq_lt_iff, Before]

namespace PortMatcher

def entries : PortMatcher → List PortEntry
  | all => []
  | specific ports _ => ports

def ranges : PortMatcher → List PortRange
  | all => []
  | specific _ ranges => ranges

/-- Everything, or entries and ranges in strict order. -/
structure Canonical (m : PortMatcher) : Prop where
  entries : m.entries.Pairwise PortEntry.Before
  ranges : m.ranges.Pairwise PortRange.Before

theorem canonical_all : Canonical all := ⟨.nil, .nil⟩

theorem canonical_ofEntries (ports : List PortEntry) (ranges : List PortRange) :
    (ofEntries ports ranges).Canonical where
  entries := (Ordered.pairwise_distinct ports).imp PortEntry.compare_eq_lt_iff.mp
  ranges := (Ordered.pairwise_distinct ranges).imp PortRange.compare_eq_lt_iff.mp

theorem canonical_union (a b : PortMatcher) : (a.union b).Canonical := by
  cases a with
  | all => exact canonical_all
  | specific ports ranges =>
    cases b with
    | all => exact canonical_all
    | specific ports' ranges' => exact canonical_ofEntries _ _

/-- What is left is listed in the order that it had. -/
theorem Canonical.subtract {a b r : PortMatcher} (ha : a.Canonical) (h : a.subtract b = some r) :
    r.Canonical := by
  obtain ⟨ports', ranges', -, ⟨-, rfl⟩ | ⟨ports, ranges, rfl, rfl⟩⟩ := subtract_eq_some h
  · exact canonical_all
  · exact ⟨ha.entries.filter _, ha.ranges.filter _⟩

theorem ofRules_cons (rule : PortRule) (rest : List PortRule) : ofRules (rule :: rest) =
    (fun parts => ofEntries (parts.filterMap (·.getLeft?)) (parts.filterMap (·.getRight?))) <$>
      (rule :: rest).mapM ofRule := rfl

theorem canonical_ofRules {rules : List PortRule} {m : PortMatcher} (h : ofRules rules = .ok m) :
    m.Canonical := by
  cases rules with
  | nil =>
    cases h
    exact canonical_all
  | cons rule rest =>
    obtain ⟨parts, -, rfl⟩ := Fallible.map_eq_ok_iff.mp h
    exact canonical_ofEntries _ _

theorem ofEntries_eq_of_canonical {ports ports' : List PortEntry}
    {ranges ranges' : List PortRange} (h : (specific ports' ranges').Canonical)
    (hports : ∀ e, e ∈ ports ↔ e ∈ ports') (hranges : ∀ r, r ∈ ranges ↔ r ∈ ranges') :
    ofEntries ports ranges = specific ports' ranges' := by
  rw [ofEntries,
    Ordered.distinct_eq_of_pairwise (h.entries.imp PortEntry.compare_eq_lt_iff.mpr) hports,
    Ordered.distinct_eq_of_pairwise (h.ranges.imp PortRange.compare_eq_lt_iff.mpr) hranges]
  rfl

theorem ofEntries_congr {ports ports' : List PortEntry} {ranges ranges' : List PortRange}
    (hports : ∀ e, e ∈ ports ↔ e ∈ ports') (hranges : ∀ r, r ∈ ranges ↔ r ∈ ranges') :
    ofEntries ports ranges = ofEntries ports' ranges' := by
  rw [ofEntries, ofEntries, Ordered.distinct_congr hports, Ordered.distinct_congr hranges]

/-- What canonical matchers list tells them apart. -/
theorem Canonical.ext {a b : PortMatcher} (ha : a.Canonical) (hb : b.Canonical)
    (hall : a = all ↔ b = all) (hentries : ∀ e, e ∈ a.entries ↔ e ∈ b.entries)
    (hranges : ∀ r, r ∈ a.ranges ↔ r ∈ b.ranges) : a = b := by
  cases a with
  | all => exact (hall.mp rfl).symm
  | specific ports ranges =>
    cases b with
    | all => exact hall.mpr rfl
    | specific ports' ranges' =>
      have hown := ofEntries_eq_of_canonical ha (fun _ => Iff.rfl) fun _ => Iff.rfl
      rw [← hown]
      exact ofEntries_eq_of_canonical hb hentries hranges

theorem union_eq_all_iff {a b : PortMatcher} : a.union b = all ↔ a = all ∨ b = all := by
  cases a <;> cases b <;> simp [union, ofEntries]

theorem union_all (a : PortMatcher) : a.union all = all := union_eq_all_iff.mpr (.inr rfl)

theorem all_union (a : PortMatcher) : all.union a = all := union_eq_all_iff.mpr (.inl rfl)

/-- A union that is not everything lists what one of both does. -/
theorem mem_union {a b : PortMatcher} (h : a.union b ≠ all) :
    (∀ e, e ∈ (a.union b).entries ↔ e ∈ a.entries ∨ e ∈ b.entries) ∧
      ∀ r, r ∈ (a.union b).ranges ↔ r ∈ a.ranges ∨ r ∈ b.ranges := by
  cases a with
  | all => exact absurd rfl h
  | specific ports ranges =>
    cases b with
    | all => exact absurd rfl h
    | specific ports' ranges' =>
      simp [union, ofEntries, entries, PortMatcher.ranges, Ordered.mem_distinct]

theorem union_comm (a b : PortMatcher) : a.union b = b.union a := by
  cases a with
  | all => rw [all_union, union_all]
  | specific ports ranges =>
    cases b with
    | all => rw [all_union, union_all]
    | specific ports' ranges' =>
      exact ofEntries_congr (fun e => by simp [or_comm]) fun r => by simp [or_comm]

theorem union_assoc (a b c : PortMatcher) : (a.union b).union c = a.union (b.union c) := by
  cases a with
  | all => simp only [all_union]
  | specific ports ranges =>
    cases b with
    | all => simp only [all_union, union_all]
    | specific ports' ranges' =>
      cases c with
      | all => simp only [union_all]
      | specific ports'' ranges'' =>
        refine ofEntries_congr (fun e => ?_) fun r => ?_
        · simp [Ordered.mem_distinct, or_assoc]
        · simp [Ordered.mem_distinct, or_assoc]

theorem Canonical.union_self {a : PortMatcher} (ha : a.Canonical) : a.union a = a := by
  cases a with
  | all => rfl
  | specific ports ranges =>
    exact ofEntries_eq_of_canonical ha (fun e => by simp) fun r => by simp

/-- What a nesting of unions makes of the matchers of a list. -/
inductive Unites : List PortMatcher → PortMatcher → Prop
  | single (m : PortMatcher) : Unites [m] m
  | union {l l' : List PortMatcher} {a b : PortMatcher} (ha : Unites l a) (hb : Unites l' b) :
    Unites (l ++ l') (a.union b)

/-- The lists name the same entries and ranges, each in some matcher, or both name everything. -/
structure SameParts (l l' : List PortMatcher) : Prop where
  all : all ∈ l ↔ all ∈ l'
  entries : ∀ e, (∃ m ∈ l, e ∈ m.entries) ↔ ∃ m ∈ l', e ∈ m.entries
  ranges : ∀ r, (∃ m ∈ l, r ∈ m.ranges) ↔ ∃ m ∈ l', r ∈ m.ranges

/-- Neither the order of the matchers nor their repetition matters. -/
theorem sameParts_of_mem_iff {l l' : List PortMatcher} (h : ∀ m, m ∈ l ↔ m ∈ l') :
    SameParts l l' where
  all := h .all
  entries _ := exists_congr fun m => and_congr_left fun _ => h m
  ranges _ := exists_congr fun m => and_congr_left fun _ => h m

namespace Unites

variable {l l' : List PortMatcher} {a b : PortMatcher}

theorem eq_all_iff (h : Unites l a) : a = all ↔ all ∈ l := by
  induction h with
  | single => simp [eq_comm]
  | union _ _ iha ihb => rw [union_eq_all_iff, iha, ihb, List.mem_append]

theorem allows_iff (h : Unites l a) (q : PortQuery) :
    a.allows q = true ↔ ∃ m ∈ l, m.allows q = true := by
  induction h with
  | single => simp
  | union _ _ iha ihb =>
    rw [allows_union, Bool.or_eq_true, iha, ihb]
    simp only [List.mem_append, or_and_right, exists_or]

theorem mem_iff (h : Unites l a) (hall : a ≠ all) :
    (∀ e, e ∈ a.entries ↔ ∃ m ∈ l, e ∈ m.entries) ∧
      ∀ r, r ∈ a.ranges ↔ ∃ m ∈ l, r ∈ m.ranges := by
  induction h with
  | single => simp
  | union _ _ iha ihb =>
    have hparts := fun h => hall (union_eq_all_iff.mpr h)
    obtain ⟨hentries, hranges⟩ := mem_union hall
    obtain ⟨hentriesA, hrangesA⟩ := iha fun h => hparts (.inl h)
    obtain ⟨hentriesB, hrangesB⟩ := ihb fun h => hparts (.inr h)
    constructor
    · intro e
      rw [hentries, hentriesA, hentriesB]
      simp only [List.mem_append, or_and_right, exists_or]
    · intro r
      rw [hranges, hrangesA, hrangesB]
      simp only [List.mem_append, or_and_right, exists_or]

theorem canonical (h : Unites l a) (hl : ∀ m ∈ l, m.Canonical) : a.Canonical := by
  cases h with
  | single => exact hl a (by simp)
  | union => exact canonical_union _ _

theorem eq_of_sameParts (ha : Unites l a) (hb : Unites l' b) (hl : ∀ m ∈ l, m.Canonical)
    (hl' : ∀ m ∈ l', m.Canonical) (h : SameParts l l') : a = b := by
  have hall : a = all ↔ b = all := by rw [ha.eq_all_iff, hb.eq_all_iff, h.all]
  by_cases hna : a = all
  · rw [hna, hall.mp hna]
  · obtain ⟨hentriesA, hrangesA⟩ := ha.mem_iff hna
    obtain ⟨hentriesB, hrangesB⟩ := hb.mem_iff fun hb => hna (hall.mpr hb)
    refine (ha.canonical hl).ext (hb.canonical hl') hall (fun e => ?_) fun r => ?_
    · rw [hentriesA, hentriesB, h.entries]
    · rw [hrangesA, hrangesB, h.ranges]

end Unites

/-- Matchers that the operations build, nested in any way. -/
inductive Built : PortMatcher → Prop
  | ofRules {rules : List PortRule} {m : PortMatcher} (h : ofRules rules = .ok m) : Built m
  | ofEntries (ports : List PortEntry) (ranges : List PortRange) : Built (ofEntries ports ranges)
  | union {a b : PortMatcher} (ha : Built a) (hb : Built b) : Built (a.union b)
  | subtract {a b r : PortMatcher} (ha : Built a) (hb : Built b) (h : a.subtract b = some r) :
    Built r

theorem Built.canonical {m : PortMatcher} (h : Built m) : m.Canonical := by
  induction h with
  | ofRules h => exact canonical_ofRules h
  | ofEntries ports ranges => exact canonical_ofEntries ports ranges
  | union => exact canonical_union _ _
  | subtract _ _ h ih => exact ih.subtract h

/-- Built matchers are canonical and form a semilattice of unions that everything tops, in which a
union allows what one of both allows. What nestings of unions make of built matchers depends on
the entries and ranges alone, and so does its text. -/
theorem Built.semilattice {a b c : PortMatcher} (ha : Built a) (hb : Built b) (hc : Built c) :
    (a.Canonical ∧ b.Canonical ∧ c.Canonical) ∧
      a.union b = b.union a ∧ (a.union b).union c = a.union (b.union c) ∧ a.union a = a ∧
      (a.union all = all ∧ all.union a = all) ∧
      (∀ q, (a.union b).allows q = true ↔ a.allows q = true ∨ b.allows q = true) ∧
      ∀ l l' u u', (∀ m ∈ l, Built m) → (∀ m ∈ l', Built m) → SameParts l l' →
        Unites l u → Unites l' u' → u = u' ∧ u.text = u'.text := by
  refine ⟨⟨ha.canonical, hb.canonical, hc.canonical⟩, union_comm a b, union_assoc a b c,
    ha.canonical.union_self, ⟨union_all a, all_union a⟩, fun q => ?_, ?_⟩
  · rw [allows_union, Bool.or_eq_true]
  · intro l l' u u' hl hl' hparts hu hu'
    obtain rfl := hu.eq_of_sameParts hu' (fun m hm => (hl m hm).canonical)
      (fun m hm => (hl' m hm).canonical) hparts
    exact ⟨rfl, rfl⟩

/-- Entries of all three kinds beside an entry and a range, one matcher taken twice. -/
theorem semilattice_of_three :
    let web := ofEntries [⟨some (.number 80), .tcp⟩, ⟨some (.name "web"), .tcp⟩, ⟨none, .sctp⟩] []
    let dns := ofEntries [⟨some (.number 53), .udp⟩] [⟨8000, 8010, .udp⟩]
    (Built web ∧ Built dns ∧ Built all) ∧ SameParts [web, dns, web] [dns, web] ∧
      web.Canonical ∧ web.union dns = dns.union web ∧ dns.union all = all ∧
      (web.union dns).union web = dns.union web := by
  intro web dns
  have hweb : Built web := .ofEntries _ _
  have hdns : Built dns := .ofEntries _ _
  have hall : Built all := @Built.ofRules [] all rfl
  have hparts : SameParts [web, dns, web] [dns, web] := by
    refine sameParts_of_mem_iff fun m => ?_
    simp only [List.mem_cons, List.not_mem_nil]
    tauto
  obtain ⟨⟨hcanonical, -, -⟩, hcomm, -, -, -, -, hnest⟩ := hweb.semilattice hdns hall
  obtain ⟨-, -, -, -, ⟨habsorb, -⟩, -, -⟩ := hdns.semilattice hweb hall
  obtain ⟨htwice, -⟩ := hnest [web, dns, web] [dns, web] _ _ (by simp [hweb, hdns])
    (by simp [hweb, hdns]) hparts (((Unites.single web).union (.single dns)).union (.single web))
    ((Unites.single dns).union (.single web))
  exact ⟨⟨hweb, hdns, hall⟩, hparts, hcanonical, hcomm, habsorb, htwice⟩

end PortMatcher
end PodTraffic
