import PodTraffic.Proofs.Comparison
import PodTraffic.Proofs.Port
import PodTraffic.Proofs.SortedMap.Sum
import PodTraffic.Proofs.Text.Cut
import PodTraffic.Summary

/-!
# Summaries add up

A summary is the sum of one summary for each result, so every counter of it is the number of
results, or the sum of the counts, that it stands for. Neither the order of the results nor where a
list of them is cut matters.
-/
namespace PodTraffic

theorem sum_ite_eq_countP {α : Type} (p : α → Bool) (l : List α) :
    (l.map fun a => if p a then 1 else 0).sum = l.countP p := by
  induction l with
  | nil => rfl
  | cons a rest ih => rw [List.map_cons, List.sum_cons, ih, List.countP_cons, Nat.add_comm]

namespace PassCounts

instance : Zero PassCounts := ⟨{}⟩

@[simp] theorem passed_zero : (0 : PassCounts).passed = 0 := rfl

@[simp] theorem failed_zero : (0 : PassCounts).failed = 0 := rfl

theorem ext_fields {a b : PassCounts} (hpassed : a.passed = b.passed)
    (hfailed : a.failed = b.failed) : a = b := by
  cases a
  cases b
  simp_all

instance : AddCommMonoid PassCounts where
  add_assoc _ _ _ := ext_fields (Nat.add_assoc _ _ _) (Nat.add_assoc _ _ _)
  zero_add _ := ext_fields (Nat.zero_add _) (Nat.zero_add _)
  add_zero _ := rfl
  add_comm _ _ := ext_fields (Nat.add_comm _ _) (Nat.add_comm _ _)
  nsmul := nsmulRec

def passedHom : PassCounts →+ ℕ where
  toFun := passed
  map_zero' := rfl
  map_add' _ _ := rfl

def failedHom : PassCounts →+ ℕ where
  toFun := failed
  map_zero' := rfl
  map_add' _ _ := rfl

/-- The results with a property, by whether they passed. -/
def of (results : List TrialResult) (p : TrialResult → Prop) [DecidablePred p] : PassCounts where
  passed := results.countP fun r => p r && r.passed
  failed := results.countP fun r => p r && !r.passed

/-- One result after another is counted where it has the property. -/
theorem sum_one (results : List TrialResult) (p : TrialResult → Prop) [DecidablePred p] :
    (results.map fun r => if p r then one r.passed else 0).sum = of results p := by
  have hpassed : ∀ r : TrialResult, (if p r then one r.passed else 0).passed =
      if (decide (p r) && r.passed) = true then 1 else 0 := by
    intro r
    by_cases hp : p r <;> cases r.passed <;> simp [hp, one]
  have hfailed : ∀ r : TrialResult, (if p r then one r.passed else 0).failed =
      if (decide (p r) && !r.passed) = true then 1 else 0 := by
    intro r
    by_cases hp : p r <;> cases r.passed <;> simp [hp, one]
  refine ext_fields ?_ ?_
  · change passedHom _ = results.countP fun r => p r && r.passed
    rw [map_list_sum, List.map_map, ← sum_ite_eq_countP]
    exact congrArg List.sum (List.map_congr_left fun r _ => hpassed r)
  · change failedHom _ = results.countP fun r => p r && !r.passed
    rw [map_list_sum, List.map_map, ← sum_ite_eq_countP]
    exact congrArg List.sum (List.map_congr_left fun r _ => hfailed r)

end PassCounts

namespace Tally

instance : Zero Tally := ⟨⟨0, 0⟩⟩

theorem ext_fields {a b : Tally} (htotal : a.total = b.total) (hmembers : a.members = b.members) :
    a = b := by
  cases a
  cases b
  simp_all

instance : AddCommMonoid Tally where
  add_assoc a b c := ext_fields (add_assoc a.total b.total c.total)
    (add_assoc a.members b.members c.members)
  zero_add a := ext_fields (zero_add a.total) (zero_add a.members)
  add_zero a := ext_fields (add_zero a.total) (add_zero a.members)
  add_comm a b := ext_fields (add_comm a.total b.total) (add_comm a.members b.members)
  nsmul := nsmulRec

end Tally

namespace Breakdown

/-- The counter of a category; without one, zero. -/
def totalOf (b : Breakdown) (category : String) : PassCounts := (b.valueOf category).total

/-- The counter of a member of a category; without one, zero. -/
def memberOf (b : Breakdown) (category member : String) : PassCounts :=
  (b.valueOf category).members.valueOf member

def totalHom (category : String) : Breakdown →+ PassCounts where
  toFun b := b.totalOf category
  map_zero' := rfl
  map_add' a b := congrArg Tally.total (SortedMap.valueOf_add a b category)

def memberHom (category member : String) : Breakdown →+ PassCounts where
  toFun b := b.memberOf category member
  map_zero' := rfl
  map_add' a b := by
    rw [memberOf, SortedMap.valueOf_add]
    exact SortedMap.valueOf_add _ _ member

/-- Each counter is the number of results with the member, or with some member of the category. -/
structure Counts (b : Breakdown) (results : List TrialResult)
    (members : TrialResult → String → List String) : Prop where
  total : ∀ category, b.totalOf category = .of results fun r => members r category ≠ []
  member : ∀ category member,
    b.memberOf category member = .of results fun r => member ∈ members r category

variable {passed : Bool} {groups : SortedMap String (List String)}

theorem get?_one (category : String) : (one passed groups).get? category =
    ((groups.get? category).filter (!·.isEmpty)).map fun members =>
      ⟨.one passed, .ofList (members.map (·, .one passed))⟩ := by
  rw [one, SortedMap.map, SortedMap.get?_mapWithKey, SortedMap.get?_filter]

theorem totalOf_one (category : String) : (one passed groups).totalOf category =
    if (groups.get? category).getD [] ≠ [] then .one passed else 0 := by
  rw [totalOf, SortedMap.valueOf, get?_one]
  cases groups.get? category with
  | none => rfl
  | some members => cases members <;> rfl

theorem memberOf_one (category member : String) : (one passed groups).memberOf category member =
    if member ∈ (groups.get? category).getD [] then .one passed else 0 := by
  change (((one passed groups).get? category).getD 0).members.valueOf member = _
  rw [get?_one]
  cases groups.get? category with
  | none => rfl
  | some members =>
    cases members with
    | nil => rfl
    | cons first rest =>
      exact SortedMap.valueOf_ofList_const (first :: rest) (PassCounts.one passed) member

/-- The counters add up if each result is filed under its members. -/
theorem counts_sum_one (results : List TrialResult)
    {groups : TrialResult → SortedMap String (List String)}
    {members : TrialResult → String → List String}
    (h : ∀ r category member,
      member ∈ ((groups r).get? category).getD [] ↔ member ∈ members r category) :
    (results.map fun r => one r.passed (groups r)).sum.Counts results members where
  total category := by
    have hne : ∀ r, ((groups r).get? category).getD [] ≠ [] ↔ members r category ≠ [] := by
      intro r
      simp only [ne_eq, List.eq_nil_iff_forall_not_mem, h]
    change totalHom category _ = _
    rw [map_list_sum, List.map_map, ← PassCounts.sum_one]
    refine congrArg List.sum (List.map_congr_left fun r _ => ?_)
    refine (totalOf_one category).trans ?_
    simp only [hne]
  member category member := by
    change memberHom category member _ = _
    rw [map_list_sum, List.map_map, ← PassCounts.sum_one]
    refine congrArg List.sum (List.map_congr_left fun r _ => ?_)
    refine (memberOf_one category member).trans ?_
    simp only [h]

end Breakdown

theorem Tag.mem_byCategory {tags : List String} {category tag : String} :
    tag ∈ ((byCategory tags).get? category).getD [] ↔ tag ∈ tags ∧ Tag.category tag = category := by
  -- for any groups to start from, since each tag alters one of them
  have hgroups : ∀ groups : SortedMap String (List String),
      tag ∈ ((tags.foldl (fun groups tag => groups.alter (Tag.category tag) fun present =>
        Ordered.insertNew tag (present.getD [])) groups).get? category).getD [] ↔
          tag ∈ (groups.get? category).getD [] ∨ tag ∈ tags ∧ Tag.category tag = category := by
    induction tags with
    | nil => simp
    | cons first rest ih =>
      intro groups
      rw [List.foldl_cons, ih, SortedMap.get?_alter, List.mem_cons]
      by_cases hcategory : category = Tag.category first
      · rw [if_pos (by simpa using hcategory), Option.getD_some, Ordered.mem_insertNew, hcategory]
        by_cases htag : tag = first <;> simp [htag]
      · rw [if_neg (by simpa using hcategory)]
        have hfirst : ¬(tag = first ∧ Tag.category tag = category) := by
          rintro ⟨rfl, hsame⟩
          exact hcategory hsame.symm
        grind
  exact (hgroups .empty).trans (by simp)

namespace TrialResult

/-- The tags of the case that belong to a category. -/
def tagsIn (r : TrialResult) (category : String) : List String :=
  r.case.tags.filter (Tag.category · == category)

/-- The features of the policies of the case, with their default types, in a category. -/
def featuresIn (r : TrialResult) (category : String) : List String :=
  let features := Features.ofPolicies (r.case.policies.map (·.withDefaultTypes))
  (features.byCategory.get? category).getD []

/-- The last attempt of each step that was run to its end. -/
def lastAttempts (r : TrialResult) : List Attempt := r.steps.filterMap (·.last?)

/-- The keys of the last comparisons are labels of ports and protocols. -/
def Keyed (r : TrialResult) : Prop :=
  ∀ a ∈ r.lastAttempts, ∀ e ∈ a.comparison.entries, ∃ port protocol, e.1 = probeKey port protocol

theorem mem_tagsIn {r : TrialResult} {category tag : String} :
    tag ∈ r.tagsIn category ↔ tag ∈ r.case.tags ∧ Tag.category tag = category := by
  simp [tagsIn]

theorem sum_counts (r : TrialResult) : (r.steps.map (·.counts)).sum =
    (r.lastAttempts.map (·.comparison.counts)).sum := by
  rw [lastAttempts]
  induction r.steps with
  | nil => rfl
  | cons step rest ih =>
    rw [List.map_cons, List.sum_cons, ih, List.filterMap_cons, StepResult.counts]
    cases step.last? with
    | none => exact zero_add _
    | some a => rfl

end TrialResult

theorem labelProtocol?_probeKey (port : PortValue) (p : Protocol) :
    labelProtocol? (probeKey port p) = some p := by
  have hslash : '/' ∉ p.name.toList := fun h => absurd (p.isUpper_of_mem_name _ h) (by decide)
  have htext : (probeKey port p).toList = port.text.toList ++ '/' :: p.name.toList := by
    simp [probeKey]
  rw [labelProtocol?, htext, Text.cutAtLast?_append _ hslash]
  simp [Protocol.read?_name]

namespace Comparison

theorem sum_countsByProtocol {t : Comparison}
    (h : ∀ e ∈ t.entries, ∃ port protocol, e.1 = probeKey port protocol) :
    t.countsByProtocol.values.sum = t.counts := by
  rw [countsByProtocol, counts, AgreementCounts.sum_eq]
  refine (SortedMap.sum_values_foldl (fun e he m => ?_) .empty).trans (zero_add _)
  obtain ⟨key, agreement⟩ := e
  obtain ⟨port, p, hkey⟩ := h _ he
  obtain rfl : key = probeKey port p := hkey
  simp only [labelProtocol?_probeKey]
  exact SortedMap.sum_values_alter m p _ fun _ => rfl

end Comparison

namespace Summary

theorem sum_protocolCounts (t : Comparison) :
    (protocolCounts t).values.sum = t.countsByProtocol.values.sum := by
  have hkeys : (t.countsByProtocol.entries.map fun e => (e.1.name, e.2)).map (·.1) =
      t.countsByProtocol.keys.map (·.name) := by
    rw [List.map_map, SortedMap.keys, List.map_map]
    rfl
  have hnodup : ((t.countsByProtocol.entries.map fun e => (e.1.name, e.2)).map (·.1)).Nodup := by
    rw [hkeys]
    refine t.countsByProtocol.keys_nodup.map fun p q hname => ?_
    have hread := congrArg Protocol.read? hname
    simpa [Protocol.read?_name] using hread
  have hperm := (SortedMap.entries_ofList_perm hnodup).map (·.2)
  refine hperm.sum_eq.trans ?_
  rw [List.map_map]
  rfl

instance : Zero Summary := ⟨{}⟩

theorem ext_fields {a b : Summary} (hpassed : a.passed = b.passed) (hfailed : a.failed = b.failed)
    (herrored : a.errored = b.errored) (hcomparisons : a.comparisons = b.comparisons)
    (hprotocols : a.byProtocol = b.byProtocol) (htags : a.byTag = b.byTag)
    (hfeatures : a.byFeature = b.byFeature) : a = b := by
  cases a
  cases b
  simp_all

instance : AddCommMonoid Summary where
  add_assoc a b c := ext_fields (Nat.add_assoc _ _ _) (Nat.add_assoc _ _ _) (Nat.add_assoc _ _ _)
    (add_assoc a.comparisons b.comparisons c.comparisons)
    (add_assoc a.byProtocol b.byProtocol c.byProtocol) (add_assoc a.byTag b.byTag c.byTag)
    (add_assoc a.byFeature b.byFeature c.byFeature)
  zero_add a := ext_fields (Nat.zero_add _) (Nat.zero_add _) (Nat.zero_add _)
    (zero_add a.comparisons) (zero_add a.byProtocol) (zero_add a.byTag) (zero_add a.byFeature)
  add_zero _ := rfl
  add_comm a b := ext_fields (Nat.add_comm _ _) (Nat.add_comm _ _) (Nat.add_comm _ _)
    (add_comm a.comparisons b.comparisons) (add_comm a.byProtocol b.byProtocol)
    (add_comm a.byTag b.byTag) (add_comm a.byFeature b.byFeature)
  nsmul := nsmulRec

theorem ofResults_eq_sum (results : List TrialResult) :
    ofResults results = (results.map ofResult).sum := by
  rw [List.sum_eq_foldl, List.foldl_map]
  rfl

theorem ofResults_append (results others : List TrialResult) :
    ofResults (results ++ others) = ofResults results + ofResults others := by
  rw [ofResults_eq_sum, ofResults_eq_sum, ofResults_eq_sum, List.map_append, List.sum_append]

theorem ofResults_perm {results others : List TrialResult} (h : results.Perm others) :
    ofResults results = ofResults others := by
  rw [ofResults_eq_sum, ofResults_eq_sum]
  exact (h.map ofResult).sum_eq

/-- What adds up along summaries adds up over the results. -/
theorem map_ofResults {M : Type} [AddCommMonoid M] (f : Summary →+ M)
    (results : List TrialResult) :
    f (ofResults results) = (results.map fun r => f (ofResult r)).sum := by
  rw [ofResults_eq_sum, map_list_sum, List.map_map]
  rfl

def passedHom : Summary →+ ℕ where
  toFun := passed
  map_zero' := rfl
  map_add' _ _ := rfl

def failedHom : Summary →+ ℕ where
  toFun := failed
  map_zero' := rfl
  map_add' _ _ := rfl

def erroredHom : Summary →+ ℕ where
  toFun := errored
  map_zero' := rfl
  map_add' _ _ := rfl

def comparisonsHom : Summary →+ AgreementCounts where
  toFun := comparisons
  map_zero' := rfl
  map_add' _ _ := rfl

def byProtocolHom : Summary →+ SortedMap String AgreementCounts where
  toFun := byProtocol
  map_zero' := rfl
  map_add' _ _ := rfl

def byTagHom : Summary →+ Breakdown where
  toFun := byTag
  map_zero' := rfl
  map_add' _ _ := rfl

def byFeatureHom : Summary →+ Breakdown where
  toFun := byFeature
  map_zero' := rfl
  map_add' _ _ := rfl

/-- Each counter is the number of results, or the sum of the counts, that it stands for. -/
structure Accounts (s : Summary) (results : List TrialResult) : Prop where
  passed : s.passed = results.countP (·.passed)
  failed : s.failed = results.countP fun r => r.error.isNone && !r.passed
  errored : s.errored = results.countP (·.error.isSome)
  total : s.passed + s.failed + s.errored = results.length
  comparisons :
    s.comparisons = ((results.flatMap (·.lastAttempts)).map (·.comparison.counts)).sum
  byProtocol : s.byProtocol.values.sum = s.comparisons
  byTag : s.byTag.Counts results TrialResult.tagsIn
  byFeature : s.byFeature.Counts results TrialResult.featuresIn

/-- Every counter is the sum of those of two summaries. -/
structure AddsUp (a b s : Summary) : Prop where
  passed : s.passed = a.passed + b.passed
  failed : s.failed = a.failed + b.failed
  errored : s.errored = a.errored + b.errored
  comparisons : s.comparisons = a.comparisons + b.comparisons
  protocol : ∀ name, s.byProtocol.valueOf name = a.byProtocol.valueOf name +
    b.byProtocol.valueOf name
  tagCategory : ∀ category, s.byTag.totalOf category = a.byTag.totalOf category +
    b.byTag.totalOf category
  tag : ∀ category tag, s.byTag.memberOf category tag = a.byTag.memberOf category tag +
    b.byTag.memberOf category tag
  featureCategory : ∀ category, s.byFeature.totalOf category = a.byFeature.totalOf category +
    b.byFeature.totalOf category
  feature : ∀ category feature, s.byFeature.memberOf category feature =
    a.byFeature.memberOf category feature + b.byFeature.memberOf category feature

theorem addsUp_add (a b : Summary) : AddsUp a b (a + b) where
  passed := rfl
  failed := rfl
  errored := rfl
  comparisons := rfl
  protocol name := SortedMap.valueOf_add a.byProtocol b.byProtocol name
  tagCategory category := map_add (Breakdown.totalHom category) a.byTag b.byTag
  tag category tag := map_add (Breakdown.memberHom category tag) a.byTag b.byTag
  featureCategory category := map_add (Breakdown.totalHom category) a.byFeature b.byFeature
  feature category feature :=
    map_add (Breakdown.memberHom category feature) a.byFeature b.byFeature

variable {results : List TrialResult}

theorem passed_ofResults (results : List TrialResult) :
    (ofResults results).passed = results.countP (·.passed) :=
  (map_ofResults passedHom results).trans (sum_ite_eq_countP _ _)

theorem failed_ofResults (results : List TrialResult) :
    (ofResults results).failed = results.countP fun r => r.error.isNone && !r.passed :=
  (map_ofResults failedHom results).trans (sum_ite_eq_countP _ _)

theorem errored_ofResults (results : List TrialResult) :
    (ofResults results).errored = results.countP (·.error.isSome) :=
  (map_ofResults erroredHom results).trans (sum_ite_eq_countP _ _)

/-- A result passed, or failed, or has an error, and never two of them. -/
theorem total_ofResults (results : List TrialResult) : (ofResults results).passed +
    (ofResults results).failed + (ofResults results).errored = results.length := by
  rw [passed_ofResults, failed_ofResults, errored_ofResults]
  induction results with
  | nil => rfl
  | cons r rest ih =>
    have hone : (if r.passed then 1 else 0) + (if r.error.isNone && !r.passed then 1 else 0) +
        (if r.error.isSome then 1 else 0) = 1 := by
      unfold TrialResult.passed
      cases r.error <;> cases r.steps.all (·.passed) <;> rfl
    rw [List.countP_cons, List.countP_cons, List.countP_cons, List.length_cons]
    omega

theorem comparisons_ofResults (results : List TrialResult) : (ofResults results).comparisons =
    ((results.flatMap (·.lastAttempts)).map (·.comparison.counts)).sum := by
  have hone : ∀ r, (ofResult r).comparisons = (r.lastAttempts.map (·.comparison.counts)).sum :=
    fun r => (AgreementCounts.sum_eq _).trans r.sum_counts
  refine (map_ofResults comparisonsHom results).trans ?_
  rw [List.map_flatMap, List.flatMap_def, List.sum_flatten, List.map_map]
  exact congrArg List.sum (List.map_congr_left fun r _ => hone r)

theorem byProtocol_ofResult (r : TrialResult) : (ofResult r).byProtocol =
    (r.lastAttempts.map fun a => protocolCounts a.comparison).sum := by
  rw [List.sum_eq_foldl, List.foldl_map]
  rfl

theorem sum_byProtocol_ofResult {r : TrialResult} (h : r.Keyed) :
    (ofResult r).byProtocol.values.sum = (ofResult r).comparisons := by
  have hattempts : ∀ a ∈ r.lastAttempts,
      (protocolCounts a.comparison).values.sum = a.comparison.counts :=
    fun a ha => (sum_protocolCounts _).trans (Comparison.sum_countsByProtocol (h a ha))
  change SortedMap.valuesHom (ofResult r).byProtocol = AgreementCounts.sum (r.steps.map (·.counts))
  rw [byProtocol_ofResult, map_list_sum, List.map_map, AgreementCounts.sum_eq, r.sum_counts]
  exact congrArg List.sum (List.map_congr_left hattempts)

theorem sum_byProtocol_ofResults (h : ∀ r ∈ results, r.Keyed) :
    (ofResults results).byProtocol.values.sum = (ofResults results).comparisons := by
  have hprotocols := map_ofResults (SortedMap.valuesHom.comp byProtocolHom) results
  refine hprotocols.trans (Eq.trans ?_ (map_ofResults comparisonsHom results).symm)
  exact congrArg List.sum (List.map_congr_left fun r hr => sum_byProtocol_ofResult (h r hr))

theorem byTag_ofResults (results : List TrialResult) :
    (ofResults results).byTag.Counts results TrialResult.tagsIn := by
  have hsum : (ofResults results).byTag = (results.map fun r =>
      Breakdown.one r.passed (Tag.byCategory r.case.tags)).sum := map_ofResults byTagHom results
  rw [hsum]
  refine Breakdown.counts_sum_one results fun r category tag => ?_
  rw [Tag.mem_byCategory, TrialResult.mem_tagsIn]

theorem byFeature_ofResults (results : List TrialResult) :
    (ofResults results).byFeature.Counts results TrialResult.featuresIn := by
  have hsum : (ofResults results).byFeature = (results.map fun r => Breakdown.one r.passed
      (Features.ofPolicies (r.case.policies.map (·.withDefaultTypes))).byCategory).sum :=
    map_ofResults byFeatureHom results
  rw [hsum]
  exact Breakdown.counts_sum_one results fun _ _ _ => Iff.rfl

/-- The counters stand for the results whose comparisons have labels of ports and protocols, those
of a concatenation are the sums of the counters of its parts, and the order does not matter. -/
theorem ofResults_accounts (h : ∀ r ∈ results, r.Keyed) :
    (ofResults results).Accounts results ∧
      (∀ others, AddsUp (ofResults results) (ofResults others) (ofResults (results ++ others))) ∧
      ∀ others, results.Perm others → ofResults others = ofResults results := by
  refine ⟨?_, fun others => ?_, fun others hperm => (ofResults_perm hperm).symm⟩
  · exact {
      passed := passed_ofResults results
      failed := failed_ofResults results
      errored := errored_ofResults results
      total := total_ofResults results
      comparisons := comparisons_ofResults results
      byProtocol := sum_byProtocol_ofResults h
      byTag := byTag_ofResults results
      byFeature := byFeature_ofResults results }
  · rw [ofResults_append]
    exact addsUp_add _ _

/-- A result that passed at its second attempt, on a port whose name has a slash and under an
unknown tag, one that failed, and one that has an error after a step that was run to its end. Two
of their cases write a policy that opens a port, the third one that opens an address block. -/
theorem ofResults_accounts_of_three :
    let table (outcome : Connectivity) : ProbeTable := ⟨["x/a"], ["x/b"],
      .ofList [(⟨"x/a", "x/b"⟩, .ofList [("a/b/UDP", .ofCluster outcome)])]⟩
    let attempt (outcome : Connectivity) : Attempt :=
      ⟨table outcome, .ofProbes true (table .allowed) (table outcome)⟩
    let step (outcomes : List Connectivity) : StepResult :=
      ⟨[], table .allowed, outcomes.map attempt⟩
    let web (types : Option (List String)) : NetworkPolicy := ⟨{ ns := some "x" }, some
      { podSelector := { matchLabels := some (podLabels "a") }, policyTypes := types
        ingress := some [{ ports := some [{ port := some (.int 80) }] }] }⟩
    let outside : NetworkPolicy := ⟨{ ns := some "x" }, some
      { egress := some [{ peers := some [{ ipBlock := some ⟨"10.0.0.0/8", none⟩ }] }] }⟩
    let case (tags : List String) (policy : NetworkPolicy) : TestCase :=
      ⟨"case", tags, [.creating [policy]]⟩
    let results : List TrialResult := [
      { case := case ["bogus", "deny-all"] (web none), steps := [step [.blocked, .allowed]] },
      { case := case ["deny-all"] (web (some ["Ingress"])), steps := [step [.blocked]] },
      { case := case ["peer-ipblock"] outside, steps := [step [.allowed]], error := some "boom" }]
    (∀ r ∈ results, r.Keyed) ∧ (ofResults results).passed = 1 ∧ (ofResults results).failed = 1 ∧
      (ofResults results).errored = 1 ∧ (ofResults results).comparisons = ⟨2, 1, 0⟩ ∧
      (ofResults results).byProtocol.values.sum = ⟨2, 1, 0⟩ ∧
      (ofResults results).byTag.totalOf "multi-policy" = ⟨1, 1⟩ ∧
      (ofResults results).byTag.memberOf "bogus" "bogus" = ⟨1, 0⟩ ∧
      (ofResults results).byFeature.totalOf "egress-peer" = ⟨0, 1⟩ ∧
      (ofResults results).byFeature.memberOf "target" "target-match-labels" = ⟨1, 1⟩ ∧
      (ofResults results).byFeature.memberOf "ingress-port" "port-numbered" = ⟨1, 1⟩ ∧
      (ofResults results).byFeature.memberOf "egress-peer" "ipblock" = ⟨0, 1⟩ := by
  intro table attempt step web outside case results
  have hkeyed : ∀ r ∈ results, r.Keyed := by
    have hlast : ∀ r ∈ results, ∀ a ∈ r.lastAttempts, ∃ outcome, a = attempt outcome := by
      simp [results, TrialResult.lastAttempts, StepResult.last?, step]
    have hentries : ∀ outcome, (attempt outcome).comparison.entries.map (·.1) = ["a/b/UDP"] := by
      intro outcome
      cases outcome <;> decide
    intro r hr a ha e he
    obtain ⟨outcome, rfl⟩ := hlast r hr a ha
    have hkey := List.mem_map_of_mem (f := Prod.fst) he
    rw [hentries, List.mem_singleton] at hkey
    exact ⟨.name "a/b", .udp, hkey⟩
  obtain ⟨haccounts, -, -⟩ := ofResults_accounts hkeyed
  refine ⟨hkeyed, ?_, ?_, ?_, ?_, ?_, ?_, ?_, ?_, ?_, ?_, ?_⟩
  · rw [haccounts.passed]
    decide
  · rw [haccounts.failed]
    decide
  · rw [haccounts.errored]
    decide
  · rw [haccounts.comparisons]
    decide
  · rw [haccounts.byProtocol, haccounts.comparisons]
    decide
  · rw [haccounts.byTag.total]
    decide
  · rw [haccounts.byTag.member]
    decide
  · rw [haccounts.byFeature.total]
    decide
  · rw [haccounts.byFeature.member]
    decide
  · rw [haccounts.byFeature.member]
    decide
  · rw [haccounts.byFeature.member]
    decide

end Summary
end PodTraffic
