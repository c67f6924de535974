import Mathlib.Tactic
import PodTraffic.Proofs.Report.Markup

/-!
# What reports say

A report read back as markup: one suite, in it one test case for each result in their order, and
in those that did not pass one failure.
-/
namespace PodTraffic.Junit

open Markup

theorem isSome_failure? (r : TrialResult) : (failure? r).isSome = !r.passed := by
  rw [failure?, TrialResult.passed]
  cases r.error with
  | some e => rfl
  | none =>
    have hmem (s : StepResult) : s ∈ r.steps ↔ ∃ i, (s, i) ∈ r.steps.zipIdx := by
      conv_lhs => rw [← List.zipIdx_map_fst 0 r.steps, List.mem_map]
      simp
    dsimp only
    split
    · next hempty =>
      have hall : r.steps.all (·.passed) = true := by
        rw [List.isEmpty_iff, List.filter_eq_nil_iff] at hempty
        simpa [hmem] using hempty
      simp [hall]
    · next hfailed =>
      have hall : r.steps.all (·.passed) = false := by
        rw [List.isEmpty_iff, List.filter_eq_nil_iff] at hfailed
        simpa [hmem] using hfailed
      simp [hall]

theorem failure?_eq_none {r : TrialResult} (h : r.passed = true) : failure? r = none := by
  rw [← Option.not_isSome_iff_eq_none, isSome_failure?, h]
  decide

theorem exists_failure? {r : TrialResult} (h : r.passed = false) :
    ∃ message, failure? r = some message := by
  rw [← Option.isSome_iff_exists, isSome_failure?, h]
  rfl

theorem isMark_of_isDigit {c : Char} (h : c.isDigit = true) : isMark c = false := by
  rw [Bool.eq_false_iff]
  intro hmark
  have hmarks : ['&', '<', '>', '"', '\x27'].all (!·.isDigit) = true := by decide
  have hdigit := List.all_eq_true.mp hmarks c (List.contains_iff_mem.mp hmark)
  rw [h] at hdigit
  cases hdigit

theorem any_isMark_toDigits (n : Nat) : (Nat.toDigits 10 n).any isMark = false := by
  refine List.any_eq_false.mpr fun c hc => ?_
  rw [isMark_of_isDigit (Nat.isDigit_of_mem_toDigits (by decide) (by decide) hc)]
  decide

@[simp] theorem escape_repr (n : Nat) : escape n.repr = n.repr :=
  escape_eq_self (by simpa using any_isMark_toDigits n)

@[simp] theorem escape_timeText (seconds : Float) :
    escape (timeText seconds) = timeText seconds := by
  have hsign (negative : Bool) :
      (if negative then "-" else "").toList.any isMark = false := by
    cases negative <;> decide
  have hpoint : isMark '.' = false := by decide
  have hfill : isMark '0' = false := by decide
  refine escape_eq_self ?_
  simp [timeText, Decimal.fixed, Decimal.Double.fixedText, Text.padded, hsign, hpoint, hfill,
    any_isMark_toDigits]

def failureAttributes (message : String) : List (String × String) :=
  [("message", message), ("type", "failure")]

def caseAttributes (r : TrialResult) : List (String × String) :=
  [("name", r.case.description), ("classname", ",".intercalate r.case.tags),
    ("time", timeText (seconds r.elapsedMs))]

def suiteAttributes (results : List TrialResult) : List (String × String) :=
  [("name", suiteName), ("tests", toString results.length),
    ("failures", toString (results.countP (!·.passed))),
    ("time", timeText (totalSeconds results))]

def failureElement (message : String) : Element :=
  ⟨"failure", failureAttributes message, []⟩

def caseElement (r : TrialResult) : Element :=
  ⟨"testcase", caseAttributes r, (failure? r).toList.map failureElement⟩

def suiteElement (results : List TrialResult) : Element :=
  ⟨"testsuite", suiteAttributes results, results.map caseElement⟩

theorem spells_failure (message : String) :
    Spells ("<failure" ++ attr "message" (escape message) ++ attr "type" "failure" ++ "></failure>")
      [failureElement message] := by
  have hkeys : AreKeys ((failureAttributes message).map Prod.fst) :=
    show AreKeys ["message", "type"] by decide
  have htype : escape "failure" = "failure" := escape_eq_self (by decide)
  have hname : IsName "failure" := by decide
  have hinside : Spells "" [] := .blank (by decide)
  have helement := hinside.element hname hkeys
  convert helement using 1
  · simp [attributesText, failureAttributes, htype, ← String.toList_inj]
  · rfl

theorem spells_case (r : TrialResult) : Spells (Text.unlines (caseLines r)) [caseElement r] := by
  have hkeys : AreKeys ((caseAttributes r).map Prod.fst) :=
    show AreKeys ["name", "classname", "time"] by decide
  have hname : IsName "testcase" := by decide
  rw [caseLines, caseElement]
  cases failure? r with
  | none =>
    have hline := (Spells.single hname hkeys).between "  " "\n" (by decide) (by decide)
    convert hline using 1
    · simp [Text.unlines, attributesText, caseAttributes, ← String.toList_inj]
    · rfl
  | some message =>
    have hinside := (spells_failure message).between "\n    " "\n  " (by decide) (by decide)
    have hlines := (hinside.element hname hkeys).between "  " "\n" (by decide) (by decide)
    convert hlines using 1
    · simp [Text.unlines, attributesText, caseAttributes, ← String.toList_inj]
    · rfl

theorem spells_cases (results : List TrialResult) :
    Spells (Text.unlines (results.flatMap caseLines)) (results.map caseElement) := by
  induction results with
  | nil => exact .blank (by decide)
  | cons r results ih =>
    rw [List.flatMap_cons, Text.unlines_append, List.map_cons, ← List.singleton_append]
    exact (spells_case r).append ih

theorem read?_render (results : List TrialResult) :
    read? (render results) = some (suiteElement results) := by
  have hkeys : AreKeys ((suiteAttributes results).map Prod.fst) :=
    show AreKeys ["name", "tests", "failures", "time"] by decide
  have hname : IsName "testsuite" := by decide
  have hsuite : escape suiteName = suiteName := escape_eq_self (by decide)
  have hinside := (spells_cases results).between "\n" "" (by decide) (by decide)
  have hroot := (hinside.element hname hkeys).between "\n" "\n" (by decide) (by decide)
  have hdeclaration : '<' ∉ "xml version=\"1.0\" encoding=\"UTF-8\"".toList := by decide
  have htext : render results = "<?" ++ "xml version=\"1.0\" encoding=\"UTF-8\"" ++ "?>" ++
      ("\n" ++ ("<" ++ "testsuite" ++ attributesText (suiteAttributes results) ++ ">" ++
        ("\n" ++ Text.unlines (results.flatMap caseLines) ++ "") ++ "</" ++ "testsuite" ++ ">") ++
        "\n") := by
    rw [render, Text.unlines_append, Text.unlines_append, ← String.toList_inj]
    simp [Text.unlines, attributesText, suiteAttributes, hsuite]
  rw [htext]
  exact read?_of_spells hdeclaration hroot

theorem named_failure_caseElement (r : TrialResult) :
    (caseElement r).named "failure" = (failure? r).toList.map failureElement := by
  rw [caseElement]
  cases failure? r <;> simp [Element.named, Element.namedAmong, failureElement]

theorem named_testcase_caseElement (r : TrialResult) :
    (caseElement r).named "testcase" = [caseElement r] := by
  rw [caseElement]
  cases failure? r <;> simp [Element.named, Element.namedAmong, failureElement]

theorem length_named_failure (results : List TrialResult) :
    (Element.namedAmong "failure" (results.map caseElement)).length =
      results.countP (!·.passed) := by
  induction results with
  | nil => rfl
  | cons r results ih =>
    have hfailure : ((caseElement r).named "failure").length = if !r.passed then 1 else 0 := by
      rw [named_failure_caseElement, List.length_map, Option.length_toList, isSome_failure?]
    rw [List.map_cons, Element.namedAmong, List.length_append, ih, hfailure, List.countP_cons,
      Nat.add_comm]

theorem named_testcase (results : List TrialResult) :
    Element.namedAmong "testcase" (results.map caseElement) = results.map caseElement := by
  induction results with
  | nil => rfl
  | cons r results ih =>
    rw [List.map_cons, Element.namedAmong, ih, named_testcase_caseElement, List.singleton_append]

/-- What the element of a test case tells of its result. -/
structure Reports (r : TrialResult) (e : Element) : Prop where
  name : e.name = "testcase"
  attributes : e.attributes = [("name", r.case.description),
    ("classname", ",".intercalate r.case.tags), ("time", timeText (seconds r.elapsedMs))]
  passed : r.passed = true → e.children = []
  failed : r.passed = false → ∃ message, failure? r = some message ∧
    e.children = [⟨"failure", [("message", message), ("type", "failure")], []⟩]

theorem reports_caseElement (r : TrialResult) : Reports r (caseElement r) where
  name := rfl
  attributes := rfl
  passed hpassed := by
    rw [caseElement, failure?_eq_none hpassed]
    rfl
  failed hfailed := by
    obtain ⟨message, hmessage⟩ := exists_failure? hfailed
    refine ⟨message, hmessage, ?_⟩
    rw [caseElement, hmessage]
    rfl

/-- One suite holds the test cases in order, and its counts are those of the elements in it. -/
structure Faithful (results : List TrialResult) (suite : Element) : Prop where
  name : suite.name = "testsuite"
  attributes : suite.attributes = [("name", suiteName), ("tests", toString results.length),
    ("failures", toString (suite.named "failure").length),
    ("time", timeText (totalSeconds results))]
  cases : List.Forall₂ Reports results suite.children
  testcases : suite.named "testcase" = suite.children

theorem faithful_suiteElement (results : List TrialResult) :
    Faithful results (suiteElement results) where
  name := rfl
  attributes := by
    have hnamed : (suiteElement results).named "failure" =
        Element.namedAmong "failure" (results.map caseElement) := by
      simp [suiteElement, Element.named]
    rw [hnamed, length_named_failure]
    rfl
  cases := by
    rw [suiteElement, List.forall₂_map_right_iff]
    exact List.forall₂_same.mpr fun r _ => reports_caseElement r
  testcases := by
    rw [suiteElement, Element.named, named_testcase]
    simp

/-- The text cannot end the value it stands in nor begin a tag, and is read back as it was. -/
structure Escapes (s text : String) : Prop where
  plain : ∀ c ∈ text.toList, c ∉ ['<', '>', '"', '\x27']
  ampersands : ∀ before after, text.toList = before ++ '&' :: after →
    ∃ entity ∈ entities, entity.toList <+: '&' :: after
  unescapes : unescape? text.toList = some s.toList

theorem escapes_escape (s : String) : Escapes s (escape s) where
  plain c hc hmark := by
    have hmarks : ['<', '>', '"', '\x27'].all (fun d => isMark d && d != '&') = true := by decide
    have hmark := List.all_eq_true.mp hmarks c hmark
    rw [Bool.and_eq_true, bne_iff_ne] at hmark
    exact not_mem_escape hmark.1 hmark.2 hc
  ampersands _ _ := entity_of_escape
  unescapes := unescape?_escape s

/-- A report is read back as one test case for each result, and no text in it breaks out of the
value it stands in. -/
theorem render_faithful :
    (∀ results, ∃ suite, read? (render results) = some suite ∧ Faithful results suite) ∧
      ∀ s, Escapes s (escape s) :=
  ⟨fun results => ⟨suiteElement results, read?_render results, faithful_suiteElement results⟩,
    escapes_escape⟩

end PodTraffic.Junit
