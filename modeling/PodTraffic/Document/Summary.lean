import PodTraffic.Decimal
import PodTraffic.Document
import PodTraffic.Policy
import PodTraffic.Summary
import PodTraffic.Trial

/-!
# Results in writing

Results are reported in plain text, where every part is a list of lines and a grid is one of them.
A JUnit report is one suite with one test case for each result, and a failure in those that did not
pass; the five characters that have a meaning in attributes are written as entities. A summary is
also written as a value.
-/
namespace PodTraffic

def Attempt.report (position : Nat) (a : Attempt) : List String :=
  ["Cluster attempt " ++ toString (position + 1) ++ ": " ++ a.comparison.counts.text,
    ProbeTable.renderCombined a.probe] ++
  if a.comparison.isSame then [] else ["Comparison:\n" ++ a.comparison.render]

/-- The last attempt, or all of them. -/
def StepResult.report (verbose : Bool) (position : Nat) (s : StepResult) : List String :=
  let names := s.policies.map (·.fullName)
  let directions := if verbose then
      ["Expected ingress:\n" ++ ProbeTable.renderIngress s.simulated,
        "Expected egress:\n" ++ ProbeTable.renderEgress s.simulated]
    else []
  let shown := s.attempts.zipIdx.drop (if verbose then 0 else s.attempts.length - 1)
  ["Step " ++ toString (position + 1) ++ ": " ++ (if s.passed then "pass" else "FAIL") ++ " (" ++
    toString names.length ++ " policies: " ++ ", ".intercalate names ++ ")"] ++
  directions ++ ["Expected:\n" ++ ProbeTable.renderCombined s.simulated] ++
  shown.flatMap fun (a, i) => a.report i

def TrialResult.report (verbose : Bool) (r : TrialResult) : String :=
  let title := "=== " ++ r.case.description ++ " [" ++ ", ".intercalate r.case.tags ++ "] " ++
    if r.passed then "PASSED" else "FAILED"
  Text.unlines ([title] ++ (r.error.map ("error: " ++ ·)).toList ++
    r.steps.zipIdx.flatMap fun (s, i) => s.report verbose i)

def PassCounts.text (c : PassCounts) : String :=
  toString c.passed ++ " passed, " ++ toString c.failed ++ " failed"

def Breakdown.report (title : String) (b : Breakdown) : List String :=
  (title ++ ":") :: b.entries.flatMap fun (category, tally) =>
    ("  " ++ category ++ ": " ++ tally.total.text) ::
      tally.members.entries.map fun (name, counts) => "    " ++ name ++ ": " ++ counts.text

def Summary.report (s : Summary) : String :=
  Text.unlines (
    [toString s.total ++ " test cases: " ++ toString s.passed ++ " passed, " ++
        toString s.failed ++ " failed, " ++ toString s.errored ++ " errored",
      "Cells: " ++ s.comparisons.text] ++
    s.byProtocol.entries.map (fun (name, counts) => "  " ++ name ++ ": " ++ counts.text) ++
    Breakdown.report "Tags" s.byTag ++ Breakdown.report "Features" s.byFeature)

namespace Junit

def entity? : Char → Option String
  | '&' => some "&amp;"
  | '<' => some "&lt;"
  | '>' => some "&gt;"
  | '"' => some "&quot;"
  | '\x27' => some "&apos;"
  | _ => none

def escape (s : String) : String :=
  String.join (s.toList.map fun c => (entity? c).getD (String.singleton c))

/-- Whole seconds plus the rest. -/
def seconds (ms : Nat) : Float :=
  (UInt64.ofNat (ms / 1000)).toFloat + (UInt64.ofNat (ms % 1000 * 1000000)).toFloat / 1e9

def timeText (seconds : Float) : String := Decimal.fixed 3 seconds

/-- The sum over no results is negative zero. -/
def totalSeconds (results : List TrialResult) : Float :=
  results.foldl (fun sum r => sum + seconds r.elapsedMs) (-0.0)

/-- Why the result did not pass, if it did not. -/
def failure? (r : TrialResult) : Option String :=
  match r.error with
  | some e => some ("execution error: " ++ e)
  | none =>
    let failed := r.steps.zipIdx.filter fun (s, _) => !s.passed
    if failed.isEmpty then none
    else some ("; ".intercalate (failed.map fun (s, i) =>
      "step " ++ toString (i + 1) ++ ": " ++ toString s.counts.different ++ " differences"))

def attr (name value : String) : String := " " ++ name ++ "=\"" ++ value ++ "\""

/-- The lines of one test case. -/
def caseLines (r : TrialResult) : List String :=
  let opening := "  <testcase" ++ attr "name" (escape r.case.description) ++
    attr "classname" (escape (",".intercalate r.case.tags)) ++
    attr "time" (timeText (seconds r.elapsedMs))
  match failure? r with
  | none => [opening ++ "/>"]
  | some message =>
    [opening ++ ">",
      "    <failure" ++ attr "message" (escape message) ++ attr "type" "failure" ++
        "></failure>",
      "  </testcase>"]

def suiteName : String := "netpol-connectivity"

def render (results : List TrialResult) : String :=
  let failures := results.countP (!·.passed)
  Text.unlines (
    ["<?xml version=\"1.0\" encoding=\"UTF-8\"?>",
      "<testsuite" ++ attr "name" suiteName ++
        attr "tests" (toString results.length) ++
        attr "failures" (toString failures) ++
        attr "time" (timeText (totalSeconds results)) ++ ">"] ++
    results.flatMap caseLines ++ ["</testsuite>"])

end Junit

def Features.toValue (f : Features) : Value :=
  .object [("general", .texts f.general), ("target", .texts f.target),
    ("ingressPeer", .texts f.ingressPeer), ("ingressPort", .texts f.ingressPort),
    ("egressPeer", .texts f.egressPeer), ("egressPort", .texts f.egressPort)]

def SortedMap.toValue (f : α → Value) (m : SortedMap String α) : Value :=
  .object (m.entries.map fun (name, x) => (name, f x))

def AgreementCounts.toValue (c : AgreementCounts) : Value :=
  .object [("same", .nat c.same), ("different", .nat c.different), ("ignored", .nat c.ignored)]

def PassCounts.toValue (c : PassCounts) : Value :=
  .object [("passed", .nat c.passed), ("failed", .nat c.failed)]

def Breakdown.toValue (b : Breakdown) : Value :=
  .object [("primary", SortedMap.toValue (·.total.toValue) b),
    ("sub", SortedMap.toValue (·.members.toValue PassCounts.toValue) b)]

def Summary.toValue (s : Summary) : Value :=
  .object [("passed", .nat s.passed), ("failed", .nat s.failed), ("errored", .nat s.errored),
    ("comparisons", s.comparisons.toValue),
    ("byProtocol", s.byProtocol.toValue AgreementCounts.toValue),
    ("byTag", s.byTag.toValue), ("byFeature", s.byFeature.toValue)]

end PodTraffic
