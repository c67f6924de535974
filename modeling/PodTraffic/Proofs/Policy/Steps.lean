import PodTraffic.Proofs.Policy.Compile
import PodTraffic.Proofs.Policy.Simplify

/-!
# Policies built step by step

A policy grows by targets and may be simplified at any point in between. It then selects, allows
and attributes as the policy of the same targets that was never simplified.
-/
namespace PodTraffic

/-- What may happen to a policy. -/
inductive PolicyStep where
  | add (d : Direction) (t : Target)
  | simplify

namespace PolicyStep

def run (p : Policy) : PolicyStep → Policy
  | add d t => p.addTarget d t
  | simplify => p.simplify

def isAddition : PolicyStep → Bool
  | add _ _ => true
  | simplify => false

def matchers : PolicyStep → List PeerMatcher
  | add _ t => t.peers
  | simplify => []

end PolicyStep

namespace Policy

def runSteps (p : Policy) (steps : List PolicyStep) : Policy := steps.foldl PolicyStep.run p

/-- The matchers of all targets. -/
def matchers (p : Policy) : List PeerMatcher :=
  (p.targets .ingress ++ p.targets .egress).flatMap (·.peers)

/-- Both policies have targets of the same keys, and give every traffic the same decision, by
targets of the same keys and sources in the same order. -/
structure SameVerdicts (p q : Policy) : Prop where
  keys : ∀ d, (p.targetMap d).keys = (q.targetMap d).keys
  allowing : ∀ d t, (p.direction d t).allowing.map (fun s => (s.key, s.sources)) =
    (q.direction d t).allowing.map fun s => (s.key, s.sources)
  denying : ∀ d t, (p.direction d t).denying.map (fun s => (s.key, s.sources)) =
    (q.direction d t).denying.map fun s => (s.key, s.sources)
  isAllowed : ∀ t, (p.verdict t).isAllowed = (q.verdict t).isAllowed

end Policy

namespace Target

/-- Targets that select and attribute alike and let the same traffic through. -/
structure Agrees (s t : Target) : Prop where
  ns : s.ns = t.ns
  selector : s.selector = t.selector
  sources : s.sources = t.sources
  allows : ∀ peer q, s.allows peer q = t.allows peer q

/-- The target `s`, whose matchers regroup those of `ms`, stands for `t`. -/
structure StandsFor (ms : List PeerMatcher) (s t : Target) : Prop where
  agrees : s.Agrees t
  drawn : ∀ m ∈ s.peers, m.DrawnFrom ms

variable {ms : List PeerMatcher} {s t : Target}

theorem Agrees.refl (t : Target) : t.Agrees t := ⟨rfl, rfl, rfl, fun _ _ => rfl⟩

theorem Agrees.selects (h : s.Agrees t) (ns : String) (labels : Labels) :
    s.selects ns labels = t.selects ns labels := by
  rw [Target.selects, Target.selects, h.ns, h.selector]

theorem Agrees.key_eq (h : s.Agrees t) : s.key = t.key := by
  rw [key, key, h.ns, h.selector]

theorem standsFor_self (h : ∀ m ∈ t.peers, m ∈ ms) : t.StandsFor ms t where
  agrees := .refl t
  drawn m hm := PeerMatcher.drawnFrom_of_mem (h m hm)

theorem allows_union (s t : Target) (peer : Endpoint) (q : PortQuery) :
    (s.union t).allows peer q = (s.allows peer q || t.allows peer q) := by
  simp [allows, union]

theorem StandsFor.union (h : s.StandsFor ms t) {u : Target} (hu : ∀ m ∈ u.peers, m ∈ ms) :
    (s.union u).StandsFor ms (t.union u) where
  agrees :=
    { ns := h.agrees.ns
      selector := h.agrees.selector
      sources := by rw [Target.union, Target.union, h.agrees.sources]
      allows := by
        intro peer q
        rw [allows_union, allows_union, h.agrees.allows] }
  drawn := by
    intro m hm
    rcases List.mem_append.mp hm with hm | hm
    · exact h.drawn m hm
    · exact PeerMatcher.drawnFrom_of_mem (hu m hm)

theorem StandsFor.simplify (hfaithful : KeysFaithful ms) (h : s.StandsFor ms t) :
    s.simplify.StandsFor ms t where
  agrees :=
    { ns := h.agrees.ns
      selector := h.agrees.selector
      sources := h.agrees.sources
      allows := by
        intro peer q
        rw [← h.agrees.allows]
        exact allows_simplifyPeers hfaithful h.drawn peer q }
  drawn := drawnFrom_simplifyPeers h.drawn

end Target

namespace Policy

variable {ms : List PeerMatcher} {p q : Policy}

/-- The targets of `p` stand for those of `q`, key by key. -/
def StandsFor (ms : List PeerMatcher) (p q : Policy) : Prop :=
  ∀ d, (p.targetMap d).Related (Target.StandsFor ms) (q.targetMap d)

theorem standsFor_self (h : p.matchers ⊆ ms) : p.StandsFor ms p := by
  intro d
  refine SortedMap.Related.refl ?_
  intro t ht
  refine Target.standsFor_self fun m hm => h ?_
  refine List.mem_flatMap.mpr ⟨t, ?_, hm⟩
  cases d with
  | ingress => exact List.mem_append_left _ ht
  | egress => exact List.mem_append_right _ ht

theorem StandsFor.addTarget (h : p.StandsFor ms q) (d : Direction) {t : Target}
    (ht : ∀ m ∈ t.peers, m ∈ ms) : (p.addTarget d t).StandsFor ms (q.addTarget d t) := by
  have hadd : (TargetMap.add (p.targetMap d) t).Related (Target.StandsFor ms)
      (TargetMap.add (q.targetMap d) t) := by
    refine (h d).alter t.key ?_
    intro x y hxy
    cases hxy with
    | none => exact Target.standsFor_self ht
    | some hpresent => exact hpresent.union ht
  intro d'
  rw [targetMap_addTarget, targetMap_addTarget]
  by_cases hd : d = d'
  · subst hd
    rw [if_pos rfl, if_pos rfl]
    exact hadd
  · rw [if_neg hd, if_neg hd]
    exact h d'

theorem StandsFor.simplify (hfaithful : KeysFaithful ms) (h : p.StandsFor ms q) :
    p.simplify.StandsFor ms q := by
  intro d
  have hmap := (h d).map_left fun _ _ hst => hst.simplify hfaithful
  cases d with
  | ingress => exact hmap
  | egress => exact hmap

theorem StandsFor.run (hfaithful : KeysFaithful ms) (h : p.StandsFor ms q) {step : PolicyStep}
    (hstep : step.matchers ⊆ ms) :
    (step.run p).StandsFor ms (if step.isAddition then step.run q else q) := by
  cases step with
  | add d t => exact h.addTarget d hstep
  | simplify => exact h.simplify hfaithful

/-- Leaving out the simplifications keeps what a run of steps stands for. -/
theorem StandsFor.runSteps (hfaithful : KeysFaithful ms) (h : p.StandsFor ms q)
    {steps : List PolicyStep} (hsteps : steps.flatMap PolicyStep.matchers ⊆ ms) :
    (p.runSteps steps).StandsFor ms (q.runSteps (steps.filter PolicyStep.isAddition)) := by
  unfold Policy.runSteps
  induction steps generalizing p q with
  | nil => exact h
  | cons step rest ih =>
    rw [List.flatMap_cons, List.append_subset] at hsteps
    have hrun := h.run hfaithful hsteps.1
    have hrest := ih hrun hsteps.2
    rw [List.foldl_cons, List.filter_cons]
    cases hadd : step.isAddition with
    | true => simpa [hadd] using hrest
    | false => simpa [hadd] using hrest

theorem StandsFor.direction (h : p.StandsFor ms q) (d : Direction) (t : Traffic) :
    List.Forall₂ Target.Agrees (p.direction d t).allowing (q.direction d t).allowing ∧
      List.Forall₂ Target.Agrees (p.direction d t).denying (q.direction d t).denying := by
  have htargets : List.Forall₂ Target.Agrees (p.targets d) (q.targets d) :=
    (h d).values.imp fun _ _ hst => hst.agrees
  unfold Policy.direction
  cases (d.near t).pod with
  | none => exact ⟨.nil, .nil⟩
  | some pod =>
    have hselected : List.Forall₂ Target.Agrees (p.targetsFor d pod.ns pod.labels)
        (q.targetsFor d pod.ns pod.labels) := by
      refine List.rel_filter ?_ htargets
      intro s u hsu
      beta_reduce
      rw [hsu.selects]
    refine ⟨List.rel_filter ?_ hselected, List.rel_filter ?_ hselected⟩
    · intro s u hsu
      beta_reduce
      rw [hsu.allows]
    · intro s u hsu
      beta_reduce
      rw [hsu.allows]

theorem map_attribution_eq {targets targets' : List Target}
    (h : List.Forall₂ Target.Agrees targets targets') :
    targets.map (fun s => (s.key, s.sources)) = targets'.map fun s => (s.key, s.sources) := by
  induction h with
  | nil => rfl
  | cons hst _ ih => rw [List.map_cons, List.map_cons, hst.key_eq, hst.sources, ih]

theorem isEmpty_eq {α β : Type} {R : α → β → Prop} {xs : List α} {ys : List β}
    (h : List.Forall₂ R xs ys) : xs.isEmpty = ys.isEmpty := by
  cases h <;> rfl

theorem StandsFor.sameVerdicts (h : p.StandsFor ms q) : p.SameVerdicts q := by
  have hdirection : ∀ d t, (p.direction d t).isAllowed = (q.direction d t).isAllowed := by
    intro d t
    obtain ⟨hallowing, hdenying⟩ := h.direction d t
    rw [DirectionVerdict.isAllowed, DirectionVerdict.isAllowed, isEmpty_eq hallowing,
      isEmpty_eq hdenying]
  refine ⟨fun d => (h d).keys_eq, ?_, ?_, ?_⟩
  · intro d t
    exact map_attribution_eq (h.direction d t).1
  · intro d t
    exact map_attribution_eq (h.direction d t).2
  · intro t
    simp only [verdict, TrafficVerdict.isAllowed, hdirection]

/-- Simplifying at any points of a run of additions changes no verdict, whatever policy the run
starts from. -/
theorem runSteps_sameVerdicts (p : Policy) (steps : List PolicyStep)
    (h : KeysFaithful (p.matchers ++ steps.flatMap PolicyStep.matchers)) :
    (p.runSteps steps).SameVerdicts (p.runSteps (steps.filter PolicyStep.isAddition)) := by
  have hself : p.StandsFor (p.matchers ++ steps.flatMap PolicyStep.matchers) p :=
    standsFor_self (List.subset_append_left _ _)
  exact (hself.runSteps h (List.subset_append_right _ _)).sameVerdicts

/-- Simplifying changes no verdict: neither between the additions that build a policy, nor at the
end of a compilation. -/
theorem simplify_keeps_verdicts :
    (∀ (sources : List NetworkPolicy) (steps : List PolicyStep),
      KeysFaithful (steps.flatMap PolicyStep.matchers) →
        (runSteps { sources } steps).SameVerdicts
          (runSteps { sources } (steps.filter PolicyStep.isAddition))) ∧
    ∀ manifests : List NetworkPolicy,
      (∀ e, build false manifests = .error e → build true manifests = .error e) ∧
      ∀ p, build false manifests = .ok p → KeysFaithful p.matchers →
        ∃ p', build true manifests = .ok p' ∧ p'.SameVerdicts p := by
  constructor
  · intro sources steps h
    have hnone : ({ sources } : Policy).matchers = [] := rfl
    exact runSteps_sameVerdicts { sources } steps (by rwa [hnone])
  · intro manifests
    unfold build
    cases compile manifests with
    | error e => exact ⟨fun e' h => h, fun p h => by cases h⟩
    | ok p =>
      refine ⟨fun e' h => by (cases h), ?_⟩
      intro p' h hfaithful
      obtain rfl : p = p' := by simpa [Functor.map, Except.map] using h
      refine ⟨p.simplify, rfl, ?_⟩
      have hsteps := runSteps_sameVerdicts p [.simplify] (by simpa [PolicyStep.matchers])
      exact hsteps

/-- Two targets of one key, simplified before and after they are united: what is open to everyone
on port 80 is taken away from the block that the first target opens on 80 and 443. -/
theorem simplify_keeps_verdicts_united :
    let block : IpBlock := ⟨.subnet (.ofParts .v4 8 [10, 0, 0, 0]), []⟩
    let tcp (n : Nat) : PortEntry := ⟨some (.number n), .tcp⟩
    let first : Target := ⟨"x", {}, [.nobody, .block block (.specific [tcp 80] []),
      .block block (.specific [tcp 443] [])], [0]⟩
    let second : Target :=
      ⟨"x", {}, [.ports (.specific [tcp 80] []), .ports (.specific [] [])], [1]⟩
    let steps : List PolicyStep :=
      [.add .ingress first, .simplify, .add .ingress second, .simplify]
    KeysFaithful (steps.flatMap PolicyStep.matchers) ∧
      (runSteps {} steps).SameVerdicts (runSteps {} (steps.filter PolicyStep.isAddition)) := by
  intro block tcp first second steps
  have hfaithful : KeysFaithful (steps.flatMap PolicyStep.matchers) := by
    intro m hm m' hm' hkey peer
    simp only [steps, first, second, PolicyStep.matchers, List.flatMap_cons, List.flatMap_nil,
      List.cons_append, List.nil_append, List.append_nil, List.mem_cons, List.not_mem_nil,
      or_false] at hm hm'
    rcases hm with rfl | rfl | rfl | rfl | rfl <;>
      rcases hm' with rfl | rfl | rfl | rfl | rfl <;> first | rfl | exact hkey.elim
  exact ⟨hfaithful, simplify_keeps_verdicts.1 [] steps hfaithful⟩

end Policy
end PodTraffic
