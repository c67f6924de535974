import Mathlib.Tactic
import PodTraffic.Corpus

/-!
# What the corpus is made of

A case writes policies and does little else. Letting name lookups through changes the rules of what
a case writes, and nothing else; the names that cases go by are configured ones.
-/
namespace PodTraffic

namespace TestCase

/-- Every action, in order. -/
def actions (c : TestCase) : List Action := c.steps.flatMap (·.actions)

theorem policies_eq (c : TestCase) : c.policies = c.actions.filterMap (·.policy?) := by
  rw [policies, actions, List.filterMap_flatMap]

theorem actions_withDns (port : Nat) (c : TestCase) :
    (c.withDns port).actions = c.actions.map (·.mapPolicy (·.withDns port)) := by
  rw [actions, actions, withDns, List.flatMap_map, List.map_flatMap]

theorem actions_make (description : String) (tags : List String) (steps : List TestStep) :
    (make description tags steps).actions = steps.flatMap (·.actions) := rfl

end TestCase

@[simp] theorem Action.mapPolicy_id (a : Action) : a.mapPolicy id = a := by
  cases a <;> rfl

theorem Action.policy?_mapPolicy (f : NetworkPolicy → NetworkPolicy) (a : Action) :
    (a.mapPolicy f).policy? = a.policy?.map f := by
  cases a <;> rfl

theorem TestCase.policies_withDns (port : Nat) (c : TestCase) :
    (c.withDns port).policies = c.policies.map (·.withDns port) := by
  simp only [policies_eq, actions_withDns, List.filterMap_map, List.map_filterMap,
    Function.comp_def, Action.policy?_mapPolicy]

/-- Policies that are created are written, step by step. -/
theorem TestCase.policies_creating (description : String) (tags : List String)
    (groups : List (List NetworkPolicy)) :
    policies ⟨description, tags, groups.map .creating⟩ = groups.flatten := by
  have hcreated : ∀ manifests : List NetworkPolicy,
      (TestStep.creating manifests).actions.filterMap (·.policy?) = manifests := by
    intro manifests
    simp [TestStep.creating, List.filterMap_map, Action.policy?]
  simp [policies, List.flatMap_map, hcreated, List.flatMap_id']

@[simp] theorem NetworkPolicy.fullName_withDns (port : Nat) (p : NetworkPolicy) :
    (p.withDns port).fullName = p.fullName := rfl

@[simp] theorem Draft.fullName_policy (d : Draft) :
    d.policy.fullName = (if d.ns.isEmpty then "default" else d.ns) ++ "/" ++ d.name := by
  simp only [policy, NetworkPolicy.fullName, NetworkPolicy.ns, NetworkPolicy.shortName,
    Option.filter_some]
  cases d.ns.isEmpty <;> rfl

namespace CorpusOptions

variable (o : CorpusOptions)

theorem pick_mem {α : Type} {values : List α} (h : values ≠ []) (i : Nat) (fallback : α) :
    pick values i fallback ∈ values := by
  rw [pick]
  cases hi : values[i]? with
  | some x => exact List.mem_of_getElem? hi
  | none =>
    cases values with
    | nil => exact absurd rfl h
    | cons x xs => simp

theorem ns_eq_head (h : o.namespaces ≠ []) : o.namespaces.head? = some o.ns := by
  cases hn : o.namespaces with
  | nil => exact absurd hn h
  | cons x xs => simp [ns, pick, hn]

/-- The cases before name lookups are let through. -/
def plainCases : List TestCase :=
  noPolicyCases ++ o.shapeCases ++ o.targetCases ++ o.portCases ++ o.peerCases ++ o.policyCases ++
    o.actionCases

/-- What becomes of a policy. -/
def adapt (p : NetworkPolicy) : NetworkPolicy := if o.allowDns then p.withDns o.dnsPort else p

@[simp] theorem fullName_adapt (p : NetworkPolicy) : (o.adapt p).fullName = p.fullName := by
  rw [adapt]
  cases o.allowDns <;> simp

/-- Cases differ from plain ones in their policies only. -/
theorem exists_plain_of_mem_cases {case : TestCase} (h : case ∈ o.cases) :
    ∃ plain ∈ o.plainCases, case.actions = plain.actions.map (·.mapPolicy o.adapt) := by
  rw [cases] at h
  split at h
  · next hdns =>
    obtain ⟨plain, hplain, rfl⟩ := List.mem_map.mp h
    refine ⟨plain, hplain, ?_⟩
    have hadapt : o.adapt = (·.withDns o.dnsPort) := funext fun p => if_pos hdns
    rw [hadapt]
    exact plain.actions_withDns o.dnsPort
  · next hdns =>
    refine ⟨case, h, ?_⟩
    have hadapt : o.adapt = id := funext fun p => if_neg hdns
    simp [hadapt]

end CorpusOptions
end PodTraffic
