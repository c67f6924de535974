import PodTraffic.Proofs.Cluster.Calls
import PodTraffic.Proofs.Policy.Compile
import PodTraffic.Proofs.Resources

/-!
# Clusters are consistent whatever is asked of them

Any calls with any arguments leave every object under its own names in a namespace that exists, and
policies that compile together. A call that is refused leaves the objects as they were, and none is
refused for the policies that are stored.
-/
namespace PodTraffic

/-- Anything may be created. -/
def Permit.unrestricted : Permit where
  namespaces _ := True
  pods _ := True
  services _ := True

theorem Request.permitted_unrestricted {α : Type} (q : Request α) :
    q.Permitted .unrestricted := by
  cases q <;> trivial

/-- Some policy type is named. -/
def NetworkPolicy.NamesTypes (p : NetworkPolicy) : Prop :=
  ∃ spec, p.spec = some spec ∧ spec.policyTypes.getD [] ≠ []

theorem Policy.namesTypes_of_compile {p : NetworkPolicy} {policy : Policy}
    (h : compile [p] = .ok policy) : p.NamesTypes := by
  have htargets : ∃ pair, p.targets 0 = .ok pair :=
    exists_compile_eq_ok_iff.mp ⟨policy, h⟩ (p, 0) (by simp)
  obtain ⟨spec, hspec, htypes, -⟩ := NetworkPolicy.exists_targets_iff.mp htargets
  exact ⟨spec, hspec, htypes⟩

namespace Cluster

/-- Objects stand under their own names, in namespaces that exist. -/
def Housed {α : Type} (namespaces : SortedMap String Labels) (own : α → NamePair)
    (objects : SortedMap NamePair α) : Prop :=
  ∀ key x, objects.get? key = some x → namespaces.contains key.first = true ∧ own x = key

namespace Housed

variable {α : Type} {namespaces : SortedMap String Labels} {own : α → NamePair}
  {objects : SortedMap NamePair α}

theorem insert (h : Housed namespaces own objects) {x : α} {key : NamePair}
    (hns : namespaces.contains key.first = true) (hkey : own x = key) :
    Housed namespaces own (objects.insert key x) := by
  intro key' y hy
  rw [SortedMap.get?_insert] at hy
  split at hy
  · next heq =>
    cases hy
    rw [eq_of_beq heq]
    exact ⟨hns, hkey⟩
  · exact h key' y hy

theorem filter (h : Housed namespaces own objects) (keep : NamePair → α → Bool) :
    Housed namespaces own (objects.filter keep) := by
  intro key x hx
  rw [SortedMap.get?_filter, Option.filter_eq_some_iff] at hx
  exact h key x hx.1

theorem insertNamespace (h : Housed namespaces own objects) (ns : String) (labels : Labels) :
    Housed (namespaces.insert ns labels) own objects := by
  intro key x hx
  obtain ⟨hns, hkey⟩ := h key x hx
  exact ⟨by simp [hns], hkey⟩

/-- Objects go with their namespace. -/
theorem eraseNamespace (h : Housed namespaces own objects) (ns : String) :
    Housed (namespaces.erase ns) own (objects.filter fun key _ => key.first != ns) := by
  intro key x hx
  rw [SortedMap.get?_filter, Option.filter_eq_some_iff] at hx
  obtain ⟨hns, hkey⟩ := h key x hx.1
  exact ⟨by simp [hns, hx.2], hkey⟩

end Housed

/-- What holds of a cluster whatever calls were made. -/
structure Consistent (c : Cluster) : Prop where
  named : ∀ ns labels, c.namespaces.get? ns = some labels → labels.get? nameLabel = some ns
  pods : Housed c.namespaces PodObject.key c.pods
  services : Housed c.namespaces ServiceObject.key c.services
  policies : Housed c.namespaces policyKey c.policies
  typed : ∀ p ∈ c.policies.values, p.NamesTypes
  compiled : ∀ p ∈ c.policies.values, ∃ policy, Policy.compile [p] = .ok policy

namespace Consistent

variable {c c' : Cluster} {permit : Permit}

theorem empty : Consistent {} where
  named _ _ h := nomatch h
  pods _ _ h := nomatch h
  services _ _ h := nomatch h
  policies _ _ h := nomatch h
  typed _ h := nomatch h
  compiled _ h := nomatch h

theorem withNamespace (h : c.Consistent) (ns : String) (labels : Labels) :
    (c.withNamespace ns labels).Consistent where
  named := by
    intro ns' labels' hlabels
    simp only [Cluster.withNamespace, SortedMap.get?_insert] at hlabels
    split at hlabels
    · next hns =>
      cases hlabels
      rw [eq_of_beq hns]
      exact get?_withNameLabel ns labels
    · exact h.named ns' labels' hlabels
  pods := h.pods.insertNamespace ns _
  services := h.services.insertNamespace ns _
  policies := h.policies.insertNamespace ns _
  typed := h.typed
  compiled := h.compiled

theorem withPolicies (h : c.Consistent) {policies : SortedMap NamePair NetworkPolicy}
    (hhoused : Housed c.namespaces policyKey policies)
    (hcompiled : ∀ p ∈ policies.values, ∃ policy, Policy.compile [p] = .ok policy) :
    Consistent { c with policies := policies } where
  named := h.named
  pods := h.pods
  services := h.services
  policies := hhoused
  typed := by
    intro p hp
    obtain ⟨policy, hpolicy⟩ := hcompiled p hp
    exact Policy.namesTypes_of_compile hpolicy
  compiled := hcompiled

theorem filterPolicies (h : c.Consistent) (keep : NamePair → NetworkPolicy → Bool) :
    Consistent { c with policies := c.policies.filter keep } := by
  refine h.withPolicies (h.policies.filter keep) fun p hp => h.compiled p ?_
  obtain ⟨key, hkey⟩ := SortedMap.mem_values_iff.mp hp
  rw [SortedMap.get?_filter, Option.filter_eq_some_iff] at hkey
  exact SortedMap.mem_values_iff.mpr ⟨key, hkey.1⟩

theorem withPolicy (h : c.Consistent) {p : NetworkPolicy} (haccepts : Accepts p)
    (hns : c.namespaces.contains p.ns = true) : (c.withPolicy p).Consistent := by
  refine h.withPolicies (h.policies.insert hns rfl) fun q hq => ?_
  obtain ⟨key, hkey⟩ := SortedMap.mem_values_iff.mp hq
  rw [SortedMap.get?_insert] at hkey
  split at hkey
  · cases hkey
    exact haccepts
  · exact h.compiled q (SortedMap.mem_values_iff.mpr ⟨key, hkey⟩)

theorem dropNamespace (h : c.Consistent) (ns : String) : (c.dropNamespace ns).Consistent where
  named := by
    intro ns' labels hlabels
    simp only [Cluster.dropNamespace, SortedMap.get?_erase] at hlabels
    split at hlabels
    · cases hlabels
    · exact h.named ns' labels hlabels
  pods := h.pods.eraseNamespace ns
  services := h.services.eraseNamespace ns
  policies := h.policies.eraseNamespace ns
  typed := (h.filterPolicies _).typed
  compiled := (h.filterPolicies _).compiled

theorem withPods (h : c.Consistent) {pods : SortedMap NamePair PodObject} {n : Nat}
    (hpods : Housed c.namespaces PodObject.key pods) :
    Consistent { c with pods := pods, podsCreated := n } :=
  { h with pods := hpods }

theorem withServices (h : c.Consistent) {services : SortedMap NamePair ServiceObject}
    (hservices : Housed c.namespaces ServiceObject.key services) :
    Consistent { c with services := services } :=
  { h with services := hservices }

theorem change (h : c.Consistent) (hc : Change permit c c') : c'.Consistent := by
  cases hc with
  | createNamespace ns labels | relabelNamespace ns labels => exact h.withNamespace ns labels
  | dropNamespace ns => exact h.dropNamespace ns
  | createPolicy p haccepts hns => exact h.withPolicy haccepts hns
  | updatePolicy p present haccepts hkey =>
    exact h.withPolicy haccepts (h.policies _ _ hkey).1
  | dropPolicies keep => exact h.filterPolicies keep
  | createPod p hpermit hns hnew => exact h.withPods (h.pods.insert hns rfl)
  | relabelPod key o labels ho =>
    obtain ⟨hns, hkey⟩ := h.pods key o ho
    exact h.withPods (h.pods.insert hns hkey)
  | dropPod key => exact h.withPods (h.pods.filter _)
  | createService s hpermit hns hnew => exact h.withServices (h.services.insert hns rfl)
  | dropService key => exact h.withServices (h.services.filter _)
  | count n => exact { h with }

theorem exists_compile (h : c.Consistent) :
    ∃ policy, Policy.compile c.policies.values = .ok policy :=
  Policy.exists_compile_of_each h.compiled

end Consistent

section Commands

variable {c : Cluster} {policy : Policy} {mode : ExecMode} {source : PodObject}

theorem exists_runCommand (h : Policy.compile c.policies.values = .ok policy) (mode : ExecMode)
    (place : Nat) (source : PodObject) (argv : List String) :
    ∃ succeeded, c.runCommand mode place source argv = .ok succeeded := by
  cases mode with
  | drawn succeeds => exact ⟨succeeds c.commandsRun place, rfl⟩
  | enforce =>
    simp only [runCommand]
    cases CommandTarget.ofCommand? argv with
    | none => exact ⟨false, rfl⟩
    | some target =>
      simp only [connect]
      cases c.destination? target with
      | none => exact ⟨false, rfl⟩
      | some destination =>
        rw [h]
        exact ⟨_, rfl⟩

/-- A command that starts has an outcome, whether it is a script or not. -/
theorem exists_output (h : Policy.compile c.policies.values = .ok policy) (mode : ExecMode)
    (source : PodObject) (command : List String) :
    ∃ out, c.output mode source command = .ok out := by
  unfold output
  split
  · next script =>
    obtain ⟨lines, hlines⟩ := Fallible.exists_mapM_eq_ok_iff.mpr
      fun e (_ : e ∈ (Batch.parseScript script).zipIdx) => by
        obtain ⟨succeeded, hrun⟩ := exists_runCommand h mode e.2 source e.1.2
        exact ⟨Batch.resultLine e.1.1 (if succeeded then 0 else 1),
          Fallible.bind_eq_ok_iff.mpr ⟨succeeded, hrun, rfl⟩⟩
    exact ⟨_, Fallible.bind_eq_ok_iff.mpr ⟨lines, hlines, rfl⟩⟩
  · obtain ⟨succeeded, hrun⟩ := exists_runCommand h mode 0 source command
    exact ⟨_, Fallible.bind_eq_ok_iff.mpr ⟨succeeded, hrun, rfl⟩⟩

/-- A command fails only when it does not start. -/
theorem Consistent.exec_ne_policy (h : c.Consistent) (mode : ExecMode)
    (ns pod container : String) (command : List String) (e : PolicyError) :
    ((exec mode ns pod container command).run.run c).1 ≠ .error (.policy e) := by
  let counted : Cluster := { c with commandsRun := c.commandsRun + 1 }
  obtain ⟨policy, hpolicy⟩ : ∃ policy, Policy.compile counted.policies.values = .ok policy :=
    h.exists_compile
  have hcount : (modify fun c : Cluster => { c with commandsRun := c.commandsRun + 1 } :
      Call Cluster Unit).run.run c = (.ok (), counted) := rfl
  rw [exec, Stateful.run_bind_of_ok hcount, Stateful.run_get_bind]
  simp only []
  cases counted.pods.get? ⟨ns, pod⟩ with
  | none =>
    intro herror
    cases herror
  | some source =>
    obtain ⟨out, hout⟩ := exists_output hpolicy mode source command
    simp only [hout]
    split
    · intro herror
      cases herror
    · intro herror
      cases herror

end Commands

/-- What calls with any arguments lead to, answered or refused. Each may meet a mode of its own, as
where commands succeed at random. -/
inductive Reached : Cluster → Prop where
  | start : Reached {}
  | call {c : Cluster} {α : Type} (mode : ExecMode) (q : Request α) (h : Reached c) :
      Reached ((q.send (client mode)).run.run c).2

theorem Reached.keeps (mode : ExecMode) : (client mode).Keeps .unrestricted Reached :=
  .of_requests fun q _ _ hc => ⟨.call mode q hc, fun _ _ => trivial⟩

theorem Reached.consistent {c : Cluster} (h : Reached c) : c.Consistent := by
  induction h with
  | start => exact .empty
  | call mode q _ ih =>
    have hkeeps := (Settles.send mode q q.permitted_unrestricted).keeps
      fun c c' hc (h : c.Consistent) => h.change hc
    exact (hkeeps _ ih).1

/-- Every reachable cluster is consistent: its policies compile together, commands do not fail for
them, and a call that fails changes no object. -/
theorem Reached.store_consistent {c : Cluster} (h : Reached c) :
    c.Consistent ∧ (∃ policy, Policy.compile c.policies.values = .ok policy) ∧
      ∀ mode : ExecMode,
        (∀ ns pod container command e,
          ((exec mode ns pod container command).run.run c).1 ≠ .error (.policy e)) ∧
        ∀ {α : Type} (q : Request α) e c', (q.send (client mode)).run.run c = (.error e, c') →
          c'.namespaces = c.namespaces ∧ c'.pods = c.pods ∧ c'.services = c.services ∧
            c'.policies = c.policies := by
  have hconsistent := h.consistent
  refine ⟨hconsistent, hconsistent.exists_compile, fun mode =>
    ⟨hconsistent.exec_ne_policy mode, fun q e c' hrun => ?_⟩⟩
  rcases Settles.send mode q q.permitted_unrestricted c with
    ⟨a, c'', hok, -⟩ | ⟨e', c'', herror, n, rfl⟩
  · rw [hok] at hrun
    cases hrun
  · rw [herror] at hrun
    cases hrun
    exact ⟨rfl, rfl, rfl, rfl⟩

/-- A namespace with another one's name label, a pod without a name, a policy without types and a
refused call; a policy without a spec is refused next. -/
theorem Reached.store_consistent_unnamed :
    let after {α : Type} (c : Cluster) (q : Request α) : Cluster :=
      ((q.send (client .enforce)).run.run c).2
    let web : NetworkPolicy :=
      ⟨{ ns := some "x", name := some "web" }, some { egress := some [{}] }⟩
    let c₁ := after {} (.createNamespace "x" (.ofList [(nameLabel, "y")]))
    let c₂ := after c₁ (.createPod { ns := some "x" })
    let c₃ := after c₂ (.createPolicy web)
    let c := after c₃ (.deleteNamespace "y")
    c.pods.keys = [⟨"x", ""⟩] ∧ c.policies.keys = [⟨"x", "web"⟩] ∧ c.Consistent ∧
      (∃ policy, Policy.compile c.policies.values = .ok policy) ∧
      ∃ e c', ((Request.createPolicy {}).send (client .enforce)).run.run c = (.error e, c') ∧
        c'.policies = c.policies := by
  intro after web c₁ c₂ c₃ c
  have hreached : Reached c :=
    .call .enforce _ (.call .enforce _ (.call .enforce _ (.call .enforce _ .start)))
  obtain ⟨hconsistent, hcompile, hcalls⟩ := hreached.store_consistent
  obtain ⟨e, c', hrefused⟩ : ∃ e c',
      ((Request.createPolicy {}).send (client .enforce)).run.run c = (.error e, c') := ⟨_, _, rfl⟩
  obtain ⟨-, -, -, hpolicies⟩ := (hcalls .enforce).2 _ e c' hrefused
  exact ⟨by decide, by decide, hconsistent, hcompile, e, c', hrefused, hpolicies⟩

end Cluster
end PodTraffic
