import PodTraffic.Cluster.Memory
import PodTraffic.Proofs.SortedMap
import PodTraffic.Proofs.Stateful

/-!
# What calls do to a cluster in memory

Each call either finds what it needs and changes the cluster in one way, or is refused and changes
nothing. `Change` lists the ways, with what the caller must be permitted to create.
-/
namespace PodTraffic

namespace Cluster

variable {c : Cluster} {ns name : String} {labels : Labels} {o : PodObject} {s : ServiceObject}
  {p : NetworkPolicy} {mode : ExecMode}

theorem run_getNamespace (h : c.namespaces.get? ns = some labels) :
    (getNamespace ns).run.run c = (.ok labels, c) := by
  rw [getNamespace, Stateful.run_get_bind, h]
  rfl

theorem run_requireNamespace (h : c.namespaces.contains ns = true) :
    (requireNamespace ns).run.run c = (.ok (), c) := by
  obtain ⟨labels, hlabels⟩ := SortedMap.contains_iff.mp h
  rw [requireNamespace, Stateful.run_get_bind, hlabels]
  rfl

theorem run_requireNamespace_of_absent (h : c.namespaces.contains ns = false) :
    (requireNamespace ns).run.run c = (.error (notFound .ns ns), c) := by
  rw [requireNamespace, Stateful.run_get_bind, SortedMap.get?_of_contains_eq_false h]
  rfl

/-- The cluster with a namespace created or relabelled. -/
def withNamespace (ns : String) (labels : Labels) (c : Cluster) : Cluster :=
  { c with namespaces := c.namespaces.insert ns (withNameLabel ns labels) }

theorem run_createNamespace (ns : String) (labels : Labels) (c : Cluster) :
    (createNamespace ns labels).run.run c =
      (.ok (withNameLabel ns labels), c.withNamespace ns labels) := rfl

theorem run_setNamespaceLabels (h : c.namespaces.contains ns = true) (labels : Labels) :
    (setNamespaceLabels ns labels).run.run c =
      (.ok (withNameLabel ns labels), c.withNamespace ns labels) := by
  rw [setNamespaceLabels, Stateful.run_bind_of_ok (run_requireNamespace h)]
  rfl

theorem run_setNamespaceLabels_of_absent (h : c.namespaces.contains ns = false) (labels : Labels) :
    (setNamespaceLabels ns labels).run.run c = (.error (notFound .ns ns), c) := by
  rw [setNamespaceLabels, Stateful.run_bind_of_error (run_requireNamespace_of_absent h)]

theorem run_deleteNamespace (h : c.namespaces.contains ns = true) :
    (deleteNamespace ns).run.run c = (.ok (), c.dropNamespace ns) := by
  rw [deleteNamespace, Stateful.run_bind_of_ok (run_requireNamespace h)]
  rfl

theorem run_deleteNamespace_of_absent (h : c.namespaces.contains ns = false) :
    (deleteNamespace ns).run.run c = (.error (notFound .ns ns), c) := by
  rw [deleteNamespace, Stateful.run_bind_of_error (run_requireNamespace_of_absent h)]

def withPolicy (p : NetworkPolicy) (c : Cluster) : Cluster :=
  { c with policies := c.policies.insert (policyKey p) p.withDefaultTypes }

def withoutPolicy (key : NamePair) (c : Cluster) : Cluster :=
  { c with policies := c.policies.erase key }

/-- The policy compiles as a cluster stores it. -/
def Accepts (p : NetworkPolicy) : Prop :=
  ∃ policy, Policy.compile [p.withDefaultTypes] = .ok policy

theorem run_checkedPolicy (p : NetworkPolicy) (c : Cluster) :
    Accepts p ∧ (checkedPolicy p).run.run c = (.ok p.withDefaultTypes, c) ∨
      ∃ e, (checkedPolicy p).run.run c = (.error e, c) := by
  unfold checkedPolicy Accepts
  simp only []
  cases Policy.compile [p.withDefaultTypes] with
  | ok policy => exact .inl ⟨⟨policy, rfl⟩, rfl⟩
  | error e => exact .inr ⟨.policy e, rfl⟩

/-- A policy is created in a namespace that exists, under a key that is free. -/
theorem run_createPolicy (p : NetworkPolicy) (c : Cluster) :
    (∃ e, (createPolicy p).run.run c = (.error e, c)) ∨
      Accepts p ∧ c.namespaces.contains p.ns = true ∧ c.policies.get? (policyKey p) = none ∧
        (createPolicy p).run.run c = (.ok p.withDefaultTypes, c.withPolicy p) := by
  rcases run_checkedPolicy p c with ⟨haccepts, hchecked⟩ | ⟨e, hchecked⟩
  · cases hns : c.namespaces.contains p.ns with
    | false =>
      have hns' : c.namespaces.contains p.withDefaultTypes.ns = false := hns
      refine .inl ⟨notFound .ns p.ns, ?_⟩
      rw [createPolicy, Stateful.run_bind_of_ok hchecked,
        Stateful.run_bind_of_error (run_requireNamespace_of_absent hns')]
      rfl
    | true =>
      have hns' : c.namespaces.contains p.withDefaultTypes.ns = true := hns
      cases hkey : c.policies.get? (policyKey p) with
      | some present =>
        have hkey' : c.policies.contains (policyKey p.withDefaultTypes) = true :=
          SortedMap.contains_iff.mpr ⟨present, hkey⟩
        refine .inl ⟨.refused (.exists .policy p.fullName), ?_⟩
        rw [createPolicy, Stateful.run_bind_of_ok hchecked,
          Stateful.run_bind_of_ok (run_requireNamespace hns'), Stateful.run_get_bind]
        simp only [hkey', if_true]
        rfl
      | none =>
        have hkey' : c.policies.contains (policyKey p.withDefaultTypes) = false :=
          Option.isSome_eq_false_iff.mpr (Option.isNone_iff_eq_none.mpr hkey)
        refine .inr ⟨haccepts, rfl, rfl, ?_⟩
        rw [createPolicy, Stateful.run_bind_of_ok hchecked,
          Stateful.run_bind_of_ok (run_requireNamespace hns'), Stateful.run_get_bind]
        simp only [hkey', Bool.false_eq_true, if_false]
        rfl
  · refine .inl ⟨e, ?_⟩
    rw [createPolicy, Stateful.run_bind_of_error hchecked]

/-- A policy that is there gives way to its update. -/
theorem run_updatePolicy (p : NetworkPolicy) (c : Cluster) :
    (∃ e, (updatePolicy p).run.run c = (.error e, c)) ∨
      Accepts p ∧ (∃ present, c.policies.get? (policyKey p) = some present) ∧
        (updatePolicy p).run.run c = (.ok p.withDefaultTypes, c.withPolicy p) := by
  rcases run_checkedPolicy p c with ⟨haccepts, hchecked⟩ | ⟨e, hchecked⟩
  · cases hkey : c.policies.get? (policyKey p) with
    | none =>
      refine .inl ⟨notFound .policy p.fullName, ?_⟩
      have hkey' : c.policies.get? (policyKey p.withDefaultTypes) = none := hkey
      rw [updatePolicy, Stateful.run_bind_of_ok hchecked, Stateful.run_get_bind, hkey']
      rfl
    | some present =>
      refine .inr ⟨haccepts, ⟨present, rfl⟩, ?_⟩
      have hkey' : c.policies.get? (policyKey p.withDefaultTypes) = some present := hkey
      rw [updatePolicy, Stateful.run_bind_of_ok hchecked, Stateful.run_get_bind, hkey']
      rfl
  · refine .inl ⟨e, ?_⟩
    rw [updatePolicy, Stateful.run_bind_of_error hchecked]

theorem run_deletePolicy (h : c.policies.get? ⟨ns, name⟩ = some p) :
    (deletePolicy ns name).run.run c = (.ok (), c.withoutPolicy ⟨ns, name⟩) := by
  rw [deletePolicy, Stateful.run_get_bind, h]
  rfl

theorem run_deletePolicy_of_absent (h : c.policies.get? ⟨ns, name⟩ = none) :
    (deletePolicy ns name).run.run c =
      (.error (notFound .policy (NamePair.mk ns name).text), c) := by
  rw [deletePolicy, Stateful.run_get_bind, h]
  rfl

/-- The cluster with one more pod, started. -/
def withPod (p : PodObject) (c : Cluster) : Cluster :=
  { c with
    podsCreated := c.podsCreated + 1
    pods := c.pods.insert p.key (started p (c.podsCreated + 1)) }

def withPodLabels (key : NamePair) (o : PodObject) (labels : Labels) (c : Cluster) : Cluster :=
  { c with pods := c.pods.insert key { o with labels := some labels } }

def withoutPod (key : NamePair) (c : Cluster) : Cluster := { c with pods := c.pods.erase key }

theorem run_getPod (h : c.pods.get? ⟨ns, name⟩ = some o) :
    (getPod ns name).run.run c = (.ok o, c) := by
  rw [getPod, Stateful.run_get_bind, h]
  rfl

theorem run_createPod_of_present {p present : PodObject}
    (hns : c.namespaces.contains p.key.first = true) (h : c.pods.get? p.key = some present) :
    (createPod p).run.run c = (.ok present, c) := by
  rw [createPod, Stateful.run_bind_of_ok (run_requireNamespace hns), Stateful.run_get_bind, h]
  rfl

theorem run_createPod {p : PodObject} (hns : c.namespaces.contains p.key.first = true)
    (h : c.pods.get? p.key = none) :
    (createPod p).run.run c = (.ok (started p (c.podsCreated + 1)), c.withPod p) := by
  rw [createPod, Stateful.run_bind_of_ok (run_requireNamespace hns), Stateful.run_get_bind, h]
  rfl

theorem run_createPod_of_absent {p : PodObject} (hns : c.namespaces.contains p.key.first = false) :
    (createPod p).run.run c = (.error (notFound .ns p.key.first), c) := by
  rw [createPod, Stateful.run_bind_of_error (run_requireNamespace_of_absent hns)]

theorem run_setPodLabels (h : c.pods.get? ⟨ns, name⟩ = some o) (labels : Labels) :
    (setPodLabels ns name labels).run.run c =
      (.ok { o with labels := some labels }, c.withPodLabels ⟨ns, name⟩ o labels) := by
  rw [setPodLabels, Stateful.run_get_bind, h]
  rfl

theorem run_setPodLabels_of_absent (h : c.pods.get? ⟨ns, name⟩ = none) (labels : Labels) :
    (setPodLabels ns name labels).run.run c =
      (.error (notFound .pod (NamePair.mk ns name).text), c) := by
  rw [setPodLabels, Stateful.run_get_bind, h]
  rfl

theorem run_deletePod (h : c.pods.get? ⟨ns, name⟩ = some o) :
    (deletePod ns name).run.run c = (.ok (), c.withoutPod ⟨ns, name⟩) := by
  rw [deletePod, Stateful.run_get_bind, h]
  rfl

theorem run_deletePod_of_absent (h : c.pods.get? ⟨ns, name⟩ = none) :
    (deletePod ns name).run.run c = (.error (notFound .pod (NamePair.mk ns name).text), c) := by
  rw [deletePod, Stateful.run_get_bind, h]
  rfl

def withService (s : ServiceObject) (c : Cluster) : Cluster :=
  { c with services := c.services.insert s.key s }

def withoutService (key : NamePair) (c : Cluster) : Cluster :=
  { c with services := c.services.erase key }

theorem run_getService (h : c.services.get? ⟨ns, name⟩ = some s) :
    (getService ns name).run.run c = (.ok s, c) := by
  rw [getService, Stateful.run_get_bind, h]
  rfl

theorem run_createService_of_present {present : ServiceObject}
    (hns : c.namespaces.contains s.key.first = true) (h : c.services.get? s.key = some present) :
    (createService s).run.run c = (.ok present, c) := by
  rw [createService, Stateful.run_bind_of_ok (run_requireNamespace hns), Stateful.run_get_bind, h]
  rfl

theorem run_createService (hns : c.namespaces.contains s.key.first = true)
    (h : c.services.get? s.key = none) :
    (createService s).run.run c = (.ok s, c.withService s) := by
  rw [createService, Stateful.run_bind_of_ok (run_requireNamespace hns), Stateful.run_get_bind, h]
  rfl

theorem run_createService_of_absent (hns : c.namespaces.contains s.key.first = false) :
    (createService s).run.run c = (.error (notFound .ns s.key.first), c) := by
  rw [createService, Stateful.run_bind_of_error (run_requireNamespace_of_absent hns)]

theorem run_deleteService (h : c.services.get? ⟨ns, name⟩ = some s) :
    (deleteService ns name).run.run c = (.ok (), c.withoutService ⟨ns, name⟩) := by
  rw [deleteService, Stateful.run_get_bind, h]
  rfl

theorem run_deleteService_of_absent (h : c.services.get? ⟨ns, name⟩ = none) :
    (deleteService ns name).run.run c =
      (.error (notFound .service (NamePair.mk ns name).text), c) := by
  rw [deleteService, Stateful.run_get_bind, h]
  rfl

end Cluster

/-- What a caller may create. -/
structure Permit where
  namespaces : String → Prop
  pods : PodObject → Prop
  services : ServiceObject → Prop

namespace Cluster

/-- A change that one call makes. -/
inductive Change (permit : Permit) (c : Cluster) : Cluster → Prop where
  | createNamespace (ns : String) (labels : Labels) (h : permit.namespaces ns) :
      Change permit c (c.withNamespace ns labels)
  | relabelNamespace (ns : String) (labels : Labels) (h : c.namespaces.contains ns = true) :
      Change permit c (c.withNamespace ns labels)
  | dropNamespace (ns : String) : Change permit c (c.dropNamespace ns)
  | createPolicy (p : NetworkPolicy) (haccepts : Accepts p)
      (h : c.namespaces.contains p.ns = true) : Change permit c (c.withPolicy p)
  | updatePolicy (p present : NetworkPolicy) (haccepts : Accepts p)
      (h : c.policies.get? (policyKey p) = some present) : Change permit c (c.withPolicy p)
  | dropPolicies (keep : NamePair → NetworkPolicy → Bool) :
      Change permit c { c with policies := c.policies.filter keep }
  | createPod (p : PodObject) (hpermit : permit.pods p)
      (hns : c.namespaces.contains p.key.first = true) (h : c.pods.get? p.key = none) :
      Change permit c (c.withPod p)
  | relabelPod (key : NamePair) (o : PodObject) (labels : Labels) (h : c.pods.get? key = some o) :
      Change permit c (c.withPodLabels key o labels)
  | dropPod (key : NamePair) : Change permit c (c.withoutPod key)
  | createService (s : ServiceObject) (hpermit : permit.services s)
      (hns : c.namespaces.contains s.key.first = true) (h : c.services.get? s.key = none) :
      Change permit c (c.withService s)
  | dropService (key : NamePair) : Change permit c (c.withoutService key)
  | count (n : Nat) : Change permit c { c with commandsRun := n }

end Cluster

/-- Calls of a client that create no more than is permitted keep `I`. -/
structure Client.Keeps {σ : Type} (client : Client σ) (permit : Permit) (I : σ → Prop) : Prop where
  getNamespace : ∀ ns, Stateful.Keeps I (client.getNamespace ns) fun _ => True
  createNamespace : ∀ ns labels, permit.namespaces ns →
    Stateful.Keeps I (client.createNamespace ns labels) fun _ => True
  setNamespaceLabels : ∀ ns labels,
    Stateful.Keeps I (client.setNamespaceLabels ns labels) fun _ => True
  deleteNamespace : ∀ ns, Stateful.Keeps I (client.deleteNamespace ns) fun _ => True
  listPolicies : ∀ namespaces, Stateful.Keeps I (client.listPolicies namespaces) fun _ => True
  createPolicy : ∀ p, Stateful.Keeps I (client.createPolicy p) fun _ => True
  updatePolicy : ∀ p, Stateful.Keeps I (client.updatePolicy p) fun _ => True
  deletePolicy : ∀ ns name, Stateful.Keeps I (client.deletePolicy ns name) fun _ => True
  deleteAllPolicies : ∀ namespaces,
    Stateful.Keeps I (client.deleteAllPolicies namespaces) fun _ => True
  listPods : ∀ namespaces, Stateful.Keeps I (client.listPods namespaces) fun _ => True
  getPod : ∀ ns name, Stateful.Keeps I (client.getPod ns name) fun _ => True
  createPod : ∀ p, permit.pods p → Stateful.Keeps I (client.createPod p) fun _ => True
  setPodLabels : ∀ ns name labels,
    Stateful.Keeps I (client.setPodLabels ns name labels) fun _ => True
  deletePod : ∀ ns name, Stateful.Keeps I (client.deletePod ns name) fun _ => True
  getService : ∀ ns name, Stateful.Keeps I (client.getService ns name) fun _ => True
  createService : ∀ s, permit.services s → Stateful.Keeps I (client.createService s) fun _ => True
  deleteService : ∀ ns name, Stateful.Keeps I (client.deleteService ns name) fun _ => True
  exec : ∀ ns pod container command,
    Stateful.Keeps I (client.exec ns pod container command) fun _ => True

/-- A call with its arguments, by what it answers. -/
inductive Request : Type → Type where
  | getNamespace (ns : String) : Request Labels
  | createNamespace (ns : String) (labels : Labels) : Request Labels
  | setNamespaceLabels (ns : String) (labels : Labels) : Request Labels
  | deleteNamespace (ns : String) : Request Unit
  | listPolicies (namespaces : List String) : Request (List NetworkPolicy)
  | createPolicy (p : NetworkPolicy) : Request NetworkPolicy
  | updatePolicy (p : NetworkPolicy) : Request NetworkPolicy
  | deletePolicy (ns name : String) : Request Unit
  | deleteAllPolicies (namespaces : List String) : Request Unit
  | listPods (namespaces : List String) : Request (List PodObject)
  | getPod (ns name : String) : Request PodObject
  | createPod (p : PodObject) : Request PodObject
  | setPodLabels (ns name : String) (labels : Labels) : Request PodObject
  | deletePod (ns name : String) : Request Unit
  | getService (ns name : String) : Request ServiceObject
  | createService (s : ServiceObject) : Request ServiceObject
  | deleteService (ns name : String) : Request Unit
  | exec (ns pod container : String) (command : List String) : Request ExecOutput

namespace Request

variable {α : Type}

def send {σ : Type} (client : Client σ) : Request α → Call σ α
  | getNamespace ns => client.getNamespace ns
  | createNamespace ns labels => client.createNamespace ns labels
  | setNamespaceLabels ns labels => client.setNamespaceLabels ns labels
  | deleteNamespace ns => client.deleteNamespace ns
  | listPolicies namespaces => client.listPolicies namespaces
  | createPolicy p => client.createPolicy p
  | updatePolicy p => client.updatePolicy p
  | deletePolicy ns name => client.deletePolicy ns name
  | deleteAllPolicies namespaces => client.deleteAllPolicies namespaces
  | listPods namespaces => client.listPods namespaces
  | getPod ns name => client.getPod ns name
  | createPod p => client.createPod p
  | setPodLabels ns name labels => client.setPodLabels ns name labels
  | deletePod ns name => client.deletePod ns name
  | getService ns name => client.getService ns name
  | createService s => client.createService s
  | deleteService ns name => client.deleteService ns name
  | exec ns pod container command => client.exec ns pod container command

/-- What it asks to create is permitted. -/
def Permitted (permit : Permit) : Request α → Prop
  | createNamespace ns _ => permit.namespaces ns
  | createPod p => permit.pods p
  | createService s => permit.services s
  | _ => True

end Request

theorem Client.Keeps.of_requests {σ : Type} {client : Client σ} {permit : Permit} {I : σ → Prop}
    (h : ∀ {α : Type} (q : Request α), q.Permitted permit →
      Stateful.Keeps I (q.send client) fun _ => True) : client.Keeps permit I where
  getNamespace ns := h (.getNamespace ns) trivial
  createNamespace ns labels hns := h (.createNamespace ns labels) hns
  setNamespaceLabels ns labels := h (.setNamespaceLabels ns labels) trivial
  deleteNamespace ns := h (.deleteNamespace ns) trivial
  listPolicies namespaces := h (.listPolicies namespaces) trivial
  createPolicy p := h (.createPolicy p) trivial
  updatePolicy p := h (.updatePolicy p) trivial
  deletePolicy ns name := h (.deletePolicy ns name) trivial
  deleteAllPolicies namespaces := h (.deleteAllPolicies namespaces) trivial
  listPods namespaces := h (.listPods namespaces) trivial
  getPod ns name := h (.getPod ns name) trivial
  createPod p hp := h (.createPod p) hp
  setPodLabels ns name labels := h (.setPodLabels ns name labels) trivial
  deletePod ns name := h (.deletePod ns name) trivial
  getService ns name := h (.getService ns name) trivial
  createService s hs := h (.createService s) hs
  deleteService ns name := h (.deleteService ns name) trivial
  exec ns pod container command := h (.exec ns pod container command) trivial

namespace Cluster

variable {permit : Permit} {I : Cluster → Prop} {α : Type}

/-- To look something up changes nothing. -/
theorem keeps_found (kind : ObjectKind) (name : String) (x? : Cluster → Option α) :
    Stateful.Keeps I (do found kind name (x? (← get))) fun _ => True := by
  refine .get_bind fun c _ => ?_
  cases x? c with
  | none => exact .throw _
  | some x => exact .pure trivial

theorem keeps_exec (mode : ExecMode) (hcount : ∀ c n, I c → I { c with commandsRun := n })
    (ns pod container : String) (command : List String) :
    Stateful.Keeps I (exec mode ns pod container command) fun _ => True := by
  unfold exec
  refine (Stateful.Keeps.modify fun c hc => hcount c _ hc).bind fun _ _ =>
    .get_bind fun c _ => ?_
  simp only []
  split
  · exact .throw _
  · split
    · exact .throw _
    · split
      · exact .pure trivial
      · exact .throw _

/-- The clusters differ at most in how many commands were run. -/
def SameObjects (c c' : Cluster) : Prop := ∃ n, c' = { c with commandsRun := n }

theorem SameObjects.refl (c : Cluster) : c.SameObjects c := ⟨c.commandsRun, rfl⟩

/-- The call ends well after one change or none, or with an error and every object as it was. -/
def Settles (permit : Permit) (x : Call Cluster α) : Prop :=
  ∀ c, (∃ a c', x.run.run c = (.ok a, c') ∧ (c' = c ∨ Change permit c c')) ∨
    ∃ e c', x.run.run c = (.error e, c') ∧ c.SameObjects c'

namespace Settles

variable {x : Call Cluster α}

theorem refused (c : Cluster) {e : ClusterError} (h : x.run.run c = (.error e, c)) :
    ∃ e c', x.run.run c = (.error e, c') ∧ c.SameObjects c' := ⟨e, c, h, .refl c⟩

theorem of_keeps (h : ∀ c : Cluster, Stateful.Keeps c.SameObjects x fun _ => True) :
    Settles permit x := by
  intro c
  obtain ⟨⟨n, hn⟩, -⟩ := h c c (.refl c)
  cases hanswer : (x.run.run c).1 with
  | ok a => exact .inl ⟨a, _, Prod.ext hanswer hn, .inr (.count n)⟩
  | error e => exact .inr ⟨e, _, Prod.ext hanswer hn, n, rfl⟩

theorem found (kind : ObjectKind) (name : String) (x? : Cluster → Option α) :
    Settles permit (do Cluster.found kind name (x? (← get))) :=
  of_keeps fun _ => keeps_found kind name x?

theorem exec (ns pod container : String) (command : List String) :
    Settles permit (Cluster.exec mode ns pod container command) :=
  of_keeps fun _ => keeps_exec mode (fun _ n hc => by
    obtain ⟨m, rfl⟩ := hc
    exact ⟨n, rfl⟩) ns pod container command

theorem send (mode : ExecMode) (q : Request α) (hq : q.Permitted permit) :
    Settles permit (q.send (client mode)) := by
  cases q with
  | getNamespace ns => exact found .ns ns (·.namespaces.get? ns)
  | createNamespace ns labels =>
    exact fun c =>
      .inl ⟨_, _, run_createNamespace ns labels c, .inr (.createNamespace ns labels hq)⟩
  | setNamespaceLabels ns labels =>
    intro c
    cases h : c.namespaces.contains ns with
    | false => exact .inr (refused c (run_setNamespaceLabels_of_absent h labels))
    | true =>
      exact .inl ⟨_, _, run_setNamespaceLabels h labels, .inr (.relabelNamespace ns labels h)⟩
  | deleteNamespace ns =>
    intro c
    cases h : c.namespaces.contains ns with
    | false => exact .inr (refused c (run_deleteNamespace_of_absent h))
    | true => exact .inl ⟨_, _, run_deleteNamespace h, .inr (.dropNamespace ns)⟩
  | listPolicies namespaces => exact fun c => .inl ⟨_, _, rfl, .inl rfl⟩
  | createPolicy p =>
    intro c
    rcases run_createPolicy p c with ⟨e, h⟩ | ⟨haccepts, hns, -, h⟩
    · exact .inr (refused c h)
    · exact .inl ⟨_, _, h, .inr (.createPolicy p haccepts hns)⟩
  | updatePolicy p =>
    intro c
    rcases run_updatePolicy p c with ⟨e, h⟩ | ⟨haccepts, ⟨present, hkey⟩, h⟩
    · exact .inr (refused c h)
    · exact .inl ⟨_, _, h, .inr (.updatePolicy p present haccepts hkey)⟩
  | deletePolicy ns name =>
    intro c
    cases h : c.policies.get? ⟨ns, name⟩ with
    | none => exact .inr (refused c (run_deletePolicy_of_absent h))
    | some p => exact .inl ⟨_, _, run_deletePolicy h, .inr (.dropPolicies _)⟩
  | deleteAllPolicies namespaces => exact fun c => .inl ⟨_, _, rfl, .inr (.dropPolicies _)⟩
  | listPods namespaces => exact fun c => .inl ⟨_, _, rfl, .inl rfl⟩
  | getPod ns name => exact found .pod _ (·.pods.get? ⟨ns, name⟩)
  | createPod p =>
    intro c
    cases hns : c.namespaces.contains p.key.first with
    | false => exact .inr (refused c (run_createPod_of_absent hns))
    | true =>
      cases h : c.pods.get? p.key with
      | none => exact .inl ⟨_, _, run_createPod hns h, .inr (.createPod p hq hns h)⟩
      | some present => exact .inl ⟨_, _, run_createPod_of_present hns h, .inl rfl⟩
  | setPodLabels ns name labels =>
    intro c
    cases h : c.pods.get? ⟨ns, name⟩ with
    | none => exact .inr (refused c (run_setPodLabels_of_absent h labels))
    | some o => exact .inl ⟨_, _, run_setPodLabels h labels, .inr (.relabelPod _ o labels h)⟩
  | deletePod ns name =>
    intro c
    cases h : c.pods.get? ⟨ns, name⟩ with
    | none => exact .inr (refused c (run_deletePod_of_absent h))
    | some o => exact .inl ⟨_, _, run_deletePod h, .inr (.dropPod _)⟩
  | getService ns name => exact found .service _ (·.services.get? ⟨ns, name⟩)
  | createService s =>
    intro c
    cases hns : c.namespaces.contains s.key.first with
    | false => exact .inr (refused c (run_createService_of_absent hns))
    | true =>
      cases h : c.services.get? s.key with
      | none => exact .inl ⟨_, _, run_createService hns h, .inr (.createService s hq hns h)⟩
      | some present => exact .inl ⟨_, _, run_createService_of_present hns h, .inl rfl⟩
  | deleteService ns name =>
    intro c
    cases h : c.services.get? ⟨ns, name⟩ with
    | none => exact .inr (refused c (run_deleteService_of_absent h))
    | some s => exact .inl ⟨_, _, run_deleteService h, .inr (.dropService _)⟩
  | exec ns pod container command => exact exec ns pod container command

/-- A call that settles keeps what changes keep. -/
theorem keeps (h : Settles permit x) (hchange : ∀ c c', Change permit c c' → I c → I c') :
    Stateful.Keeps I x fun _ => True := by
  intro c hc
  rcases h c with ⟨a, c', hrun, hc'⟩ | ⟨e, c', hrun, n, rfl⟩
  · rw [hrun]
    refine ⟨?_, fun _ _ => trivial⟩
    rcases hc' with rfl | hc'
    · exact hc
    · exact hchange c c' hc' hc
  · rw [hrun]
    exact ⟨hchange c _ (.count n) hc, fun _ _ => trivial⟩

end Settles

theorem keeps_client (mode : ExecMode) (hchange : ∀ c c', Change permit c c' → I c → I c') :
    (client mode).Keeps permit I :=
  .of_requests fun q hq => (Settles.send mode q hq).keeps hchange

end Cluster
end PodTraffic
