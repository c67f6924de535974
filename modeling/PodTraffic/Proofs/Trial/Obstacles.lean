import PodTraffic.Proofs.History
import PodTraffic.Proofs.SortedMap
import PodTraffic.Proofs.Trial.Effect

/-!
# Obstacles

Whatever the cluster answers, the model of a trial refuses an action exactly when the action is not
ready: it creates what the model has, or changes or deletes what the model lacks. What the model
holds after an action that was accepted does not depend on the cluster either, but for addresses and
for policies that are read.
-/
namespace PodTraffic

namespace Action

/-- The model has what the action changes or deletes, and lacks what it creates. -/
def Ready (t : TrialState) : Action → Prop
  | createPolicy p => t.hasPolicy p.fullName = false
  | updatePolicy p => t.hasPolicy p.fullName = true
  | deletePolicy ns name => t.hasPolicy (NamePair.mk ns name).text = true
  | readPolicies _ => True
  | setPodLabels ns pod _ | deletePod ns pod => ⟨ns, pod⟩ ∈ t.resources.pods.map (·.names)
  | setNamespaceLabels ns _ | deleteNamespace ns => ns ∈ t.resources.namespaces.keys
  | createNamespace ns _ => ns ∉ t.resources.namespaces.keys
  | createPod ns pod _ =>
    ns ∈ t.resources.namespaces.keys ∧ ⟨ns, pod⟩ ∉ t.resources.pods.map (·.names)

/-- The edit of the model that the action makes. -/
def edit? : Action → Option Edit
  | setPodLabels ns pod labels => some (.setPodLabels ns pod labels)
  | setNamespaceLabels ns labels => some (.setNamespaceLabels ns labels)
  | createNamespace ns labels => some (.createNamespace ns labels)
  | deleteNamespace ns => some (.deleteNamespace ns)
  | createPod ns pod labels => some (.createPod ns pod labels)
  | deletePod ns pod => some (.deletePod ns pod)
  | createPolicy _ | updatePolicy _ | deletePolicy .. | readPolicies _ => none

/-- An action is ready exactly if the edit that it makes is not refused. -/
theorem exists_error_iff {t : TrialState} {a : Action} {e : Edit} (he : a.edit? = some e) :
    (∃ x, e.apply t.resources = .error x) ↔ ¬ a.Ready t := by
  simp only [Edit.apply_eq_error_iff]
  cases a with
  | createPolicy | updatePolicy | deletePolicy | readPolicies => cases he
  | setPodLabels | setNamespaceLabels | createNamespace | deleteNamespace | deletePod =>
    cases he
    simp only [Edit.Refused, Ready, not_not, exists_and_left, exists_eq, and_true]
  | createPod ns pod labels =>
    cases he
    simp only [Edit.Refused, Ready, not_and, not_not, exists_or, exists_and_left, exists_eq,
      and_true]
    tauto

/-- The state that an accepted action leads to. -/
def Leads (t t' : TrialState) : Action → Prop
  | createPolicy p | updatePolicy p => t' = t.putPolicy p
  | deletePolicy ns name =>
    t' = { t with policies := t.policies.erase (NamePair.mk ns name).text }
  | readPolicies _ => t'.resources = t.resources
  | setPodLabels ns pod labels =>
    ∃ r, t.resources.setPodLabels ns pod labels = .ok r ∧ t' = { t with resources := r }
  | setNamespaceLabels ns labels =>
    ∃ r, t.resources.setNamespaceLabels ns labels = .ok r ∧ t' = { t with resources := r }
  | createNamespace ns labels =>
    ∃ r, t.resources.createNamespace ns labels = .ok r ∧ t' = { t with resources := r }
  | deleteNamespace ns =>
    ∃ r, t.resources.deleteNamespace ns = .ok r ∧
      t' = { resources := r
             policies := t.policies.filter fun e => !TrialState.isInside ns e.1 }
  | createPod ns pod labels =>
    ∃ r ip, t.resources.createPod ns pod labels = .ok r ∧
      t' = { t with resources := r.withPodIps (.ofList [((NamePair.mk ns pod).text, ip)]) }
  | deletePod ns pod =>
    ∃ r, t.resources.deletePod ns pod = .ok r ∧ t' = { t with resources := r }

end Action

namespace Trial

variable {σ α β : Type} {x : TrialM σ α} {f : α → TrialM σ β} {s s' : Session σ}

/-- The step ends with an obstacle. -/
def Obstructed (x : TrialM σ α) (s : Session σ) : Prop :=
  ∃ o s', x.run.run s = (.error (.obstacle o), s')

/-- The obstacle that a step ended with. -/
def obstacle? : Except TrialError α → Option Obstacle
  | .error (.obstacle o) => some o
  | .error (.cluster _) | .ok _ => none

theorem isSome_obstacle?_iff : (obstacle? (x.run.run s).1).isSome = true ↔ Obstructed x s := by
  rw [Obstructed]
  rcases x.run.run s with ⟨(o | e) | a, s'⟩
  · exact iff_of_true rfl ⟨o, s', rfl⟩
  · exact iff_of_false Bool.false_ne_true fun ⟨_, _, h⟩ => nomatch h
  · exact iff_of_false Bool.false_ne_true fun ⟨_, _, h⟩ => nomatch h

instance : Decidable (Obstructed x s) := decidable_of_iff _ isSome_obstacle?_iff

@[simp] theorem not_obstructed_pure (a : α) (s : Session σ) :
    ¬ Obstructed (pure a : TrialM σ α) s := by
  intro h
  obtain ⟨o, s', h⟩ := h
  cases h

@[simp] theorem obstructed_fail (o : Obstacle) (s : Session σ) :
    Obstructed (fail (.obstacle o) : TrialM σ α) s := ⟨o, s, rfl⟩

/-- Clusters report no obstacles. -/
@[simp] theorem not_obstructed_call (x : Call σ α) (s : Session σ) : ¬ Obstructed (call x) s := by
  intro h
  obtain ⟨o, s', h⟩ := h
  cases hx : x.run.run s.cluster with
  | mk answer c =>
    rw [run_call hx] at h
    cases answer with
    | error e => cases h
    | ok a => cases h

theorem obstructed_bind_iff : Obstructed (x >>= f) s ↔
    Obstructed x s ∨ ∃ a s', x.run.run s = (.ok a, s') ∧ Obstructed (f a) s' := by
  cases hx : x.run.run s with
  | mk answer s₁ =>
    cases answer with
    | error e =>
      have hbind : (x >>= f).run.run s = (.error e, s₁) := Stateful.run_bind_of_error hx
      constructor
      · intro h
        obtain ⟨o, s', h⟩ := h
        rw [hbind] at h
        cases h
        exact .inl ⟨o, s₁, hx⟩
      · intro h
        rcases h with ⟨o, s', h⟩ | ⟨a, s', h, -⟩
        · rw [hx] at h
          cases h
          exact ⟨o, s₁, hbind⟩
        · cases h
    | ok a =>
      have hbind : (x >>= f).run.run s = (f a).run.run s₁ := Stateful.run_bind_of_ok hx
      constructor
      · intro h
        obtain ⟨o, s', h⟩ := h
        exact .inr ⟨a, s₁, rfl, o, s', hbind ▸ h⟩
      · intro h
        rcases h with ⟨o, s', h⟩ | ⟨a', s', h, o, s'', h'⟩
        · rw [hx] at h
          cases h
        · cases h
          exact ⟨o, s'', hbind.trans h'⟩

@[simp] theorem obstructed_map {g : α → β} : Obstructed (g <$> x) s ↔ Obstructed x s := by
  rw [map_eq_pure_bind, obstructed_bind_iff]
  simp

@[simp] theorem obstructed_discard : Obstructed (discard x) s ↔ Obstructed x s := obstructed_map

@[simp] theorem not_obstructed_noteCreated (ns : String) (s : Session σ) :
    ¬ Obstructed (noteCreated ns) s := by
  intro h
  obtain ⟨o, s', h⟩ := h
  cases h

/-- A change that the model refuses is an obstacle. -/
theorem obstructed_change_bind_iff {next : Except Refusal Resources} {f : Resources → TrialM σ β}
    (hf : ∀ r, next = .ok r → ¬ Obstructed (f r) s) :
    Obstructed (change next >>= f) s ↔ ∃ x, next = .error x := by
  cases next with
  | error x => simp [change, obstructed_bind_iff]
  | ok r =>
    have hr : change (.ok r) >>= f = f r := rfl
    simp [hr, hf r rfl]

theorem obstructed_requirePolicy_bind_iff {t : TrialState} {name : String} {f : Unit → TrialM σ β}
    (hf : ¬ Obstructed (f ()) s) :
    Obstructed (t.requirePolicy name >>= f) s ↔ ¬ t.hasPolicy name = true := by
  unfold TrialState.requirePolicy
  split
  · next hname =>
    have hbind : (pure () : TrialM σ Unit) >>= f = f () := rfl
    rw [hbind]
    simp [hf, hname]
  · next hname => simp [hname, obstructed_bind_iff]

variable {client : Client σ} {image : String} {t t' : TrialState} {a : Action}

/-- Whatever the cluster, an action meets an obstacle exactly if it is not ready. -/
theorem obstructed_apply_iff : Obstructed (t.apply client image a) s ↔ ¬ a.Ready t := by
  cases a with
  | createPolicy p =>
    rw [TrialState.apply, Action.Ready]
    cases t.hasPolicy p.fullName with
    | true => simp [obstructed_bind_iff]
    | false => simp
  | updatePolicy p => exact obstructed_requirePolicy_bind_iff (by simp)
  | deletePolicy ns name => exact obstructed_requirePolicy_bind_iff (by simp)
  | readPolicies namespaces => simp [TrialState.apply, Action.Ready]
  | setPodLabels ns pod labels =>
    exact (obstructed_change_bind_iff fun r _ => by simp).trans
      (Action.exists_error_iff (e := .setPodLabels ns pod labels) rfl)
  | setNamespaceLabels ns labels =>
    exact (obstructed_change_bind_iff fun r _ => by simp).trans
      (Action.exists_error_iff (e := .setNamespaceLabels ns labels) rfl)
  | createNamespace ns labels =>
    exact (obstructed_change_bind_iff fun r _ => by simp [obstructed_bind_iff]).trans
      (Action.exists_error_iff (e := .createNamespace ns labels) rfl)
  | deleteNamespace ns =>
    exact (obstructed_change_bind_iff fun r _ => by simp).trans
      (Action.exists_error_iff (e := .deleteNamespace ns) rfl)
  | createPod ns pod labels =>
    refine (obstructed_change_bind_iff fun r hr => ?_).trans
      (Action.exists_error_iff (e := .createPod ns pod labels) rfl)
    have hp : r.pod? ns pod = some (t.resources.newPod ns pod labels) :=
      Resources.podAt_of_createPod hr
    simp [hp]
  | deletePod ns pod =>
    refine (obstructed_change_bind_iff fun r _ => ?_).trans
      (Action.exists_error_iff (e := .deletePod ns pod) rfl)
    cases t.resources.pod? ns pod with
    | none => simp
    | some p => simp

theorem exists_of_run_change {next : Except Refusal Resources} {f : Resources → TrialM σ β} {b : β}
    (h : (change next >>= f).run.run s = (.ok b, s')) :
    ∃ r, next = .ok r ∧ (f r).run.run s = (.ok b, s') := by
  cases next with
  | error x => cases h
  | ok r => exact ⟨r, rfl, h⟩

theorem eq_of_run_then {b b' : β} (h : (do discard x; return b').run.run s = (.ok b, s')) :
    b = b' := by
  obtain ⟨-, s₁, -, h⟩ := Stateful.exists_of_run_bind h
  cases h
  rfl

theorem leads_of_run (h : (t.apply client image a).run.run s = (.ok t', s')) : a.Leads t t' := by
  cases a with
  | createPolicy p =>
    rw [TrialState.apply] at h
    split at h
    · cases h
    · exact eq_of_run_then h
  | updatePolicy p =>
    obtain ⟨-, s₁, -, h⟩ := Stateful.exists_of_run_bind h
    exact eq_of_run_then h
  | deletePolicy ns name =>
    obtain ⟨-, s₁, -, h⟩ := Stateful.exists_of_run_bind h
    obtain ⟨-, s₂, -, h⟩ := Stateful.exists_of_run_bind h
    cases h
    rfl
  | readPolicies namespaces =>
    obtain ⟨stored, s₁, -, h⟩ := Stateful.exists_of_run_bind h
    cases h
    rfl
  | setPodLabels ns pod labels =>
    obtain ⟨r, hr, h⟩ := exists_of_run_change h
    exact ⟨r, hr, eq_of_run_then h⟩
  | setNamespaceLabels ns labels =>
    obtain ⟨r, hr, h⟩ := exists_of_run_change h
    exact ⟨r, hr, eq_of_run_then h⟩
  | createNamespace ns labels =>
    obtain ⟨r, hr, h⟩ := exists_of_run_change h
    obtain ⟨-, s₁, -, h⟩ := Stateful.exists_of_run_bind h
    exact ⟨r, hr, eq_of_run_then h⟩
  | deleteNamespace ns =>
    obtain ⟨r, hr, h⟩ := exists_of_run_change h
    obtain ⟨-, s₁, -, h⟩ := Stateful.exists_of_run_bind h
    cases h
    exact ⟨r, hr, rfl⟩
  | createPod ns pod labels =>
    obtain ⟨r, hr, h⟩ := exists_of_run_change h
    have hp : r.pod? ns pod = some (t.resources.newPod ns pod labels) :=
      Resources.podAt_of_createPod hr
    rw [hp] at h
    obtain ⟨ip, s₁, -, h⟩ := Stateful.exists_of_run_bind h
    cases h
    exact ⟨r, ip, hr, rfl⟩
  | deletePod ns pod =>
    obtain ⟨r, hr, h⟩ := exists_of_run_change h
    cases hp : t.resources.pod? ns pod with
    | none =>
      rw [hp] at h
      cases h
      exact ⟨r, hr, rfl⟩
    | some p =>
      rw [hp] at h
      obtain ⟨-, s₁, -, h⟩ := Stateful.exists_of_run_bind h
      cases h
      exact ⟨r, hr, rfl⟩

/-- Actions in order, up to the first that is not accepted. -/
def script (client : Client σ) (image : String) (t : TrialState) (actions : List Action) :
    TrialM σ TrialState :=
  actions.foldlM (TrialState.apply client image) t

/-- Every action is ready in whatever state those before it lead to. -/
inductive Fits : TrialState → List Action → Prop
  | nil (t : TrialState) : Fits t []
  | cons {t : TrialState} {a : Action} {actions : List Action} (ready : a.Ready t)
      (rest : ∀ t', a.Leads t t' → Fits t' actions) : Fits t (a :: actions)

variable {actions : List Action}

theorem obstructed_script_cons_iff : Obstructed (script client image t (a :: actions)) s ↔
    ¬ a.Ready t ∨ ∃ t' s', (t.apply client image a).run.run s = (.ok t', s') ∧
      Obstructed (script client image t' actions) s' := by
  have hfirst : Obstructed (t.apply client image a) s ↔ ¬ a.Ready t := obstructed_apply_iff
  rw [← hfirst, script, List.foldlM_cons]
  exact obstructed_bind_iff

/-- A script that fits meets no obstacle on any cluster. -/
theorem Fits.not_obstructed (h : Fits t actions) :
    ¬ Obstructed (script client image t actions) s := by
  induction h generalizing s with
  | nil t => exact not_obstructed_pure t s
  | cons ready rest ih =>
    rw [obstructed_script_cons_iff]
    intro h
    rcases h with h | ⟨t', s', hrun, h⟩
    · exact h ready
    · exact ih t' (leads_of_run hrun) h

end Trial
end PodTraffic
