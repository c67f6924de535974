import PodTraffic.Proofs.Config
import PodTraffic.Proofs.Trial.Effect
import PodTraffic.Trial

/-!
# Sessions and trials that are reached

From a session on, any trials are run, each until any of its actions is refused or until it is left;
in a trial, actions are accepted and probes made in any order. Runs of test cases go no other way.
What single calls keep of a cluster, and actions of the model of a trial, is kept on all of these
ways.
-/
namespace PodTraffic

section Reached

variable {σ : Type} (client : Client σ) (config : Config)
  (permits : TrialState → σ → Action → Prop)

/-- The states of a trial that began in the session `s`, each with the session then. -/
inductive Trial.Reaches (s : Session σ) : TrialState → Session σ → Prop where
  | prepared {r : Resources} {s' : Session σ}
      (hrun : (prepare client config).run.run s = (.ok r, s')) : Reaches s { resources := r } s'
  | acted {t t' : TrialState} {a : Action} {s' s'' : Session σ} (h : Reaches s t s')
      (hpermits : permits t s'.cluster a)
      (hrun : (t.apply client config.cluster.image a).run.run s' = (.ok t', s'')) :
      Reaches s t' s''
  | probed {t : TrialState} {s' : Session σ} (h : Reaches s t s') (ports : ProbeConfig)
      (simulated : ProbeTable) :
      Reaches s t ((attempt client config.trial t.resources ports simulated).run.run s').2

/-- The sessions after any trials, from `s₀` on. -/
inductive Session.Reached (s₀ : Session σ) : Session σ → Prop where
  | start : Reached s₀ s₀
  /-- A trial that could not be prepared. -/
  | unprepared {e : TrialError} {s s' : Session σ} (h : Reached s₀ s)
      (hrun : (Trial.prepare client config).run.run s = (.error e, s')) : Reached s₀ s'
  /-- A trial that was left, at its end or before. -/
  | left {t : TrialState} {s s' : Session σ} (h : Reached s₀ s)
      (ht : Trial.Reaches client config permits s t s') : Reached s₀ s'
  /-- A trial that ended with an action that was refused. -/
  | refused {t : TrialState} {a : Action} {e : TrialError} {s s' s'' : Session σ}
      (h : Reached s₀ s) (ht : Trial.Reaches client config permits s t s')
      (hpermits : permits t s'.cluster a)
      (hrun : (t.apply client config.cluster.image a).run.run s' = (.error e, s'')) :
      Reached s₀ s''

end Reached

namespace Trial

variable {σ : Type} {client : Client σ} {config : Config}
  {permits : TrialState → σ → Action → Prop} {s₀ s s' s'' : Session σ} {t : TrialState}

/-- A trial stays where it is while it probes. -/
theorem Reaches.keeps_attempts {ports : ProbeConfig} {simulated : ProbeTable} (retries : Nat) :
    Stateful.Keeps (Reaches client config permits s t)
      (attempts client config.trial t.resources ports simulated retries) fun _ => True := by
  have hattempt : Stateful.Keeps (Reaches client config permits s t)
      (attempt client config.trial t.resources ports simulated) fun _ => True :=
    fun s' hs' => ⟨.probed hs' ports simulated, fun _ _ => trivial⟩
  induction retries with
  | zero => exact hattempt.bind fun _ _ => .pure trivial
  | succ retries ih =>
    refine hattempt.bind fun first _ => ?_
    split
    · exact .pure trivial
    · exact ih.bind fun _ _ => .pure trivial

theorem Reaches.actions (h₀ : Session.Reached client config permits s₀ s)
    (h : Reaches client config permits s t s') {actions : List Action}
    (hpermits : ∀ a ∈ actions, ∀ t c, permits t c a) :
    (∃ t' s'', (actions.foldlM (TrialState.apply client config.cluster.image) t).run.run s' =
        (.ok t', s'') ∧ Reaches client config permits s t' s'') ∨
      ∃ e s'', (actions.foldlM (TrialState.apply client config.cluster.image) t).run.run s' =
        (.error e, s'') ∧ Session.Reached client config permits s₀ s'' := by
  induction actions generalizing t s' with
  | nil => exact .inl ⟨t, s', rfl, h⟩
  | cons a actions ih =>
    rw [List.foldlM_cons]
    cases hrun : (t.apply client config.cluster.image a).run.run s' with
    | mk answer s'' =>
      have ha := hpermits a List.mem_cons_self t s'.cluster
      cases answer with
      | error e =>
        rw [Stateful.run_bind_of_error hrun]
        exact .inr ⟨e, s'', rfl, .refused h₀ h ha hrun⟩
      | ok t' =>
        rw [Stateful.run_bind_of_ok hrun]
        exact ih (.acted h ha hrun) fun b hb => hpermits b (.tail a hb)

/-- A trial is reached by the actions that it accepts. -/
theorem Reaches.of_run {actions : List Action} (hpermits : ∀ a ∈ actions, ∀ t c, permits t c a)
    (hrun : (do let r ← prepare client config
                actions.foldlM (TrialState.apply client config.cluster.image) { resources := r } :
              TrialM σ TrialState).run.run s = (.ok t, s')) :
    Reaches client config permits s t s' := by
  obtain ⟨r, s₁, hprepare, hactions⟩ := Stateful.exists_of_run_bind hrun
  rcases (Reaches.prepared hprepare).actions .start hpermits with
    ⟨t', s'', hok, ht⟩ | ⟨e, s'', herror, -⟩
  · cases hok.symm.trans hactions
    exact ht
  · cases herror.symm.trans hactions

theorem Reaches.step (h₀ : Session.Reached client config permits s₀ s)
    (h : Reaches client config permits s t s') {step : TestStep}
    (hpermits : ∀ a ∈ step.actions, ∀ t c, permits t c a) :
    (∃ t' result s'', (Trial.step client config t step).run.run s' = (.ok (t', result), s'') ∧
        Reaches client config permits s t' s'') ∨
      ∃ e s'', (Trial.step client config t step).run.run s' = (.error e, s'') ∧
        Session.Reached client config permits s₀ s'' := by
  unfold Trial.step
  rcases h.actions h₀ hpermits with ⟨t', s₁, hrun, h'⟩ | ⟨e, s₁, hrun, h'⟩
  · rw [Stateful.run_bind_of_ok hrun]
    simp only []
    split
    · exact .inr ⟨_, s₁, rfl, .left h₀ h'⟩
    · next policy _ =>
      cases hattempts : (Trial.attempts client config.trial t'.resources step.probe
          (simulateProbe policy t'.resources step.probe) config.trial.retries).run.run s₁ with
      | mk answer s₂ =>
        have h₂ := (Reaches.keeps_attempts _).of_run h' hattempts
        cases answer with
        | error e =>
          rw [Stateful.run_bind_of_error hattempts]
          exact .inr ⟨e, s₂, rfl, .left h₀ h₂⟩
        | ok results =>
          rw [Stateful.run_bind_of_ok hattempts]
          exact .inl ⟨t', _, s₂, rfl, h₂⟩
  · rw [Stateful.run_bind_of_error hrun]
    exact .inr ⟨e, s₁, rfl, h'⟩

theorem Reaches.steps (h₀ : Session.Reached client config permits s₀ s)
    (h : Reaches client config permits s t s') {steps : List TestStep}
    (hpermits : ∀ step ∈ steps, ∀ a ∈ step.actions, ∀ t c, permits t c a) :
    Session.Reached client config permits s₀ ((Trial.steps client config t steps).run s').2 := by
  induction steps generalizing t s' with
  | nil => exact .left h₀ h
  | cons step steps ih =>
    rw [Trial.steps, Stateful.run_stateM_bind]
    rcases h.step h₀ (hpermits step List.mem_cons_self) with
      ⟨t', result, s'', hrun, h'⟩ | ⟨e, s'', hrun, h'⟩
    · rw [hrun]
      exact ih h' fun later hlater => hpermits later (.tail step hlater)
    · rw [hrun]
      exact h'

end Trial

namespace Session

variable {σ : Type} {client : Client σ} {config : Config}
  {permits : TrialState → σ → Action → Prop} {s₀ s : Session σ}

/-- Running a test case leads from a reached session to another. -/
theorem Reached.run (h : Reached client config permits s₀ s) {c : TestCase}
    (hpermits : ∀ step ∈ c.steps, ∀ a ∈ step.actions, ∀ t c, permits t c a) :
    Reached client config permits s₀ ((Trial.run client config c).run s).2 := by
  rw [Trial.run, Stateful.run_stateM_bind]
  cases hprepare : (Trial.prepare client config).run.run s with
  | mk answer s' =>
    cases answer with
    | error e => exact .unprepared h hprepare
    | ok r => exact Trial.Reaches.steps h (.prepared hprepare) hpermits

/-- So does running any number of them. -/
theorem Reached.runAll (h : Reached client config permits s₀ s) {cases : List TestCase}
    (hpermits : ∀ c ∈ cases, ∀ step ∈ c.steps, ∀ a ∈ step.actions, ∀ t c, permits t c a) :
    Reached client config permits s₀ ((Trial.runAll client config cases).run s).2 := by
  induction cases generalizing s with
  | nil => exact h
  | cons c cases ih =>
    rw [Trial.runAll, Stateful.run_stateM_bind]
    have hc := h.run (hpermits c List.mem_cons_self)
    split
    · exact hc
    · exact ih hc fun later hlater => hpermits later (.tail c hlater)

end Session

/-- What an action would create may be created. -/
def Permit.Admits (permit : Permit) (image : String) (t : TrialState) : Action → Prop
  | .createNamespace ns _ => permit.namespaces ns
  | .createPod ns name labels =>
    permit.pods ((t.resources.newPod ns name labels).object image) ∧
      permit.services (t.resources.newPod ns name labels).serviceObject
  | _ => True

theorem Permit.admits_ofModels {allowed : String → Prop} {a : Action}
    (ha : ∀ ns labels, a = .createNamespace ns labels → allowed ns) (image : String)
    (t : TrialState) : (Permit.ofModels allowed).Admits image t a := by
  cases a with
  | createNamespace ns labels => exact ha ns labels rfl
  | createPod ns name labels => exact ⟨⟨_, image, rfl⟩, ⟨_, rfl⟩⟩
  | _ => trivial

/-- A property of the cluster, and what was deployed, which only gets new addresses. -/
structure Session.Kept {σ : Type} (I : σ → Prop) (base : Resources) (s : Session σ) : Prop where
  cluster : I s.cluster
  deployed : s.deployed.withoutIps = base.withoutIps

/-- Addresses do not matter to the objects of a model. -/
theorem Permit.Covers.of_withoutIps_eq {permit : Permit} {image : String} {r r' : Resources}
    (hr : permit.Covers image r) (h : r'.withoutIps = r.withoutIps) : permit.Covers image r' := by
  have hnamespaces : r'.namespaces = r.namespaces := congrArg (·.namespaces) h
  refine ⟨fun ns hns => hr.namespaces ns (hnamespaces ▸ hns), fun p hp => ?_, fun p hp => ?_⟩
  · obtain ⟨q, hq, hobject⟩ :=
      Resources.exists_of_withoutIps_eq (f := Pod.object image) (fun _ => rfl) h hp
    rw [← hobject]
    exact hr.pods q hq
  · obtain ⟨q, hq, hservice⟩ :=
      Resources.exists_of_withoutIps_eq (f := Pod.serviceObject) (fun _ => rfl) h hp
    rw [← hservice]
    exact hr.services q hq

namespace Trial

section Keeps

variable {σ α : Type} {client : Client σ} {config : Config} {permit : Permit} {I : σ → Prop}
  {base : Resources} {image : String} {t : TrialState} {a : Action}

theorem keeps_call {x : Call σ α} {Q : α → Prop} (h : Stateful.Keeps I x Q) :
    Stateful.Keeps (Session.Kept I base) (call x) Q := by
  intro s hs
  cases hx : x.run.run s.cluster with
  | mk answer c =>
    rw [run_call hx]
    refine ⟨⟨h.of_run hs.cluster hx, hs.deployed⟩, fun y hy => ?_⟩
    cases answer with
    | error e => cases hy
    | ok y' =>
      cases hy
      exact h.answer_of_run hs.cluster hx

theorem keeps_change (next : Except Refusal Resources) :
    Stateful.Keeps (Session.Kept I base) (change next) fun r => next = .ok r := by
  cases next with
  | ok r => exact .pure rfl
  | error e => exact .throw _

theorem keeps_noteCreated (ns : String) :
    Stateful.Keeps (Session.Kept I base) (noteCreated ns) fun _ => True := by
  refine Stateful.Keeps.modify fun s hs => ?_
  split
  · exact hs
  · exact ⟨hs.cluster, hs.deployed⟩

theorem keeps_requirePolicy (t : TrialState) (name : String) :
    Stateful.Keeps (Session.Kept I base) (t.requirePolicy name) fun _ => True := by
  unfold TrialState.requirePolicy
  split
  · exact .pure trivial
  · exact .throw _

theorem keeps_awaitIp (h : client.Keeps permit I) (ns name : String) :
    Stateful.Keeps I (TrialState.awaitIp client ns name) fun _ => True := by
  refine (h.getPod ns name).bind fun o _ => ?_
  split
  · split
    · exact .throw _
    · exact .pure trivial
  · exact .throw _

/-- An action keeps what calls keep, if what it creates is permitted. -/
theorem keeps_apply (h : client.Keeps permit I) (ha : permit.Admits image t a) :
    Stateful.Keeps (Session.Kept I base) (t.apply client image a) fun _ => True := by
  cases a with
  | createPolicy p =>
    rw [TrialState.apply]
    split
    · exact (Stateful.Keeps.throw _).bind fun _ (habsurd : False) => habsurd.elim
    · exact (keeps_call (h.createPolicy p)).discard.bind fun _ _ => .pure trivial
  | updatePolicy p =>
    exact (keeps_requirePolicy t _).bind fun _ _ =>
      (keeps_call (h.updatePolicy p)).discard.bind fun _ _ => .pure trivial
  | deletePolicy ns name =>
    exact (keeps_requirePolicy t _).bind fun _ _ =>
      (keeps_call (h.deletePolicy ns name)).bind fun _ _ => .pure trivial
  | readPolicies namespaces =>
    exact (keeps_call (h.listPolicies namespaces)).bind fun _ _ => .pure trivial
  | setPodLabels ns name labels =>
    exact (keeps_change _).bind fun _ _ =>
      (keeps_call (h.setPodLabels ns name labels)).discard.bind fun _ _ => .pure trivial
  | setNamespaceLabels ns labels =>
    exact (keeps_change _).bind fun _ _ =>
      (keeps_call (h.setNamespaceLabels ns labels)).discard.bind fun _ _ => .pure trivial
  | createNamespace ns labels =>
    exact (keeps_change _).bind fun _ _ => (keeps_noteCreated ns).bind fun _ _ =>
      (keeps_call (h.createNamespace ns labels ha)).discard.bind fun _ _ => .pure trivial
  | deleteNamespace ns =>
    exact (keeps_change _).bind fun _ _ =>
      (keeps_call (h.deleteNamespace ns)).bind fun _ _ => .pure trivial
  | createPod ns name labels =>
    refine (keeps_change _).bind fun r hr => ?_
    have hp : r.pod? ns name = some (t.resources.newPod ns name labels) :=
      Resources.podAt_of_createPod hr
    rw [hp]
    have hstart : Stateful.Keeps I
        (TrialState.startPod client image (t.resources.newPod ns name labels)) fun _ => True :=
      (h.createService _ ha.2).discard.bind fun _ _ => (h.createPod _ ha.1).discard.bind
        fun _ _ => keeps_awaitIp h _ _
    exact (keeps_call hstart).bind fun _ _ => .pure trivial
  | deletePod ns name =>
    refine (keeps_change _).bind fun r _ => ?_
    split
    · exact .pure trivial
    · next p _ =>
      have hdelete : Stateful.Keeps I (TrialState.deletePodAndService client p) fun _ => True :=
        (h.deleteService _ _).bind fun _ _ => h.deletePod _ _
      exact (keeps_call hdelete).bind fun _ _ => .pure trivial

theorem keeps_dropCreated (h : client.Keeps permit I) (ns : String) :
    Stateful.Keeps (Session.Kept I base) (dropCreated client ns) fun _ => True :=
  (keeps_call (Resources.keeps_ignoreNotFound (h.deleteNamespace ns))).bind fun _ _ =>
    .modify fun _ hs => ⟨hs.cluster, hs.deployed⟩

theorem keeps_reset (h : client.Keeps permit I) (hbase : permit.Covers config.cluster.image base) :
    Stateful.Keeps (Session.Kept I base) (reset client config.cluster) fun _ => True := by
  refine .get_bind fun s₁ _ => (Stateful.Keeps.forM fun ns _ => keeps_dropCreated h ns).bind
    fun _ _ => .get_bind fun s₂ hs₂ => ?_
  have hcovers := hbase.of_withoutIps_eq hs₂.deployed
  refine (keeps_call (Resources.keeps_reconcile h hcovers)).bind fun current hcurrent =>
    (Stateful.Keeps.modify fun s hs => ⟨hs.cluster, ?_⟩).bind fun _ _ =>
      keeps_call (h.deleteAllPolicies _)
  obtain ⟨ips, rfl⟩ := hcurrent
  rw [Resources.withoutIps_withPodIps]
  exact hs₂.deployed

/-- What prepares a trial once the cluster is reset. -/
def checked (client : Client σ) (config : Config) : TrialM σ Resources := do
  let deployed := (← get).deployed
  if config.trial.verifyBefore then call (deployed.verify client)
  return deployed

theorem prepare_eq (client : Client σ) (config : Config) : prepare client config =
    if config.trial.resetBefore then do reset client config.cluster; checked client config
    else checked client config := by
  unfold prepare checked
  cases config.trial.resetBefore <;> rfl

theorem keeps_checked (h : client.Keeps permit I) :
    Stateful.Keeps (Session.Kept I base) (checked client config)
      fun r => r.withoutIps = base.withoutIps := by
  refine .get_bind fun s hs => ?_
  simp only []
  split
  · have hverify := Resources.keeps_verify h.getNamespace h.getPod h.getService s.deployed
    exact (keeps_call hverify).bind fun _ _ => .pure hs.deployed
  · exact .pure hs.deployed

theorem keeps_prepare (h : client.Keeps permit I)
    (hbase : permit.Covers config.cluster.image base) :
    Stateful.Keeps (Session.Kept I base) (prepare client config)
      fun r => r.withoutIps = base.withoutIps := by
  rw [prepare_eq]
  split
  · exact (keeps_reset h hbase).bind fun _ _ => keeps_checked h
  · exact keeps_checked h

end Keeps

section Probes

variable {σ : Type} {client : Client σ} {I : σ → Prop}

theorem preserves_exec
    (h : ∀ ns pod container command,
      Stateful.Keeps I (client.exec ns pod container command) fun _ => True)
    (j : Job) (command : List String) : Stateful.Preserves I (j.exec client command) := by
  refine (Stateful.Preserves.of_keeps (h _ _ _ _)).bind fun answer => ?_
  cases answer with
  | ok o => exact .pure _
  | error e => exact .pure _

/-- Commands are all that probes run. -/
theorem preserves_runProbe
    (h : ∀ ns pod container command,
      Stateful.Keeps I (client.exec ns pod container command) fun _ => True)
    (batched : Bool) (r : Resources) (ports : ProbeConfig) :
    Stateful.Preserves I (runProbe client batched r ports) := by
  have hjob : ∀ j : Job, Stateful.Preserves I (j.run client) := fun j =>
    (preserves_exec h j _).bind fun o => by cases o <;> exact .pure _
  have hbatch : ∀ batch : List Job, Stateful.Preserves I (runBatch client batch) := by
    intro batch
    cases batch with
    | nil => exact .pure _
    | cons first rest => exact (preserves_exec h first _).bind fun o => by cases o <;> exact .pure _
  refine Stateful.Preserves.bind ?_ fun results => .pure _
  unfold runJobs
  split
  · exact (Stateful.Preserves.mapM hbatch _).bind fun _ => .pure _
  · exact Stateful.Preserves.mapM hjob _

theorem keeps_attempt {base : Resources} {config : TrialConfig}
    (h : ∀ ns pod container command,
      Stateful.Keeps I (client.exec ns pod container command) fun _ => True)
    (r : Resources) (ports : ProbeConfig) (simulated : ProbeTable) :
    Stateful.Keeps (Session.Kept I base) (attempt client config r ports simulated)
      fun _ => True :=
  (keeps_call (preserves_runProbe h _ r ports).lift).bind fun _ _ => .pure trivial

end Probes

section Reached

variable {mode : ExecMode} {config : Config} {permit : Permit} {I : Cluster → Prop}
  {base : Resources} {permits : TrialState → Cluster → Action → Prop} {J : TrialState → Prop}
  {s s' s₀ : Session Cluster} {t : TrialState}

/-- Trials that create no more than is permitted: what `J` tells of their states admits the actions
that they may try. -/
structure Within (config : Config) (permits : TrialState → Cluster → Action → Prop)
    (permit : Permit) (base : Resources) (J : TrialState → Prop) : Prop where
  covers : permit.Covers config.cluster.image base
  start : ∀ r : Resources, r.withoutIps = base.withoutIps → J { resources := r }
  admits : ∀ t c a, J t → permits t c a → permit.Admits config.cluster.image t a
  effect : ∀ t c a t' c', J t → permits t c a → Effect config.cluster.image t c a t' c' → J t'

theorem Reaches.kept (h : (Cluster.client mode).Keeps permit I)
    (hw : Within config permits permit base J) (hs : s.Kept I base)
    (ht : Reaches (Cluster.client mode) config permits s t s') : s'.Kept I base ∧ J t := by
  induction ht with
  | prepared hrun =>
    have hprepare : Stateful.Keeps (Session.Kept I base) (prepare (Cluster.client mode) config)
      _ := keeps_prepare h hw.covers
    exact ⟨hprepare.of_run hs hrun, hw.start _ (hprepare.answer_of_run hs hrun)⟩
  | acted ht hpermits hrun ih =>
    obtain ⟨hs', hj⟩ := ih
    refine ⟨(keeps_apply h (hw.admits _ _ _ hj hpermits)).of_run hs' hrun, ?_⟩
    exact hw.effect _ _ _ _ _ hj hpermits (effect_of_run hrun).1
  | probed ht ports simulated ih =>
    obtain ⟨hs', hj⟩ := ih
    exact ⟨(keeps_attempt h.exec _ ports simulated _ hs').1, hj⟩

theorem kept_of_reached (h : (Cluster.client mode).Keeps permit I)
    (hw : Within config permits permit base J) (hs₀ : s₀.Kept I base)
    (hs : Session.Reached (Cluster.client mode) config permits s₀ s) : s.Kept I base := by
  induction hs with
  | start => exact hs₀
  | unprepared hs hrun ih => exact (keeps_prepare h hw.covers).of_run ih hrun
  | left hs ht ih => exact (ht.kept h hw ih).1
  | refused hs ht hpermits hrun ih =>
    obtain ⟨hs', hj⟩ := ht.kept h hw ih
    exact (keeps_apply h (hw.admits _ _ _ hj hpermits)).of_run hs' hrun

/-- A deployment that ended well deployed the configured model. -/
theorem deploy_eq_ok {c : Cluster}
    (h : deploy (Cluster.client mode) config.cluster c = .ok s₀) :
    ∃ base, config.cluster.resources = .ok base ∧ s₀.created = [] ∧
      (base.deploy (Cluster.client mode) config.cluster.image).run.run c =
        (.ok s₀.deployed, s₀.cluster) := by
  unfold deploy at h
  cases hbase : config.cluster.resources with
  | error e =>
    rw [hbase] at h
    cases h
  | ok base =>
    rw [hbase] at h
    simp only [Except.mapError, bind, Except.bind] at h
    split at h
    · next deployed cluster hrun =>
      cases h
      exact ⟨base, rfl, rfl, hrun⟩
    · cases h

theorem kept_of_deploy {c : Cluster} (h : (Cluster.client mode).Keeps permit I) (hc : I c)
    (hdeploy : deploy (Cluster.client mode) config.cluster c = .ok s₀)
    (hbase : config.cluster.resources = .ok base)
    (hcovers : permit.Covers config.cluster.image base) : s₀.Kept I base := by
  obtain ⟨base', hbase', -, hrun⟩ := deploy_eq_ok hdeploy
  rw [hbase] at hbase'
  cases hbase'
  have hkeeps := Resources.keeps_deploy h hcovers
  obtain ⟨ips, hips⟩ := hkeeps.answer_of_run hc hrun
  refine ⟨hkeeps.of_run hc hrun, ?_⟩
  rw [hips, Resources.withoutIps_withPodIps]

/-- Calls that create objects of models keep all that need not be shown. -/
theorem keeps_models (mode : ExecMode) :
    (Cluster.client mode).Keeps (.ofModels fun _ => True) fun _ => True :=
  Cluster.keeps_client mode fun _ _ _ _ => trivial

theorem withoutIps_of_deploy {c : Cluster}
    (hdeploy : deploy (Cluster.client mode) config.cluster c = .ok s₀)
    (hbase : config.cluster.resources = .ok base) : s₀.deployed.withoutIps = base.withoutIps :=
  (kept_of_deploy (keeps_models mode) trivial hdeploy hbase
    (Permit.covers_ofModels (fun _ _ => trivial) _)).deployed

end Reached

end Trial
end PodTraffic
