import PodTraffic.Proofs.Trial.Effect
import PodTraffic.Trial

/-!
# The outcomes of runs

Attempts, steps and cases each end early in their own way: attempts with the first that agrees with
the simulation, steps with the first error, and cases, if so configured, with the first that fails.
The results that a run leaves are told by what has run and by where it has ended, whatever the
cluster answers.
-/
namespace PodTraffic

/-- The list ends with the first item that stops it; without one, it is complete. -/
structure Stops {α : Type} (stop : α → Bool) (complete : Prop) (xs : List α) : Prop where
  before : ∀ x ∈ xs.dropLast, stop x = false
  last : (∃ x ∈ xs.getLast?, stop x = true) ∨ complete

namespace Stops

variable {α : Type} {stop : α → Bool} {complete complete' : Prop} {x : α} {xs : List α}

theorem nil (h : complete) : Stops stop complete [] := ⟨by simp, .inr h⟩

theorem of_last (h : stop x = true) : Stops stop complete [x] := ⟨by simp, .inl ⟨x, rfl, h⟩⟩

theorem cons (hx : stop x = false) (h : Stops stop complete xs) :
    Stops stop complete (x :: xs) := by
  cases xs with
  | nil =>
    obtain ⟨y, hy, -⟩ | hcomplete := h.last
    · cases hy
    · exact ⟨by simp, .inr hcomplete⟩
  | cons y ys =>
    refine ⟨?_, h.last⟩
    rw [List.dropLast_cons_cons]
    exact List.forall_mem_cons.mpr ⟨hx, h.before⟩

theorem mono (h : Stops stop complete xs) (hcomplete : complete → complete') :
    Stops stop complete' xs :=
  ⟨h.before, h.last.imp_right hcomplete⟩

end Stops

/-- Attempts end with the first that agrees; without one, all retries are used up. -/
structure Settled (retries : Nat) (attempts : List Attempt) : Prop where
  tried : 1 ≤ attempts.length
  bounded : attempts.length ≤ retries + 1
  stops : Stops (·.comparison.isSame) (attempts.length = retries + 1) attempts

theorem Settled.cons {retries : Nat} {a : Attempt} {attempts : List Attempt}
    (ha : a.comparison.isSame = false) (h : Settled retries attempts) :
    Settled (retries + 1) (a :: attempts) where
  tried := by simp
  bounded := Nat.succ_le_succ h.bounded
  stops := (h.stops.mono (congrArg Nat.succ)).cons ha

theorem StepResult.passed_iff {result : StepResult} : result.passed = true ↔
    ∃ a ∈ result.attempts.getLast?, a.comparison.counts.different = 0 := by
  simp [passed, last?, Comparison.isSame, Option.any_eq_true]

namespace Trial

variable {σ : Type} (client : Client σ) (config : Config)

open Stateful (Threads)

/-- One probe of the cluster through the client, compared with the simulated one. Nothing of the
session changes but the cluster. -/
structure Probes (config : TrialConfig) (r : Resources) (simulated : ProbeTable) (s : Session σ)
    (ports : ProbeConfig) (a : Attempt) (s' : Session σ) : Prop where
  probe : a.probe = ((runProbe client config.batched r ports).run s.cluster).1
  comparison : a.comparison = .ofProbes config.ignoreLoopback simulated a.probe
  session : s' = { s with cluster := ((runProbe client config.batched r ports).run s.cluster).2 }

/-- A step that no error ends: its actions, and then attempts on one simulated probe. -/
structure Completes (s : TrialState × Session σ) (step : TestStep) (result : StepResult)
    (s' : TrialState × Session σ) : Prop where
  policies : result.policies = s'.1.policies.values
  simulated : ∃ policy, Policy.compile result.policies = .ok policy ∧
    result.simulated = simulateProbe policy s'.1.resources step.probe
  runs : ∃ s₁,
    (step.actions.foldlM (TrialState.apply client config.cluster.image) s.1).run.run s.2 =
      (.ok s'.1, s₁) ∧
    Threads (Probes client config.trial s'.1.resources result.simulated) s₁
      (.replicate result.attempts.length step.probe) result.attempts s'.2
  settled : Settled config.trial.retries result.attempts

/-- Steps run one after the other, to the last or to the first that an error ends. -/
inductive Proceeds (s : TrialState × Session σ) :
    List TestStep → List StepResult → Option TrialError → Session σ → Prop where
  | finished {done : List TestStep} {results : List StepResult} {s' : TrialState × Session σ}
      (h : Threads (Completes client config) s done results s') : Proceeds s done results none s'.2
  | broken {done rest : List TestStep} {results : List StepResult} {s₁ : TrialState × Session σ}
      {step : TestStep} {e : TrialError} {s' : Session σ}
      (h : Threads (Completes client config) s done results s₁)
      (hstep : (Trial.step client config s₁.1 step).run.run s₁.2 = (.error e, s')) :
      Proceeds s (done ++ step :: rest) results (some e) s'

/-- A trial of a case, prepared or not. -/
inductive Tries (s : Session σ) (c : TestCase) : TrialResult → Session σ → Prop where
  | unprepared {e : TrialError} {s' : Session σ}
      (h : (prepare client config).run.run s = (.error e, s')) :
      Tries s c { case := c, error := some e.message } s'
  | prepared {r : Resources} {s₁ s' : Session σ} {results : List StepResult}
      {error : Option TrialError} (h : (prepare client config).run.run s = (.ok r, s₁))
      (hsteps : Proceeds client config ({ resources := r }, s₁) c.steps results error s') :
      Tries s c { case := c, steps := results, error := error.map (·.message) } s'

end Trial

/-- The attempts of a step are settled, each a probe of the cluster that is compared with the same
simulated probe, and the last counts. -/
structure StepResult.Reports {σ : Type} (client : Client σ) (config : TrialConfig) (x : TestStep)
    (result : StepResult) : Prop where
  settled : Settled config.retries result.attempts
  probed : ∃ policy r, Policy.compile result.policies = .ok policy ∧
    result.simulated = simulateProbe policy r x.probe ∧
      ∀ a ∈ result.attempts, ∃ c, a.probe = ((runProbe client config.batched r x.probe).run c).1
  compared : ∀ a ∈ result.attempts,
    a.comparison = .ofProbes config.ignoreLoopback result.simulated a.probe
  passed : result.passed = true ↔
    ∃ a ∈ result.attempts.getLast?, a.comparison.counts.different = 0

/-- A result has the steps of its case up to the first error, and all of them without one. -/
structure TrialResult.Reports {σ : Type} (client : Client σ) (config : TrialConfig) (c : TestCase)
    (result : TrialResult) : Prop where
  case : result.case = c
  bounded : result.steps.length ≤ c.steps.length
  complete : result.error = none → result.steps.length = c.steps.length
  steps : List.Forall₂ (StepResult.Reports client config) (c.steps.take result.steps.length)
    result.steps
  passed : result.passed = true ↔
    result.error = none ∧ ∀ step ∈ result.steps, step.passed = true

theorem TrialResult.passed_iff {result : TrialResult} : result.passed = true ↔
    result.error = none ∧ ∀ step ∈ result.steps, step.passed = true := by
  simp [passed]

namespace Trial

variable {σ : Type} {client : Client σ} {config : Config}

open Stateful (Threads)

/-- An attempt always answers. -/
theorem exists_run_attempt (client : Client σ) (config : TrialConfig) (r : Resources)
    (simulated : ProbeTable) (s : Session σ) (ports : ProbeConfig) :
    ∃ a s', (attempt client config r ports simulated).run.run s = (.ok a, s') ∧
      Probes client config r simulated s ports a s' := by
  have hcall : (ExceptT.lift (runProbe client config.batched r ports) :
      Call σ ProbeTable).run.run s.cluster =
        (.ok ((runProbe client config.batched r ports).run s.cluster).1,
          ((runProbe client config.batched r ports).run s.cluster).2) := rfl
  exact ⟨_, _, Stateful.run_bind_of_ok (run_call_of_ok hcall), rfl, rfl, rfl⟩

/-- Attempts always answer, each with the next probe of the cluster. -/
theorem exists_run_attempts (client : Client σ) (config : TrialConfig) (r : Resources)
    (simulated : ProbeTable) (s : Session σ) (ports : ProbeConfig) (retries : Nat) :
    ∃ results s', (attempts client config r ports simulated retries).run.run s =
        (.ok results, s') ∧
      Threads (Probes client config r simulated) s (.replicate results.length ports) results s' ∧
      Settled retries results := by
  induction retries generalizing s with
  | zero =>
    obtain ⟨a, s', hrun, ha⟩ := exists_run_attempt client config r simulated s ports
    refine ⟨[a], s', Stateful.run_bind_of_ok hrun, .cons ha (.nil s'), by simp, by simp, ?_⟩
    exact ⟨by simp, .inr rfl⟩
  | succ retries ih =>
    obtain ⟨a, s₁, hfirst, ha⟩ := exists_run_attempt client config r simulated s ports
    rw [attempts, Stateful.run_bind_of_ok hfirst]
    cases hsame : a.comparison.isSame with
    | true =>
      refine ⟨[a], s₁, ?_, .cons ha (.nil s₁), by simp, by simp, .of_last hsame⟩
      rfl
    | false =>
      obtain ⟨results, s', hrun, hprobes, hsettled⟩ := ih s₁
      exact ⟨a :: results, s', Stateful.run_bind_of_ok hrun, .cons ha hprobes, hsettled.cons hsame⟩

theorem completes_of_run {t t' : TrialState} {s s' : Session σ} {x : TestStep}
    {result : StepResult} (h : (step client config t x).run.run s = (.ok (t', result), s')) :
    Completes client config (t, s) x result (t', s') := by
  obtain ⟨t₁, s₁, hactions, hrest⟩ := Stateful.exists_of_run_bind h
  simp only [] at hrest
  split at hrest
  · cases hrest
  · next policy hpolicy =>
    obtain ⟨results, s₂, hrun, hprobes, hsettled⟩ := exists_run_attempts client config.trial
      t₁.resources (simulateProbe policy t₁.resources x.probe) s₁ x.probe config.trial.retries
    rw [Stateful.run_bind_of_ok hrun] at hrest
    cases hrest
    exact ⟨rfl, ⟨policy, hpolicy, rfl⟩, ⟨s₁, hactions, hprobes⟩, hsettled⟩

theorem Completes.reports {s s' : TrialState × Session σ} {x : TestStep} {result : StepResult}
    (h : Completes client config s x result s') : result.Reports client config.trial x := by
  obtain ⟨s₁, -, hprobes⟩ := h.runs
  obtain ⟨policy, hpolicy, hsimulated⟩ := h.simulated
  refine ⟨h.settled, ⟨policy, s'.1.resources, hpolicy, hsimulated, ?_⟩,
    hprobes.forall_mem fun _ _ _ _ ha => ha.comparison, StepResult.passed_iff⟩
  intro a ha
  -- every attempt of the step has the ports of the step
  have hports := hprobes.forall₂ fun s ports a _ ha =>
    (⟨s.cluster, ha.probe⟩ : ∃ c, a.probe =
      ((runProbe client config.trial.batched s'.1.resources ports).run c).1)
  obtain ⟨ports, hmem, hprobe⟩ := Fallible.mem_of_forall₂ hports ha
  rwa [List.eq_of_mem_replicate hmem] at hprobe

theorem Proceeds.cons {s s₁ : TrialState × Session σ} {s' : Session σ} {x : TestStep}
    {xs : List TestStep} {result : StepResult} {results : List StepResult}
    {error : Option TrialError} (h : Completes client config s x result s₁)
    (hrest : Proceeds client config s₁ xs results error s') :
    Proceeds client config s (x :: xs) (result :: results) error s' := by
  cases hrest with
  | finished hrest => exact .finished (.cons h hrest)
  | broken hrest hstep => exact .broken (.cons h hrest) hstep

theorem proceeds_steps (xs : List TestStep) (t : TrialState) (s : Session σ) :
    Proceeds client config (t, s) xs ((steps client config t xs).run s).1.1
      ((steps client config t xs).run s).1.2 ((steps client config t xs).run s).2 := by
  induction xs generalizing t s with
  | nil => exact .finished (.nil (t, s))
  | cons x xs ih =>
    rw [steps, Stateful.run_stateM_bind]
    cases hstep : (step client config t x).run.run s with
    | mk answer s₁ =>
      cases answer with
      | error e => exact .broken (.nil (t, s)) hstep
      | ok next => exact (ih next.1 s₁).cons (completes_of_run hstep)

theorem tries_run (c : TestCase) (s : Session σ) :
    Tries client config s c ((run client config c).run s).1 ((run client config c).run s).2 := by
  rw [run, Stateful.run_stateM_bind]
  cases hprepare : (prepare client config).run.run s with
  | mk answer s₁ =>
    cases answer with
    | error e => exact .unprepared hprepare
    | ok r => exact .prepared hprepare (proceeds_steps c.steps { resources := r } s₁)

theorem Proceeds.length_le {s : TrialState × Session σ} {s' : Session σ} {xs : List TestStep}
    {results : List StepResult} {error : Option TrialError}
    (h : Proceeds client config s xs results error s') :
    results.length ≤ xs.length ∧ (error = none → results.length = xs.length) := by
  cases h with
  | finished h => exact ⟨h.length_eq.ge, fun _ => h.length_eq.symm⟩
  | broken h hstep =>
    refine ⟨?_, nofun⟩
    rw [List.length_append, h.length_eq]
    exact Nat.le_add_right _ _

theorem Proceeds.reports {s : TrialState × Session σ} {s' : Session σ} {xs : List TestStep}
    {results : List StepResult} {error : Option TrialError}
    (h : Proceeds client config s xs results error s') :
    List.Forall₂ (StepResult.Reports client config.trial) (xs.take results.length) results := by
  cases h with
  | finished h =>
    rw [← h.length_eq, List.take_length]
    exact h.forall₂ fun _ _ _ _ h => h.reports
  | broken h hstep =>
    rw [← h.length_eq, List.take_left]
    exact h.forall₂ fun _ _ _ _ h => h.reports

theorem Tries.reports {c : TestCase} {s s' : Session σ} {result : TrialResult}
    (h : Tries client config s c result s') : result.Reports client config.trial c := by
  cases h with
  | unprepared h => exact ⟨rfl, by simp, nofun, by simp, TrialResult.passed_iff⟩
  | prepared h hsteps =>
    exact ⟨rfl, hsteps.length_le.1, fun hnone => hsteps.length_le.2 (by simpa using hnone),
      hsteps.reports, TrialResult.passed_iff⟩

theorem exists_run_runAll (cases : List TestCase) (s : Session σ) :
    ∃ done rest results s', cases = done ++ rest ∧
      (runAll client config cases).run s = (results, s') ∧
      Threads (Tries client config) s done results s' ∧
      Stops (fun result => config.trial.failFast && !result.passed) (rest = []) results := by
  induction cases generalizing s with
  | nil => exact ⟨[], [], [], s, rfl, rfl, .nil s, .nil rfl⟩
  | cons c cases ih =>
    rw [runAll, Stateful.run_stateM_bind]
    have hc : Tries client config s c _ _ := tries_run c s
    cases hrun : (run client config c).run s with
    | mk result s₁ =>
      rw [hrun] at hc
      by_cases hstop : (config.trial.failFast && !result.passed) = true
      · refine ⟨[c], cases, [result], s₁, rfl, ?_, .cons hc (.nil s₁), .of_last hstop⟩
        rw [if_pos hstop]
        rfl
      · obtain ⟨done, rest, results, s', rfl, hruns, hdone, hstops⟩ := ih s₁
        refine ⟨c :: done, rest, result :: results, s', rfl, ?_, .cons hc hdone,
          hstops.cons (Bool.eq_false_iff.mpr hstop)⟩
        rw [if_neg hstop, Stateful.run_stateM_bind, hruns]
        rfl

/-- The cases are tried in order, whatever the cluster answers: all of them, or up to the first
that does not pass if so configured. -/
theorem runs_in_order (client : Client σ) (config : Config) (cases : List TestCase)
    (s : Session σ) :
    ∃ done rest results s', cases = done ++ rest ∧
      (runAll client config cases).run s = (results, s') ∧
      Threads (Tries client config) s done results s' ∧
      List.Forall₂ (TrialResult.Reports client config.trial) done results ∧
      (config.trial.failFast = false → rest = []) ∧
      (config.trial.failFast = true →
        Stops (fun result => !result.passed) (rest = []) results) := by
  obtain ⟨done, rest, results, s', hcases, hrun, hdone, hstops⟩ := exists_run_runAll cases s
  refine ⟨done, rest, results, s', hcases, hrun, hdone, hdone.forall₂ fun _ _ _ _ h => h.reports,
    fun hslow => ?_, fun hfast => ?_⟩
  · obtain ⟨result, -, hstop⟩ | hrest := hstops.last
    · simp [hslow] at hstop
    · exact hrest
  · simpa [hfast] using hstops

end Trial
end PodTraffic
