import PodTraffic.Proofs.Cluster.Mirror
import PodTraffic.Proofs.Fallible
import PodTraffic.Proofs.Job.Batches

/-!
# Checks that a cluster runs

On a cluster that mirrors a model, the command of a planned job starts in its source container and
succeeds just when the stored policies allow the traffic of the job. It leaves the objects of the
cluster as they were. A job is told by its command: however namespaces and pods are named, the
destination, the port and the protocol of every planned job are read back from the command that
checks it.
-/
namespace PodTraffic

/-- At a rate of zero every command fails, and at a rate of one every command succeeds. -/
theorem ExecMode.passing_zero_one {draws : Nat → Nat → Nat}
    (h : ∀ call place, draws call place < 2 ^ Decimal.Double.drawWidth) :
    passing .zero draws = always false ∧ passing .one draws = always true := by
  have hzero : ∀ draw, Decimal.Double.zero.isAbove draw = false := by
    simp [Decimal.Double.isAbove, Decimal.Double.zero, Decimal.Double.shifted]
  have hone : ∀ draw, draw < 2 ^ Decimal.Double.drawWidth →
      Decimal.Double.one.isAbove draw = true := by
    intro draw hdraw
    simpa [Decimal.Double.isAbove, Decimal.Double.one, Decimal.Double.shifted,
      Decimal.Double.drawWidth, Decimal.Double.fractionWidth] using hdraw
  simp only [passing, always, hzero, hone _ (h _ _), and_self]

/-- A port number that a packet can carry. -/
def ProbeConfig.InRange : ProbeConfig → Prop
  | .port (.number n) _ => n ≤ maxPort
  | _ => True

/-- What running a planned job rests on. -/
structure Job.Dispatchable (r : Resources) (j : Job) : Prop where
  source : ∃ p ∈ r.pods, ∃ protocol, r.jobSource? p protocol = some j.source
  answers : ∃ port protocol, r.Answers port protocol .valid j.destination j.port
  number : j.port.number ≤ maxPort

namespace Pod

/-- A number stays the port of the job, whether it is served or not. -/
theorem number_resolve (t : Pod) (n : Nat) (protocol : Protocol) :
    (t.resolve (.number n) protocol).2.number = n := by
  unfold resolve
  cases hnumbered : t.numbered? n protocol with
  | none => simp [hnumbered]
  | some c => simp [hnumbered]

/-- A name stands for the port of a container, or for none. -/
theorem number_resolve_name (t : Pod) (s : String) (protocol : Protocol) :
    (t.resolve (.name s) protocol).2.number = 0 ∨
      ∃ c ∈ t.containers, (t.resolve (.name s) protocol).2.number = c.port := by
  unfold resolve
  cases hnamed : t.named? s with
  | none => exact .inl (by simp [hnamed])
  | some c => exact .inr ⟨c, List.mem_of_find?_eq_some hnamed, by simp [hnamed]⟩

end Pod

namespace Resources

variable {r : Resources} {config : ProbeConfig} {round : PortValue × Protocol}

/-- Ports that are asked for one after another can be carried if those of the containers can. -/
theorem number_le_of_mem_rounds (hports : ∀ p ∈ r.pods, ∀ c ∈ p.containers, c.port ≤ maxPort)
    (hconfig : config.InRange) (hround : round ∈ r.rounds config) {n : Nat}
    (hn : round.1 = .number n) : n ≤ maxPort := by
  cases config with
  | port port protocol =>
    obtain rfl := List.mem_singleton.mp hround
    obtain rfl : port = .number n := hn
    exact hconfig
  | allAvailable =>
    obtain ⟨s, hs, rfl⟩ := List.mem_map.mp hround
    obtain rfl : s.number = n := PortValue.number.inj hn
    obtain ⟨p, hp, hserved⟩ := List.mem_flatMap.mp (Ordered.mem_distinct.mp hs)
    obtain ⟨c, hc, rfl⟩ := List.mem_map.mp hserved
    exact hports p hp c hc

/-- The port of an answer is the number that was asked for, that of a container, or zero. -/
theorem Answers.number_le (hports : ∀ p ∈ r.pods, ∀ c ∈ p.containers, c.port ≤ maxPort)
    {port : PortValue} {protocol : Protocol} {res : PortResolution} {d : JobDestination}
    {q : PortQuery} (hport : ∀ n, port = .number n → n ≤ maxPort)
    (h : r.Answers port protocol res d q) : q.number ≤ maxPort := by
  cases d with
  | external ip =>
    obtain ⟨-, hresolve⟩ := h
    cases port with
    | number n =>
      obtain ⟨-, rfl⟩ := Prod.mk.inj hresolve
      exact hport n rfl
    | name s =>
      obtain ⟨-, rfl⟩ := Prod.mk.inj hresolve
      exact Nat.zero_le _
  | pod t nsLabels =>
    obtain ⟨ht, -, hresolve⟩ := h
    obtain rfl : (t.resolve port protocol).2 = q := congrArg Prod.snd hresolve
    cases port with
    | number n =>
      rw [Pod.number_resolve]
      exact hport n rfl
    | name s =>
      rcases Pod.number_resolve_name t s protocol with h | ⟨c, hc, h⟩
      · exact h ▸ Nat.zero_le _
      · exact h ▸ hports t ht c hc

theorem Plans.dispatchable (hr : r.Probeable) (hconfig : config.InRange)
    (hround : round ∈ r.rounds config) {j : Job} (h : r.Plans round.1 round.2 .valid j) :
    j.Dispatchable r := by
  obtain ⟨⟨p, hp, hsource⟩, hanswers, -⟩ := h
  exact ⟨⟨p, hp, round.2, hsource⟩, ⟨round.1, round.2, hanswers⟩,
    hanswers.number_le hr.ports fun n hn => number_le_of_mem_rounds hr.ports hconfig hround hn⟩

theorem dispatchable_of_mem_valid (hr : r.Probeable) (hconfig : config.InRange) {j : Job}
    (hj : j ∈ (r.jobs config).valid) : j.Dispatchable r := by
  have hbucket : j ∈ (r.jobs config).bucket .valid := hj
  obtain ⟨round, hround, hplans⟩ := mem_jobs.mp hbucket
  exact hplans.dispatchable hr hconfig hround

end Resources

namespace Job.Dispatchable

variable {r : Resources} {j : Job}

theorem mem_pods (h : j.Dispatchable r) : j.source.pod ∈ r.pods := by
  obtain ⟨p, hp, protocol, hsource⟩ := h.source
  rwa [(Resources.jobSource?_eq_some hsource).1]

theorem nsLabels_eq (h : j.Dispatchable r) : j.source.nsLabels = r.nsLabels j.source.pod.ns := by
  obtain ⟨p, hp, protocol, hsource⟩ := h.source
  obtain ⟨hpod, hlabels, -⟩ := Resources.jobSource?_eq_some hsource
  rw [hlabels, hpod]

theorem exists_container (h : j.Dispatchable r) :
    ∃ c ∈ j.source.pod.containers, j.source.container = c.name := by
  obtain ⟨p, hp, protocol, hsource⟩ := h.source
  obtain ⟨hpod, -, hcontainer⟩ := Resources.jobSource?_eq_some hsource
  rwa [hpod]

theorem isPlainHost (hr : r.Probeable) (h : j.Dispatchable r) :
    CommandTarget.IsPlainHost j.target.host := by
  obtain ⟨port, protocol, hanswers⟩ := h.answers
  exact hanswers.isPlainHost fun ip hip => (hr.external ip hip).imp fun _ ha => ha.1

/-- The command of the job can be put into a script. -/
theorem isPlain_command (hr : r.Probeable) (h : j.Dispatchable r) :
    ∀ arg ∈ j.command, Batch.IsPlain arg := by
  obtain ⟨port, protocol, hanswers⟩ := h.answers
  exact Batch.isPlain_command (isPlain_of_isHostChar (isHostChar_host hr hanswers))

end Job.Dispatchable

/-- Jobs that one script can run: they start in the same pod. -/
structure Batch.Dispatchable (r : Resources) (batch : List Job) : Prop where
  jobs : ∀ j ∈ batch, j.Dispatchable r
  source : ∀ j ∈ batch, ∀ j' ∈ batch, j.source.pod = j'.source.pod
  length : batch.length ≤ Batch.maxIndex + 1

namespace Policy

/-- What a cluster says of a job that enforces the policy. -/
def enforced (policy : Policy) (j : Job) : Verdict :=
  .ofCluster (.ofAllowed (policy.verdict j.traffic).isAllowed)

def answer (policy : Policy) (j : Job) : JobResult := ⟨j, policy.enforced j⟩

end Policy

namespace Cluster

/-- The same objects after some number of commands. -/
def afterCommands (c : Cluster) (n : Nat) : Cluster := { c with commandsRun := n }

/-- The cluster mirrors the model, and its policies compile to the given one. -/
structure Serves (c : Cluster) (r : Resources) (policy : Policy) : Prop where
  mirrors : c.Mirrors r
  compiled : Policy.compile c.policies.values = .ok policy

/-- A command that starts counts, and changes nothing else. -/
theorem run_exec {c : Cluster} {mode : ExecMode} {ns pod container : String}
    {command : List String} {o : PodObject} {out : ExecOutput}
    (ho : c.pods.get? ⟨ns, pod⟩ = some o)
    (hcontainer : o.containerList.any (·.name == container) = true)
    (hout : (c.afterCommands (c.commandsRun + 1)).output mode o command = .ok out) :
    (exec mode ns pod container command).run.run c =
      (.ok out, c.afterCommands (c.commandsRun + 1)) := by
  have hstarted : (c.afterCommands (c.commandsRun + 1)).pods.get? ⟨ns, pod⟩ = some o := ho
  have hcount : (modify fun c : Cluster => { c with commandsRun := c.commandsRun + 1 } :
      Call Cluster Unit).run.run c = (.ok (), c.afterCommands (c.commandsRun + 1)) := rfl
  rw [exec, Stateful.run_bind_of_ok hcount, Stateful.run_get_bind]
  simp only [hstarted, hcontainer, hout, Bool.not_true, Bool.false_eq_true, if_false]
  rfl

variable {c : Cluster} {r : Resources} {policy : Policy} {j : Job} {o : PodObject}

theorem Serves.afterCommands (h : c.Serves r policy) (n : Nat) :
    (c.afterCommands n).Serves r policy :=
  ⟨⟨h.mirrors.namespaces, h.mirrors.pods, h.mirrors.onlyPods, h.mirrors.services⟩, h.compiled⟩

/-- The command of a job succeeds when the policies allow its traffic. -/
theorem Serves.runCommand_eq (h : c.Serves r policy) (hr : r.Probeable) (hj : j.Dispatchable r)
    (ho : o.Runs j.source.pod) (place : Nat) :
    c.runCommand .enforce place o j.command = .ok (policy.verdict j.traffic).isAllowed := by
  obtain ⟨port, protocol, hanswers⟩ := hj.answers
  have htarget : CommandTarget.ofCommand? j.command = some j.target :=
    CommandTarget.ofCommand?_command (hj.isPlainHost hr) hj.number
  have hdestination : c.destination? j.target = some (j.destination.endpoint, j.port.name) :=
    h.mirrors.destination?_eq hr hanswers
  have hsource : c.endpoint o = j.source.pod.endpoint j.source.nsLabels := by
    rw [h.mirrors.endpoint_eq ho, hj.nsLabels_eq]
  simp only [runCommand, htarget, connect, hdestination, h.compiled, hsource]
  rfl

/-- A command of a job starts, whatever it is, and changes no object. -/
theorem Serves.exec_eq (h : c.Serves r policy) (hj : j.Dispatchable r) {command : List String}
    {out : ExecOutput} (hout : ∀ o : PodObject, o.Runs j.source.pod →
      (c.afterCommands (c.commandsRun + 1)).output .enforce o command = .ok out) :
    (j.exec (client .enforce) command).run c =
      (some out, c.afterCommands (c.commandsRun + 1)) := by
  obtain ⟨o, ho, hruns⟩ := h.mirrors.pods _ hj.mem_pods
  obtain ⟨k, hk, hcontainer⟩ := hj.exists_container
  have hany := hruns.any_container hk
  rw [← hcontainer] at hany
  simp only [Job.exec, client, StateT.run_bind, run_exec ho hany (hout o hruns)]
  rfl

def checkOutput (succeeded : Bool) : ExecOutput :=
  if succeeded then {} else { failure := some failedText }

theorem isSuccess_checkOutput (succeeded : Bool) :
    (checkOutput succeeded).isSuccess = succeeded := by
  cases succeeded <;> rfl

/-- The command of a check is no script. -/
theorem output_command (c : Cluster) (mode : ExecMode) (o : PodObject) (t : CommandTarget) :
    c.output mode o t.command = checkOutput <$> c.runCommand mode 0 o t.command := by
  obtain ⟨host, port, protocol⟩ := t
  cases protocol <;> rfl

theorem Serves.run_job (h : c.Serves r policy) (hr : r.Probeable) (hj : j.Dispatchable r) :
    (j.run (client .enforce)).run c =
      (policy.answer j, c.afterCommands (c.commandsRun + 1)) := by
  have hout : ∀ o : PodObject, o.Runs j.source.pod →
      (c.afterCommands (c.commandsRun + 1)).output .enforce o j.command =
        .ok (checkOutput (policy.verdict j.traffic).isAllowed) := by
    intro o ho
    rw [Job.command, output_command, ← Job.command, (h.afterCommands _).runCommand_eq hr hj ho 0]
    rfl
  rw [Job.run, StateT.run_bind, h.exec_eq hj hout]
  change ((⟨j, .ofCluster (.ofAllowed (checkOutput _).isSuccess)⟩ : JobResult), _) = _
  rw [isSuccess_checkOutput]
  rfl

/-- The exit codes that a script prints, by index. -/
def exitCodes (policy : Policy) (batch : List Job) : List (Nat × Nat) :=
  batch.zipIdx.map fun (j, i) => (i, if (policy.verdict j.traffic).isAllowed then 0 else 1)

theorem Serves.output_script (h : c.Serves r policy) (hr : r.Probeable) {batch : List Job}
    (hb : Batch.Dispatchable r batch) (ho : ∀ j ∈ batch, o.Runs j.source.pod) :
    c.output .enforce o ["sh", "-c", Batch.script (batch.map (·.command))] =
      .ok { stdout := String.join ((exitCodes policy batch).map fun e =>
        Batch.resultLine e.1 e.2) } := by
  have hplain : ∀ command ∈ batch.map (·.command), ∀ arg ∈ command, Batch.IsPlain arg := by
    intro command hcommand
    obtain ⟨j, hj, rfl⟩ := List.mem_map.mp hcommand
    exact (hb.jobs j hj).isPlain_command hr
  have hlength : (batch.map (·.command)).length ≤ Batch.maxIndex + 1 := by
    rw [List.length_map]
    exact hb.length
  have hscript : Batch.parseScript (Batch.script (batch.map (·.command))) =
      batch.zipIdx.map fun e => (e.2, e.1.command) := by
    rw [Batch.parseScript_script hplain hlength, List.zipIdx_map, List.map_map]
    rfl
  have hlines : (batch.zipIdx.map fun e => (e.2, e.1.command)).mapM
      (fun e => do
        let succeeded ← c.runCommand .enforce 0 o e.2
        return Batch.resultLine e.1 (if succeeded then 0 else 1)) =
      .ok ((exitCodes policy batch).map fun e => Batch.resultLine e.1 e.2) := by
    rw [Fallible.mapM_eq_ok_iff, exitCodes, List.map_map, List.forall₂_map_left_iff,
      List.forall₂_map_right_iff, List.forall₂_same]
    intro e he
    have hmem : e.1 ∈ batch := List.fst_mem_of_mem_zipIdx he
    simp only [h.runCommand_eq hr (hb.jobs e.1 hmem) (ho e.1 hmem)]
    rfl
  -- where policies are enforced, the place in the script does not matter
  rw [output, hscript]
  exact Fallible.bind_eq_ok_iff.mpr ⟨_, (Fallible.mapM_zipIdx _ _).trans hlines, rfl⟩

/-- A job and what its command ends with. -/
def jobRun (policy : Policy) (j : Job) : JobRun :=
  ⟨j, if (policy.verdict j.traffic).isAllowed then 0 else 1⟩

theorem result_jobRun (policy : Policy) (j : Job) :
    (jobRun policy j).result = policy.answer j := by
  simp only [jobRun, JobRun.result, Policy.answer, Policy.enforced]
  cases (policy.verdict j.traffic).isAllowed <;> rfl

/-- What a script prints gives every job its own exit code. -/
theorem map_verdictOfCode_exitCodes {batch : List Job}
    (hlength : batch.length ≤ Batch.maxIndex + 1) :
    (batch.zipIdx.map fun e => (⟨e.1, Job.verdictOfCode (Batch.exitCode? (Batch.parseOutput
      (String.join ((exitCodes policy batch).map fun e => Batch.resultLine e.1 e.2))) e.2)⟩ :
        JobResult)) = batch.map policy.answer := by
  let runs := batch.map (jobRun policy)
  have hjobs : runs.map (·.job) = batch := by
    rw [List.map_map]
    exact List.map_id batch
  have hresults : runs.map JobRun.result = batch.map policy.answer := by
    rw [List.map_map]
    exact List.map_congr_left fun j _ => result_jobRun policy j
  have hlines : ((runs.map (·.code)).zipIdx.map fun e => Batch.resultLine e.2 e.1) =
      (exitCodes policy batch).map fun e => Batch.resultLine e.1 e.2 := by
    rw [exitCodes, List.map_map, List.map_map, List.zipIdx_map, List.map_map]
    rfl
  have hcodes : ∀ run ∈ runs, run.code < 2 ^ 31 := by
    intro run hrun
    obtain ⟨j, -, rfl⟩ := List.mem_map.mp hrun
    simp only [jobRun]
    split <;> omega
  have hverdicts := map_verdictOfCode (Batch.prints_resultLines (runs.map (·.code)))
    (by simpa [runs] using hlength) hcodes
  rwa [hjobs, hresults, hlines] at hverdicts

theorem Serves.run_batch (h : c.Serves r policy) (hr : r.Probeable) {batch : List Job}
    (hb : Batch.Dispatchable r batch) :
    ∃ n, (runBatch (client .enforce) batch).run c =
      (batch.map policy.answer, c.afterCommands n) := by
  cases batch with
  | nil => exact ⟨c.commandsRun, rfl⟩
  | cons first rest =>
    refine ⟨c.commandsRun + 1, ?_⟩
    have hfirst : first ∈ first :: rest := List.mem_cons_self
    have hexec := h.exec_eq (hb.jobs first hfirst) fun o ho =>
      (h.afterCommands _).output_script hr hb fun j hj => by
        rwa [hb.source j hj first hfirst]
    rw [runBatch, StateT.run_bind, hexec]
    exact Prod.ext (map_verdictOfCode_exitCodes hb.length) rfl

end Cluster

namespace Resources

variable {r : Resources} {config : ProbeConfig} {res : PortResolution} {j : Job}

/-- A job is planned for a port that a packet can carry. -/
theorem number_le_of_mem_jobs (hports : ∀ p ∈ r.pods, ∀ c ∈ p.containers, c.port ≤ maxPort)
    (hconfig : config.InRange) (hj : j ∈ (r.jobs config).bucket res) : j.port.number ≤ maxPort := by
  obtain ⟨round, hround, hplans⟩ := mem_jobs.mp hj
  have hasked : ∀ n, round.1 = .number n → n ≤ maxPort := fun n hn =>
    number_le_of_mem_rounds hports hconfig hround hn
  exact hplans.answers.number_le hports hasked

/-- The command of a planned job, whether the destination resolves its port or not, is read back as
the host of the destination, the port and the protocol of the job. -/
theorem command_tells_job (hips : ∀ ip ∈ r.externalIps, ∃ a, Address.parse? ip = some a)
    (hports : ∀ p ∈ r.pods, ∀ c ∈ p.containers, c.port ≤ maxPort) (hconfig : config.InRange)
    (hj : j ∈ (r.jobs config).bucket res) :
    CommandTarget.ofCommand? j.command =
      some ⟨j.destination.host, j.port.number, j.port.protocol⟩ := by
  have hnumber := number_le_of_mem_jobs hports hconfig hj
  obtain ⟨round, -, hplans⟩ := mem_jobs.mp hj
  have hhost : CommandTarget.IsPlainHost j.destination.host := hplans.answers.isPlainHost hips
  exact CommandTarget.ofCommand?_command hhost hnumber

/-- Colons and brackets in the names of a pod, and a name for a port that it does not have. -/
theorem command_tells_job_bracketed :
    let p : Pod := {
      ns := "[x]:", name := "]:80", labels := podLabels "]:80", containers := [.serving 80 .tcp] }
    let r : Resources := {
      namespaces := .ofList [("[x]:", .empty)], pods := [p], externalIps := ["fd00::1"] }
    let j : Job := ⟨⟨p, .empty, "cont-80-tcp"⟩, .pod p .empty, ⟨0, none, .sctp⟩, "dns/SCTP"⟩
    (∀ ip ∈ r.externalIps, ∃ a, Address.parse? ip = some a) ∧
      (∀ p ∈ r.pods, ∀ c ∈ p.containers, c.port ≤ maxPort) ∧
      (ProbeConfig.port (.name "dns") .sctp).InRange ∧
      j ∈ (r.jobs (.port (.name "dns") .sctp)).bucket .badNamedPort ∧
      j.command = ["/agnhost", "connect", "[s-[x]:-]:80.[x]:.svc.cluster.local]:0",
        "--timeout=1s", "--protocol=sctp"] ∧
      CommandTarget.ofCommand? j.command =
        some ⟨"s-[x]:-]:80.[x]:.svc.cluster.local", 0, .sctp⟩ := by
  intro p r j
  have hips : ∀ ip ∈ r.externalIps, ∃ a, Address.parse? ip = some a := by
    intro ip hip
    obtain rfl := List.mem_singleton.mp hip
    exact Option.isSome_iff_exists.mp (by decide)
  have hports : ∀ p ∈ r.pods, ∀ c ∈ p.containers, c.port ≤ maxPort := by decide
  have hconfig : (ProbeConfig.port (.name "dns") .sctp).InRange := trivial
  have hj : j ∈ (r.jobs (.port (.name "dns") .sctp)).bucket .badNamedPort := by decide
  exact ⟨hips, hports, hconfig, hj, by decide, command_tells_job hips hports hconfig hj⟩

end Resources
end PodTraffic
