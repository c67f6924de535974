import PodTraffic.Config
import PodTraffic.Proofs.Fallible
import PodTraffic.Proofs.Resources
import PodTraffic.Proofs.Text.Integer

/-!
# What a valid configuration holds

A configuration is accepted exactly when its lists name something, nothing twice, and every port,
protocol, address and tag in it can be read. Then it has a model: nothing that it lists is dropped,
every namespace holds every pod once, and every pod serves every port on every protocol. Containers
are named for what they serve, so they are told apart by name just where they are by port, and that
is where the configuration lists no port twice and names no protocol twice.
-/
namespace PodTraffic

/-- At least one name, and none twice. -/
def IsNameList (names : List String) : Prop := names ≠ [] ∧ names.Nodup

structure ClusterConfig.Valid (c : ClusterConfig) : Prop where
  namespaces : IsNameList c.namespaces
  pods : IsNameList c.pods
  somePort : c.ports ≠ []
  ports : ∀ n ∈ c.ports, 1 ≤ n ∧ n ≤ maxPort
  someProtocol : c.protocols ≠ []
  protocols : ∀ name ∈ c.protocols, ∃ p, Protocol.read? name = some p
  externalIps : ∀ ip ∈ c.externalIps, ∃ a, Address.parse? ip = some a

structure CorpusConfig.Valid (c : CorpusConfig) : Prop where
  tags : ∀ name ∈ c.included ++ c.excluded, Tag.isKnown name = true
  podIp : ∀ ip, c.podIp = some ip → ∃ a, Address.parse? ip = some a

structure Config.Valid (c : Config) : Prop where
  workers : c.trial.workerCount ≠ 0
  cluster : c.cluster.Valid
  corpus : c.corpus.Valid

namespace Config

variable {c : Config} {kind : String} {names seen : List String}

theorem require_eq_ok_iff {holds : Bool} {fault : ConfigFault} :
    require holds fault = .ok () ↔ holds = true := by
  cases holds with
  | true => simp [require]
  | false => simp [require]

theorem firstRepeated_eq_none_iff :
    firstRepeated seen names = none ↔ names.Nodup ∧ ∀ name ∈ names, name ∉ seen := by
  induction names generalizing seen with
  | nil => simp [firstRepeated]
  | cons name names ih =>
    rw [firstRepeated]
    split
    · next hseen => simp_all
    · next hseen =>
      rw [ih, List.nodup_cons, List.forall_mem_cons]
      simp only [List.mem_cons, not_or, List.contains_iff_mem] at hseen ⊢
      constructor
      · intro h
        obtain ⟨hnodup, hrest⟩ := h
        exact ⟨⟨fun hmem => (hrest name hmem).1 rfl, hnodup⟩, hseen, fun x hx => (hrest x hx).2⟩
      · intro h
        obtain ⟨⟨hnew, hnodup⟩, -, hrest⟩ := h
        exact ⟨hnodup, fun x hx => ⟨fun heq => hnew (heq ▸ hx), hrest x hx⟩⟩

theorem checkNames_eq_ok_iff : checkNames kind names = .ok () ↔ IsNameList names := by
  have hnodup : firstRepeated [] names = none ↔ names.Nodup := by
    simp [firstRepeated_eq_none_iff]
  rw [checkNames, Fallible.then_eq_ok_iff, require_eq_ok_iff, IsNameList, ← hnodup]
  refine and_congr (by simp) ?_
  cases firstRepeated [] names with
  | none => simp [pure, Except.pure]
  | some name => simp [Fallible.not_throw_eq_ok]

theorem checkAddress_eq_ok_iff {text : String} :
    checkAddress text = .ok () ↔ ∃ a, Address.parse? text = some a := by
  rw [checkAddress, require_eq_ok_iff, Option.isSome_iff_exists]

theorem checkCluster_eq_ok_iff {c : ClusterConfig} : checkCluster c = .ok () ↔ c.Valid := by
  simp only [checkCluster, Fallible.then_eq_ok_iff, Fallible.forM_eq_ok_iff, checkNames_eq_ok_iff,
    require_eq_ok_iff, checkAddress_eq_ok_iff, Bool.and_eq_true, decide_eq_true_eq,
    Bool.not_eq_true', List.isEmpty_eq_false_iff, Option.isSome_iff_exists]
  constructor
  · intro h
    obtain ⟨hnamespaces, hpods, hsomePort, hports, hsomeProtocol, hprotocols, hips⟩ := h
    exact ⟨hnamespaces, hpods, hsomePort, hports, hsomeProtocol, hprotocols, hips⟩
  · intro h
    exact ⟨h.namespaces, h.pods, h.somePort, h.ports, h.someProtocol, h.protocols, h.externalIps⟩

theorem checkCorpus_eq_ok_iff {c : CorpusConfig} : checkCorpus c = .ok () ↔ c.Valid := by
  have hpodIp : c.podIp.forM checkAddress = .ok () ↔
      ∀ ip, c.podIp = some ip → ∃ a, Address.parse? ip = some a := by
    cases c.podIp with
    | none => simp [Option.forM, pure, Except.pure]
    | some ip => simp [Option.forM, checkAddress_eq_ok_iff]
  rw [checkCorpus, Fallible.then_eq_ok_iff, Fallible.forM_eq_ok_iff, hpodIp]
  simp only [require_eq_ok_iff]
  constructor
  · intro h
    exact ⟨h.1, h.2⟩
  · intro h
    exact ⟨h.tags, h.podIp⟩

/-- A configuration is accepted exactly when it has no fault. -/
theorem validate_eq_ok_iff : c.validate = .ok () ↔ c.Valid := by
  have hcheck : c.validate = .ok () ↔ c.check = .ok () := by
    rw [validate]
    cases c.check with
    | error fault => simp [Except.mapError]
    | ok _ => simp [Except.mapError]
  rw [hcheck, check, Fallible.then_eq_ok_iff, Fallible.then_eq_ok_iff, require_eq_ok_iff,
    checkCluster_eq_ok_iff, checkCorpus_eq_ok_iff, bne_iff_ne]
  constructor
  · intro h
    obtain ⟨hworkers, hcluster, hcorpus⟩ := h
    exact ⟨hworkers, hcluster, hcorpus⟩
  · intro h
    exact ⟨h.workers, h.cluster, h.corpus⟩

end Config

theorem Protocol.lowerName_injective : Function.Injective Protocol.lowerName := by
  intro p p' h
  cases p <;> cases p' <;> first | rfl | exact absurd h (by decide)

namespace Container

theorem toList_name_serving (n : Nat) (p : Protocol) : (serving n p).name.toList =
    "cont-".toList ++ (Nat.toDigits 10 n ++ '-' :: p.lowerName.toList) := by
  simp [serving]

theorem name_serving_injective {n n' : Nat} {p p' : Protocol}
    (h : (serving n p).name = (serving n' p').name) : n = n' ∧ p = p' := by
  have hdash : ∀ m : Nat, '-' ∉ Nat.toDigits 10 m := Text.not_mem_toDigits (by decide)
  have hchars := congrArg String.toList h
  rw [toList_name_serving, toList_name_serving, List.append_cancel_left_eq] at hchars
  obtain ⟨hnumber, hprotocol⟩ := Text.eq_of_append_mark (hdash n) (hdash n') hchars
  exact ⟨Text.toDigits_injective hnumber,
    Protocol.lowerName_injective (String.toList_injective hprotocol)⟩

theorem served_serving_injective {n n' : Nat} {p p' : Protocol}
    (h : (serving n p).served = (serving n' p').served) : n = n' ∧ p = p' := by
  simpa [serving, served] using h

/-- What tells containers of different ports apart tells all containers of a pod apart just where
no port and no protocol is repeated. -/
theorem nodup_map_serving_iff {α : Type} {f : Container → α}
    (hf : ∀ {n n' p p'}, f (serving n p) = f (serving n' p') → n = n' ∧ p = p')
    {ports : List Nat} {protocols : List Protocol} (hports : ports ≠ [])
    (hprotocols : protocols ≠ []) :
    ((ports.flatMap fun n => protocols.map (serving n)).map f).Nodup ↔
      ports.Nodup ∧ protocols.Nodup := by
  rw [List.map_flatMap, List.nodup_flatMap, and_comm]
  refine and_congr (List.Pairwise.iff fun {n n'} => ?_) ?_
  · -- one protocol is enough for equal numbers to meet
    obtain ⟨p, hp⟩ := List.exists_mem_of_ne_nil _ hprotocols
    simp only [Function.onFun, List.map_map]
    constructor
    · rintro hdisjoint rfl
      exact hdisjoint (List.mem_map_of_mem hp) (List.mem_map_of_mem hp)
    · intro hne x hx hx'
      obtain ⟨q, -, rfl⟩ := List.mem_map.mp hx
      obtain ⟨q', -, heq⟩ := List.mem_map.mp hx'
      exact hne (hf heq).1.symm
  · obtain ⟨n, hn⟩ := List.exists_mem_of_ne_nil _ hports
    have hmap : ∀ m, ((protocols.map (serving m)).map f).Nodup ↔ protocols.Nodup := by
      intro m
      rw [List.map_map]
      exact List.nodup_map_iff fun p p' heq => (hf heq).2
    exact ⟨fun h => (hmap n).mp (h n hn), fun h m _ => (hmap m).mpr h⟩

end Container

theorem map_some_filterMap {α β : Type} {f : α → Option β} {xs : List α}
    (h : ∀ x ∈ xs, ∃ y, f x = some y) : (xs.filterMap f).map some = xs.map f := by
  induction xs with
  | nil => rfl
  | cons x xs ih =>
    obtain ⟨⟨y, hy⟩, hrest⟩ := List.forall_mem_cons.mp h
    rw [List.filterMap_cons_some hy, List.map_cons, List.map_cons, ih hrest, hy]

theorem resources_eq_ok {c : ClusterConfig} {base : Resources} (h : c.resources = .ok base) :
    Resources.default c.namespaces c.pods c.portNumbers c.knownProtocols c.externalIps =
      .ok base := by
  unfold ClusterConfig.resources at h
  cases hdefault : Resources.default c.namespaces c.pods c.portNumbers c.knownProtocols
      c.externalIps with
  | error ip =>
    rw [hdefault] at h
    cases h
  | ok r =>
    rw [hdefault] at h
    cases h
    rfl

namespace ClusterConfig

/-- No port stands twice in the list, and no protocol under two of its names. -/
structure ListsOnce (c : ClusterConfig) : Prop where
  ports : c.ports.Nodup
  protocols : c.protocols.Pairwise fun name name' => Protocol.read? name ≠ Protocol.read? name'

/-- Every port and protocol of the configuration counts. -/
structure DropsNothing (c : ClusterConfig) : Prop where
  ports : c.portNumbers = c.ports
  protocols : c.knownProtocols.map some = c.protocols.map Protocol.read?

/-- Every namespace holds every pod once, and every pod serves every port on every protocol. -/
structure Describes (c : ClusterConfig) (r : Resources) : Prop where
  wellFormed : r.WellFormed
  once : (r.pods.map (·.names)).Nodup
  pods : ∀ ns name, ⟨ns, name⟩ ∈ r.pods.map (·.names) ↔ ns ∈ c.namespaces ∧ name ∈ c.pods
  serves : ∀ p ∈ r.pods, p.containers.map (·.served) =
    c.portNumbers.flatMap fun n => c.knownProtocols.map fun protocol => ⟨n, protocol⟩

variable {c : ClusterConfig} {r : Resources}

theorem Valid.dropsNothing (hc : c.Valid) : c.DropsNothing where
  ports := by
    refine List.filter_eq_self.mpr fun n hn => ?_
    simpa using hc.ports n hn
  protocols := map_some_filterMap hc.protocols

theorem Valid.describes (hc : c.Valid) (h : c.resources = .ok r) : c.Describes r := by
  have hwell : r.WellFormed :=
    Resources.wellFormed_default (resources_eq_ok h) hc.namespaces.2 hc.pods.2
  refine ⟨hwell, hwell.nodup, fun _ _ => Resources.mem_names_default_iff (resources_eq_ok h), ?_⟩
  intro p hp
  rw [(Resources.mem_default (resources_eq_ok h) hp).2.2, List.map_flatMap]
  simp only [List.map_map]
  rfl

theorem Valid.listsOnce_iff (hc : c.Valid) :
    c.ListsOnce ↔ c.portNumbers.Nodup ∧ c.knownProtocols.Nodup := by
  have hprotocols : c.knownProtocols.Nodup ↔
      c.protocols.Pairwise fun name name' => Protocol.read? name ≠ Protocol.read? name' := by
    rw [← List.nodup_map_iff (Option.some_injective Protocol), hc.dropsNothing.protocols,
      List.Nodup, List.pairwise_map]
  rw [hprotocols, hc.dropsNothing.ports]
  exact ⟨fun h => ⟨h.ports, h.protocols⟩, fun h => ⟨h.1, h.2⟩⟩

/-- Containers of a pod are told apart just where the lists are free of repetitions. -/
theorem Valid.nodup_containers_iff (hc : c.Valid) (h : c.resources = .ok r) {p : Pod}
    (hp : p ∈ r.pods) {α : Type} {f : Container → α}
    (hf : ∀ {n n' q q'}, f (.serving n q) = f (.serving n' q') → n = n' ∧ q = q') :
    (p.containers.map f).Nodup ↔ c.ListsOnce := by
  have hports : c.portNumbers ≠ [] := hc.dropsNothing.ports ▸ hc.somePort
  have hprotocols : c.knownProtocols ≠ [] := by
    intro hnone
    have hread := hc.dropsNothing.protocols
    rw [hnone, List.map_nil, eq_comm, List.map_eq_nil_iff] at hread
    exact hc.someProtocol hread
  rw [(Resources.mem_default (resources_eq_ok h) hp).2.2, hc.listsOnce_iff]
  exact Container.nodup_map_serving_iff hf hports hprotocols

end ClusterConfig

namespace Config

variable {c : Config}

theorem exists_resources (hc : c.cluster.Valid) : ∃ r, c.cluster.resources = .ok r := by
  have hips : c.cluster.externalIps.find? (fun ip => (Address.parse? ip).isNone) = none := by
    rw [List.find?_eq_none]
    intro ip hip
    obtain ⟨a, ha⟩ := hc.externalIps ip hip
    simp [ha]
  rw [ClusterConfig.resources, Resources.default]
  simp only [hips]
  exact ⟨_, rfl⟩

/-- An accepted configuration drops no port and no protocol and has a model, with one pod for each
pair of names. In each of its pods the names of the containers differ, and so do their ports, just
where the configuration lists no port twice and no protocol under two names. -/
theorem describes_model (hc : c.validate = .ok ()) :
    c.cluster.DropsNothing ∧ ∃ r, c.cluster.resources = .ok r ∧ c.cluster.Describes r ∧
      ∀ p ∈ r.pods, ((p.containers.map (·.name)).Nodup ↔ c.cluster.ListsOnce) ∧
        ((p.containers.map (·.served)).Nodup ↔ c.cluster.ListsOnce) := by
  have hvalid : c.cluster.Valid := (validate_eq_ok_iff.mp hc).cluster
  obtain ⟨r, hr⟩ := exists_resources hvalid
  exact ⟨hvalid.dropsNothing, r, hr, hvalid.describes hr, fun p hp =>
    ⟨hvalid.nodup_containers_iff hr hp Container.name_serving_injective,
      hvalid.nodup_containers_iff hr hp Container.served_serving_injective⟩⟩

/-- Protocols are told apart whatever the case of their names. -/
theorem describes_model_mixed_case :
    ∃ c : Config, c.validate = .ok () ∧ c.cluster.protocols = ["tcp", "UDP"] ∧
      c.cluster.DropsNothing ∧ ∃ r, c.cluster.resources = .ok r ∧ c.cluster.Describes r ∧
        ∀ p ∈ r.pods, (p.containers.map (·.name)).Nodup ∧ (p.containers.map (·.served)).Nodup := by
  let c : Config := { cluster := { ports := [80, 81], protocols := ["tcp", "UDP"] } }
  have hc : c.validate = .ok () := by decide +kernel
  have honce : c.cluster.ListsOnce := ⟨by decide, by decide +kernel⟩
  obtain ⟨hdrops, r, hr, hdescribes, hdistinct⟩ := describes_model hc
  refine ⟨c, hc, rfl, hdrops, r, hr, hdescribes, fun p hp => ?_⟩
  exact ⟨(hdistinct p hp).1.mpr honce, (hdistinct p hp).2.mpr honce⟩

/-- Names of namespaces and pods may not be repeated, but a port may. The pod then has two
containers that share their name and what they serve. -/
theorem accepts_repeated_port :
    ∃ c : Config, c.validate = .ok () ∧ c.cluster.ports = [80, 80] ∧
      ∃ r, c.cluster.resources = .ok r ∧ ∃ p ∈ r.pods,
        ¬ (p.containers.map (·.name)).Nodup ∧ ¬ (p.containers.map (·.served)).Nodup := by
  let c : Config := { cluster := {
    namespaces := ["x"], pods := ["a"], ports := [80, 80], protocols := ["TCP"] } }
  have hc : c.validate = .ok () := by decide +kernel
  obtain ⟨r, hr⟩ := exists_resources (validate_eq_ok_iff.mp hc).cluster
  have hmem : ⟨"x", "a"⟩ ∈ r.pods.map (·.names) :=
    (Resources.mem_names_default_iff (resources_eq_ok hr)).mpr ⟨by decide, by decide⟩
  obtain ⟨p, hp, -⟩ := List.mem_map.mp hmem
  refine ⟨c, hc, rfl, r, hr, p, hp, ?_⟩
  rw [(Resources.mem_default (resources_eq_ok hr) hp).2.2]
  exact ⟨by decide +kernel, by decide +kernel⟩

end Config
end PodTraffic
