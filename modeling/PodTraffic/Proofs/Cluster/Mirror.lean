import PodTraffic.Cluster.Memory
import PodTraffic.Proofs.Command
import PodTraffic.Proofs.Job
import PodTraffic.Proofs.SortedMap

/-!
# Clusters that mirror a model

On a cluster that holds the namespaces, pods and services of a model, the host of a planned job
leads back to the destination of the job, and the port of its command to the port that was asked
for. What a cluster needs for this is that names can be told apart in a host name and that each
service selects one pod.
-/
namespace PodTraffic

def isDnsChar (c : Char) : Bool := ('a' ≤ c && c ≤ 'z') || c.isDigit || c == '-'

/-- Lower-case letters, digits and dashes. -/
def IsDnsLabel (s : String) : Prop := ∀ c ∈ s.toList, isDnsChar c = true

instance (s : String) : Decidable (IsDnsLabel s) :=
  List.decidableBAll (isDnsChar · = true) s.toList

theorem IsDnsLabel.not_mem {s : String} (h : IsDnsLabel s) {c : Char} (hc : isDnsChar c = false) :
    c ∉ s.toList := by
  intro hmem
  rw [h c hmem] at hc
  cases hc

/-- A model whose names, labels, ports and addresses identify what a probe connects to. -/
structure Resources.Probeable (r : Resources) : Prop where
  names : ∀ p ∈ r.pods, IsDnsLabel p.ns ∧ IsDnsLabel p.name
  distinct : (r.pods.map fun p => NamePair.mk p.ns p.name).Nodup
  /-- In its namespace, a pod alone has its name as the label that services select by. -/
  labelled : ∀ p ∈ r.pods, ∀ p' ∈ r.pods, p'.ns = p.ns →
    (p'.labels.get? "pod" = some p.name ↔ p' = p)
  served : ∀ p ∈ r.pods, (p.containers.map (·.served)).Nodup
  external : ∀ ip ∈ r.externalIps, ∃ a, Address.parse? ip = some a ∧
    ∀ p ∈ r.pods, p.address? ≠ some a
  ports : ∀ p ∈ r.pods, ∀ c ∈ p.containers, c.port ≤ maxPort

namespace Resources

variable {r : Resources}

theorem Probeable.eq_of_names (h : r.Probeable) {p p' : Pod} (hp : p ∈ r.pods) (hp' : p' ∈ r.pods)
    (hns : p.ns = p'.ns) (hname : p.name = p'.name) : p = p' :=
  List.inj_on_of_nodup_map h.distinct hp hp' (by rw [hns, hname])

theorem Probeable.keysTellApart (h : r.Probeable) : r.KeysTellApart where
  pods := by
    intro p hp p' hp' hkey
    have hslash : isDnsChar '/' = false := by decide
    have htext : ∀ p : Pod, p.key.toList = p.ns.toList ++ '/' :: p.name.toList := by
      intro p
      simp [Pod.key, NamePair.text]
    have hchars := congrArg String.toList hkey
    rw [htext, htext] at hchars
    obtain ⟨hns, hname⟩ := Text.eq_of_append_mark ((h.names p hp).1.not_mem hslash)
      ((h.names p' hp').1.not_mem hslash) hchars
    exact h.eq_of_names hp hp' (String.toList_injective hns) (String.toList_injective hname)
  external := by
    intro p hp hmem
    obtain ⟨a, ha, -⟩ := h.external _ hmem
    have hslash : '/' ∈ p.key.toList := by simp [Pod.key, NamePair.text]
    rw [Address.parse?_eq_none hslash (by decide)] at ha
    cases ha

end Resources

namespace Pod

theorem toList_host (p : Pod) :
    p.host.toList = ("s-".toList ++ p.ns.toList ++ '-' :: p.name.toList) ++
      '.' :: (p.ns.toList ++ '.' :: "svc.cluster.local".toList) := by
  simp [host, service, serviceName]

/-- A host name begins and ends with a letter, whatever the pod is called. -/
theorem isPlainHost_host (p : Pod) : CommandTarget.IsPlainHost p.host := by
  have hfirst : p.host.toList.head? = some 's' := by simp [toList_host]
  have hlast : p.host.toList.getLast? = some 'l' := by
    rw [toList_host, ← List.cons_append, ← List.append_assoc,
      List.getLast?_append_of_ne_nil _ (List.cons_ne_nil _ _)]
    decide
  refine ⟨fun c hc => ?_, ?_⟩
  · obtain rfl : 's' = c := Option.some.inj (hfirst.symm.trans hc)
    exact ⟨by decide, by decide⟩
  · rw [hlast]
    decide

/-- A host name is no address. -/
theorem parse?_host (p : Pod) : Address.parse? p.host = none := by
  have hs : 's' ∈ p.host.toList := by simp [toList_host]
  exact Address.parse?_eq_none hs (by decide)

theorem toList_service (p : Pod) :
    p.service.toList = "s-".toList ++ p.ns.toList ++ '-' :: p.name.toList := by
  simp [service, serviceName]

/-- The service and the namespace come first in a host name. -/
theorem splitBy_host {p : Pod} (hns : IsDnsLabel p.ns) (hname : IsDnsLabel p.name) :
    (Text.splitBy (· == '.') p.host.toList).map String.ofList =
      [p.service, p.ns, "svc", "cluster", "local"] := by
  have hdot : isDnsChar '.' = false := by decide
  have hservice : '.' ∉ p.service.toList := by
    rw [toList_service]
    simp [hns.not_mem hdot, hname.not_mem hdot]
  have hnamespace : '.' ∉ p.ns.toList := hns.not_mem hdot
  have hrest : Text.splitBy (· == '.') "svc.cluster.local".toList =
      ["svc".toList, "cluster".toList, "local".toList] := by decide
  have hhost : p.host.toList =
      p.service.toList ++ '.' :: (p.ns.toList ++ '.' :: "svc.cluster.local".toList) := by
    rw [toList_host, toList_service]
  rw [hhost, Text.splitBy_append_cons (Text.beq_eq_false_of_not_mem hservice) (by decide),
    Text.splitBy_append_cons (Text.beq_eq_false_of_not_mem hnamespace) (by decide), hrest]
  simp

/-- What a host name is spelled with. -/
theorem mem_host {p : Pod} (hns : IsDnsLabel p.ns) (hname : IsDnsLabel p.name) :
    ∀ c ∈ p.host.toList, isDnsChar c = true ∨ c = '.' := by
  intro c hc
  have hstart : IsDnsLabel "s-" := by decide
  have hdomain : "svc.cluster.local".toList.all (fun c => isDnsChar c || c == '.') = true := by
    decide
  rw [toList_host] at hc
  simp only [List.mem_append, List.mem_cons] at hc
  rcases hc with ((hc | hc) | rfl | hc) | rfl | hc | rfl | hc
  · exact .inl (hstart c hc)
  · exact .inl (hns c hc)
  · exact .inl (by decide)
  · exact .inl (hname c hc)
  · exact .inr rfl
  · exact .inl (hns c hc)
  · exact .inr rfl
  · simpa using List.all_eq_true.mp hdomain c hc

end Pod

/-- The characters of host names and addresses. -/
def IsHostChar (c : Char) : Prop :=
  isDnsChar c = true ∨ c = '.' ∨ Address.isAddressChar c = true

instance (c : Char) : Decidable (IsHostChar c) := inferInstanceAs (Decidable (_ ∨ _ ∨ _))

theorem IsHostChar.bounds {c : Char} (h : IsHostChar c) : 45 ≤ c.toNat ∧ c.toNat ≤ 122 := by
  rcases h with h | rfl | h
  · have ha : 'a'.val.toNat = 97 := rfl
    have hz : 'z'.val.toNat = 122 := rfl
    simp only [isDnsChar, Bool.or_eq_true, Bool.and_eq_true, decide_eq_true_eq, beq_iff_eq,
      Char.le_def, UInt32.le_iff_toNat_le] at h
    rcases h with (h | h) | rfl
    · change 45 ≤ c.val.toNat ∧ c.val.toNat ≤ 122
      omega
    · obtain ⟨hlow, hhigh⟩ := Char.isDigit_iff_toNat.mp h
      have h0 : '0'.toNat = 48 := rfl
      have h9 : '9'.toNat = 57 := rfl
      omega
    · decide
  · decide
  · have hbounds := Address.bounds_of_isAddressChar h
    omega

theorem isPlain_of_isHostChar {s : String} (h : ∀ c ∈ s.toList, IsHostChar c) :
    Batch.IsPlain s := by
  intro c hc
  have hbounds := (h c hc).bounds
  constructor
  · exact Text.isBlank_of_bounds (by omega) (by omega)
  · rintro rfl
    exact absurd hbounds.1 (by decide)

/-- An address is spelled without brackets and dashes. -/
theorem Address.isPlainHost_of_parse? {text : String} {a : Address} (h : parse? text = some a) :
    CommandTarget.IsPlainHost text := by
  have hchars := isAddressChar_of_parse? h
  refine ⟨fun c hc => ?_, fun hlast => ?_⟩
  · have hchar := hchars c (List.mem_of_head? hc)
    refine ⟨?_, ?_⟩
    · rintro rfl
      exact absurd hchar (by decide)
    · rintro rfl
      exact absurd hchar (by decide)
  · exact absurd (hchars ']' (List.mem_of_getLast? hlast)) (by decide)

section Hosts

variable {r : Resources} {port : PortValue} {protocol : Protocol} {res : PortResolution}
  {d : JobDestination} {q : PortQuery}

theorem isHostChar_host (h : r.Probeable) (hd : r.Answers port protocol res d q) :
    ∀ c ∈ d.host.toList, IsHostChar c := by
  intro c hc
  cases d with
  | pod p nsLabels =>
    obtain ⟨hns, hname⟩ := h.names p hd.1
    rcases Pod.mem_host hns hname c hc with hc | hc
    · exact .inl hc
    · exact .inr (.inl hc)
  | external ip =>
    obtain ⟨a, ha, -⟩ := h.external ip hd.1
    exact .inr (.inr (Address.isAddressChar_of_parse? ha c hc))

/-- Host names and addresses stand in a command as they are. -/
theorem Resources.Answers.isPlainHost (hips : ∀ ip ∈ r.externalIps, ∃ a, Address.parse? ip = some a)
    (hd : r.Answers port protocol res d q) : CommandTarget.IsPlainHost d.host := by
  cases d with
  | pod p nsLabels => exact p.isPlainHost_host
  | external ip =>
    obtain ⟨a, ha⟩ := hips ip hd.1
    exact Address.isPlainHost_of_parse? ha

end Hosts

/-- The object of a pod, with the address of the pod. -/
def PodObject.Runs (o : PodObject) (p : Pod) : Prop :=
  ∃ image phase, o = { p.object image with status := some ⟨phase, some p.ip⟩ }

/-- The cluster holds the namespaces, the pods and for each pod the service of the model. -/
structure Cluster.Mirrors (c : Cluster) (r : Resources) : Prop where
  namespaces : c.namespaces = r.namespaces
  pods : ∀ p ∈ r.pods, ∃ o, c.pods.get? ⟨p.ns, p.name⟩ = some o ∧ o.Runs p
  onlyPods : ∀ key o, c.pods.get? key = some o → ∃ p ∈ r.pods, key = ⟨p.ns, p.name⟩ ∧ o.Runs p
  services : ∀ p ∈ r.pods, c.services.get? ⟨p.ns, p.service⟩ = some p.serviceObject

namespace PodObject

variable (o : PodObject) {image : String} {containers : List Container}

theorem any_name (h : o.containerList = containers.map (·.object image)) {c : Container}
    (hc : c ∈ containers) : o.containerList.any (·.name == c.name) = true := by
  rw [h]
  refine List.any_eq_true.mpr ⟨c.object image, List.mem_map_of_mem hc, ?_⟩
  exact beq_self_eq_true c.name

/-- The ports of an object are those of its containers, and have their names. -/
theorem map_servedPort? (h : o.containerList = containers.map (·.object image))
    (t : CommandTarget) :
    (Cluster.servedPort? o t).map (·.name) =
      (containers.find? fun c => c.port == t.port && c.protocol == t.protocol).map
        (·.portName) := by
  have hname : ∀ a b : Protocol, (a.name == b.name) = (a == b) := by
    intro a b
    cases a <;> cases b <;> decide
  unfold Cluster.servedPort?
  rw [h]
  clear h
  induction containers with
  | nil => rfl
  | cons c rest ih =>
    simp only [List.map_cons, List.flatMap_cons, List.find?_append, Container.object,
      Option.getD_some, List.find?_cons, hname, List.find?_nil] at ih ⊢
    have hport : (((c.port : Int) == (t.port : Int)) && c.protocol == t.protocol) =
        (c.port == t.port && c.protocol == t.protocol) := by
      rw [Bool.eq_iff_iff]
      simp
    rw [hport]
    cases c.port == t.port && c.protocol == t.protocol with
    | true => rfl
    | false => simpa using ih

end PodObject

namespace PodObject.Runs

variable {o : PodObject} {p : Pod}

theorem ns_eq (h : o.Runs p) : o.ns = some p.ns := by
  obtain ⟨image, phase, rfl⟩ := h
  rfl

theorem labelMap_eq (h : o.Runs p) : o.labelMap = p.labels := by
  obtain ⟨image, phase, rfl⟩ := h
  rfl

theorem address?_eq (h : o.Runs p) : o.address? = p.address? := by
  obtain ⟨image, phase, rfl⟩ := h
  rfl

theorem containerList_eq (h : o.Runs p) :
    ∃ image, o.containerList = p.containers.map (·.object image) := by
  obtain ⟨image, phase, rfl⟩ := h
  exact ⟨image, rfl⟩

theorem any_container (h : o.Runs p) {c : Container} (hc : c ∈ p.containers) :
    o.containerList.any (·.name == c.name) = true := by
  obtain ⟨image, hlist⟩ := h.containerList_eq
  exact o.any_name hlist hc

/-- A port of the object is a container of the pod, and has its name. -/
theorem servedPort?_eq (h : o.Runs p) (t : CommandTarget) :
    (Cluster.servedPort? o t).map (·.name) = (p.numbered? t.port t.protocol).map (·.portName) := by
  obtain ⟨image, hlist⟩ := h.containerList_eq
  exact o.map_servedPort? hlist t

end PodObject.Runs

theorem Pod.numbered?_eq_some {p : Pod} {n : Nat} {protocol : Protocol} {c : Container}
    (h : p.numbered? n protocol = some c) :
    c ∈ p.containers ∧ c.port = n ∧ c.protocol = protocol := by
  have hholds := List.find?_some h
  simp only [Bool.and_eq_true, beq_iff_eq] at hholds
  exact ⟨List.mem_of_find?_eq_some h, hholds⟩

/-- A port that the pod can resolve is served by it, under the name that the job carries. -/
theorem Pod.numbered?_of_resolve {p : Pod} (hserved : (p.containers.map (·.served)).Nodup)
    {port : PortValue} {protocol : Protocol} {q : PortQuery}
    (h : p.resolve port protocol = (.valid, q)) :
    ∃ c ∈ p.containers, p.numbered? q.number q.protocol = some c ∧ c.port = q.number ∧
      c.portName = q.name := by
  unfold resolve at h
  cases port with
  | number n =>
    simp only [] at h
    cases hnumbered : p.numbered? n protocol with
    | none => simp [hnumbered] at h
    | some c =>
      rw [hnumbered] at h
      obtain ⟨-, rfl⟩ := Prod.mk.inj h
      obtain ⟨hmem, hport, -⟩ := numbered?_eq_some hnumbered
      exact ⟨c, hmem, hnumbered, hport, rfl⟩
  | name s =>
    simp only [] at h
    cases hnamed : p.named? s with
    | none => simp [hnamed] at h
    | some c =>
      rw [hnamed] at h
      obtain ⟨hvalid, rfl⟩ := Prod.mk.inj h
      have hprotocol : c.protocol = protocol := by
        by_contra hne
        simp [hne] at hvalid
      have hmem : c ∈ p.containers := List.mem_of_find?_eq_some hnamed
      have hname : c.portName = some s := by simpa using List.find?_some hnamed
      obtain ⟨c', hc'⟩ : ∃ c', p.numbered? c.port protocol = some c' := by
        rw [← Option.isSome_iff_exists, numbered?, List.find?_isSome]
        exact ⟨c, hmem, by simp [hprotocol]⟩
      obtain ⟨hmem', hport', hprotocol'⟩ := numbered?_eq_some hc'
      obtain rfl : c' = c := List.inj_on_of_nodup_map hserved hmem' hmem (by
        rw [Container.served, Container.served, hport', hprotocol', hprotocol])
      exact ⟨c', hmem, hc', rfl, hname⟩

theorem Cluster.selects_podLabels (name : String) (labels : Labels) :
    Cluster.selects (podLabels name) labels = (labels.get? "pod" == some name) := by
  have hentries : (podLabels name).entries = [("pod", name)] := rfl
  simp [Cluster.selects, hentries]

/-- Without its service a pod is not reached by its host name. -/
theorem Cluster.resolveHost_of_absent {c : Cluster} {p : Pod} (hns : IsDnsLabel p.ns)
    (hname : IsDnsLabel p.name) (h : c.services.get? ⟨p.ns, p.service⟩ = none) :
    c.resolveHost p.host = none := by
  unfold Cluster.resolveHost
  rw [p.parse?_host, Pod.splitBy_host hns hname]
  simp only [h]
  rfl

/-- With it, the first pod of the namespace that the service selects is reached. -/
theorem Cluster.resolveHost_of_service {c : Cluster} {p q : Pod} (hns : IsDnsLabel p.ns)
    (hname : IsDnsLabel p.name) (h : c.services.get? ⟨p.ns, p.service⟩ = some q.serviceObject)
    (hq : q.name = p.name) :
    c.resolveHost p.host =
      ((c.pods.entries.filter fun e => e.1.first == p.ns).map (·.2)).find? fun o =>
        o.labelMap.get? "pod" == some p.name := by
  simp only [← Cluster.selects_podLabels]
  unfold Cluster.resolveHost
  rw [p.parse?_host, Pod.splitBy_host hns hname, ← hq]
  simp only [h]
  rfl

namespace Cluster.Mirrors

variable {c : Cluster} {r : Resources}

theorem endpoint_eq (hc : c.Mirrors r) {o : PodObject} {p : Pod} (ho : o.Runs p) :
    c.endpoint o = p.endpoint (r.nsLabels p.ns) := by
  have hlabels : c.nsLabels p.ns = r.nsLabels p.ns := by
    rw [Cluster.nsLabels, Resources.nsLabels, hc.namespaces]
  simp only [Cluster.endpoint, Pod.endpoint, ho.ns_eq, Option.getD_some, hlabels, ho.labelMap_eq,
    ho.address?_eq]

/-- The service behind the host name selects the pod and no other. -/
theorem resolveHost_pod (hc : c.Mirrors r) (hr : r.Probeable) {p : Pod} (hp : p ∈ r.pods) :
    ∃ o, c.resolveHost p.host = some o ∧ o.Runs p := by
  obtain ⟨hns, hname⟩ := hr.names p hp
  obtain ⟨o, ho, hruns⟩ := hc.pods p hp
  have hhost := Cluster.resolveHost_of_service hns hname (hc.services p hp) rfl
  have hinside : o ∈ (c.pods.entries.filter fun e => e.1.first == p.ns).map (·.2) := by
    refine List.mem_map.mpr ⟨(⟨p.ns, p.name⟩, o), List.mem_filter.mpr ⟨?_, by simp⟩, rfl⟩
    exact SortedMap.get?_eq_some_iff.mp ho
  have hselected : (o.labelMap.get? "pod" == some p.name) = true := by
    rw [hruns.labelMap_eq, (hr.labelled p hp p hp rfl).mpr rfl]
    exact beq_self_eq_true _
  rw [hhost]
  have hsome := (@List.find?_isSome _ _ fun o : PodObject =>
    o.labelMap.get? "pod" == some p.name).mpr ⟨o, hinside, hselected⟩
  obtain ⟨o', ho'⟩ := Option.isSome_iff_exists.mp hsome
  refine ⟨o', ho', ?_⟩
  obtain ⟨⟨key, o''⟩, hentry, rfl⟩ := List.mem_map.mp (List.mem_of_find?_eq_some ho')
  obtain ⟨hentry, hkey⟩ := List.mem_filter.mp hentry
  obtain ⟨p', hp', rfl, hruns'⟩ := hc.onlyPods key o'' (SortedMap.get?_eq_some_iff.mpr hentry)
  have hlabel := List.find?_some ho'
  rw [hruns'.labelMap_eq, beq_iff_eq] at hlabel
  obtain rfl := (hr.labelled p hp p' hp' (by simpa using hkey)).mp hlabel
  exact hruns'

theorem resolveHost_external (hc : c.Mirrors r) {ip : String} {a : Address}
    (ha : Address.parse? ip = some a) (hno : ∀ p ∈ r.pods, p.address? ≠ some a) :
    c.resolveHost ip = none := by
  unfold Cluster.resolveHost
  rw [ha]
  refine List.find?_eq_none.mpr fun o ho => ?_
  obtain ⟨key, hkey⟩ := SortedMap.mem_values_iff.mp ho
  obtain ⟨p, hp, -, hruns⟩ := hc.onlyPods key o hkey
  simpa [hruns.address?_eq] using hno p hp

/-- A command of a planned job reaches the destination of the job, at a port of the same name. -/
theorem destination?_eq (hc : c.Mirrors r) (hr : r.Probeable) {port : PortValue}
    {protocol : Protocol} {d : JobDestination} {q : PortQuery}
    (hd : r.Answers port protocol .valid d q) :
    c.destination? ⟨d.host, q.number, q.protocol⟩ = some (d.endpoint, q.name) := by
  unfold Cluster.destination?
  cases d with
  | pod p nsLabels =>
    obtain ⟨hp, rfl, hresolve⟩ := hd
    obtain ⟨o, ho, hruns⟩ := hc.resolveHost_pod hr hp
    obtain ⟨k, -, hnumbered, -, hname⟩ := Pod.numbered?_of_resolve (hr.served p hp) hresolve
    have hserved := hruns.servedPort?_eq ⟨p.host, q.number, q.protocol⟩
    rw [hnumbered] at hserved
    obtain ⟨port', hport', hportName⟩ := Option.map_eq_some_iff.mp hserved
    simp only [JobDestination.host, ho, hport', Option.map_some, hc.endpoint_eq hruns, hportName,
      hname]
    rfl
  | external ip =>
    obtain ⟨hip, hresolve⟩ := hd
    obtain ⟨a, ha, hno⟩ := hr.external ip hip
    have hname : q.name = none := by
      cases port with
      | number n =>
        obtain ⟨-, rfl⟩ := Prod.mk.inj hresolve
        rfl
      | name s => simp [resolveExternal] at hresolve
    simp only [JobDestination.host, hc.resolveHost_external ha hno, CommandTarget.address?, ha,
      Option.map_some, JobDestination.endpoint, hname]

end Cluster.Mirrors
end PodTraffic
