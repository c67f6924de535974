import PodTraffic.Proofs.Address.RoundTrip
import PodTraffic.Proofs.Cluster.Consistent

/-!
# The addresses of pods

Pods are numbered as they are created, and a number is not given out again when its pod is deleted.
Two octets hold the number, which is enough for 65535 pods. As long as no more are created, every
pod has an address of its own and answers to it while it is there. The text that the next one gets
is the address of nothing.
-/
namespace PodTraffic.Cluster

/-- The address with the number in its last two octets. -/
def podAddress (id : Nat) : Address := .ofParts .v4 8 [192, 168, id / 256, id % 256]

theorem toList_addressOf (id : Nat) :
    (addressOf id).toList =
      ['.'].intercalate ([192, 168, id / 256, id % 256].map (Nat.toDigits 10)) := by
  have h192 : Nat.toDigits 10 192 = "192".toList := by decide
  have h168 : Nat.toDigits 10 168 = "168".toList := by decide
  simp [addressOf, List.intercalate_cons_cons, h192, h168]

theorem addressOf_injective : Function.Injective addressOf := by
  have hdot : ∀ octets : List Nat, ∀ digits ∈ octets.map (Nat.toDigits 10), '.' ∉ digits := by
    simp [Text.not_mem_toDigits]
  intro id id' h
  have hdigits := Text.eq_of_intercalate_eq (hdot [192, 168, id / 256, id % 256])
    (hdot [192, 168, id' / 256, id' % 256]) (by simp) (by simp)
    (by rw [← toList_addressOf, ← toList_addressOf, h])
  have hparts := List.map_injective_iff.mpr (fun _ _ => Text.toDigits_injective) hdigits
  simp only [List.cons.injEq, true_and, and_true] at hparts
  omega

theorem bits_podAddress {id : Nat} (h : id < 65536) :
    (podAddress id).bits = 192 * 2 ^ 24 + 168 * 2 ^ 16 + id := by
  simp only [podAddress, Address.ofParts, Address.ofNat, List.foldl_cons, List.foldl_nil,
    Nat.pow_eq, Family.width]
  omega

theorem podAddress_injOn : Set.InjOn podAddress {id | id < 65536} := by
  intro id hid id' hid' h
  have hbits := congrArg Address.bits h
  rw [bits_podAddress hid, bits_podAddress hid'] at hbits
  omega

theorem parse?_addressOf {id : Nat} (h : id < 65536) :
    Address.parse? (addressOf id) = some (podAddress id) := by
  have hread : Address.readOctets false (addressOf id).toList =
      some ([192, 168, id / 256, id % 256], []) := by
    rw [toList_addressOf, ← List.append_nil (List.intercalate _ _)]
    refine Address.readOctets_intercalate rfl (fun n hn => ?_) (by simp)
    simp only [List.mem_cons, List.not_mem_nil, or_false] at hn
    omega
  simp [Address.parse?, Address.readV4, hread, podAddress]

theorem parse?_addressOf_eq_none {id : Nat} (h : 65536 ≤ id) :
    Address.parse? (addressOf id) = none := by
  have htext : (addressOf id).toList =
      Nat.toDigits 10 192 ++ '.' :: (Nat.toDigits 10 168 ++ '.' ::
        (Nat.toDigits 10 (id / 256) ++ '.' :: Nat.toDigits 10 (id % 256))) := by
    simp [toList_addressOf, List.intercalate_cons_cons]
  have hoctets : Address.readOctets false (addressOf id).toList = none := by
    rw [htext]
    exact Address.readOctets_eq_none_of_large (by decide) (by decide) (by omega)
  have hcolon : ':' ∉ (addressOf id).toList := by
    simp [htext, Text.not_mem_toDigits]
  simp [Address.parse?, Address.readV4, hoctets, Address.readV6_eq_none hcolon]

/-- Two pods of one address have one number. -/
theorem parse?_addressOf_inj {id id' : Nat} {a : Address}
    (h : Address.parse? (addressOf id) = some a) (h' : Address.parse? (addressOf id') = some a) :
    id = id' := by
  have hsmall : ∀ n, Address.parse? (addressOf n) = some a → n < 65536 ∧ podAddress n = a := by
    intro n hn
    by_cases hlt : n < 65536
    · rw [parse?_addressOf hlt] at hn
      exact ⟨hlt, Option.some.inj hn⟩
    · rw [parse?_addressOf_eq_none (Nat.le_of_not_lt hlt)] at hn
      cases hn
  obtain ⟨hlt, heq⟩ := hsmall id h
  obtain ⟨hlt', heq'⟩ := hsmall id' h'
  exact podAddress_injOn hlt hlt' (heq.trans heq'.symm)

theorem address?_started (p : PodObject) (id : Nat) :
    (started p id).address? = Address.parse? (addressOf id) := by
  simp only [PodObject.address?, PodObject.ipText?, started, Option.bind_eq_bind, Option.bind_some]

variable {α : Type} {permit : Permit} {c c' : Cluster} {made : List PodObject}

/-- The cluster after a call. -/
def after (c : Cluster) (mode : ExecMode) (q : Request α) : Cluster :=
  ((q.send (client mode)).run.run c).2

/-- The pods of a later cluster at places that were free. -/
def created (c c' : Cluster) : List PodObject :=
  (c'.pods.filter fun key _ => !c.pods.contains key).values

/-- No pod is new, and each keeps the text of its address. -/
structure KeepsPods (c c' : Cluster) : Prop where
  podsCreated : c'.podsCreated = c.podsCreated
  present : ∀ key o', c'.pods.get? key = some o' →
    ∃ o, c.pods.get? key = some o ∧ o'.ipText? = o.ipText?

theorem KeepsPods.of_sub (hcount : c'.podsCreated = c.podsCreated)
    (h : ∀ key o, c'.pods.get? key = some o → c.pods.get? key = some o) : c.KeepsPods c' where
  podsCreated := hcount
  present key o ho := ⟨o, h key o ho, rfl⟩

theorem Change.pods (h : Change permit c c') :
    c.KeepsPods c' ∨ ∃ p, c.pods.get? p.key = none ∧ c' = c.withPod p := by
  cases h with
  | createPod p _ _ hnew => exact .inr ⟨p, hnew, rfl⟩
  | relabelPod key o labels ho =>
    refine .inl ⟨rfl, fun key' o' ho' => ?_⟩
    simp only [withPodLabels, SortedMap.get?_insert] at ho'
    split at ho'
    · next heq =>
      cases ho'
      exact ⟨o, by rw [eq_of_beq heq, ho], rfl⟩
    · exact ⟨o', ho', rfl⟩
  | dropNamespace ns =>
    refine .inl (.of_sub rfl fun key o ho => ?_)
    simp only [Cluster.dropNamespace, SortedMap.get?_filter, Option.filter_eq_some_iff] at ho
    exact ho.1
  | dropPod key =>
    refine .inl (.of_sub rfl fun key' o ho => ?_)
    simp only [withoutPod, SortedMap.erase, SortedMap.get?_filter,
      Option.filter_eq_some_iff] at ho
    exact ho.1
  | createNamespace | relabelNamespace | createPolicy | updatePolicy | dropPolicies
  | createService | dropService | count =>
    exact .inl (.of_sub rfl fun _ _ ho => ho)

/-- A call creates one pod at most, under a name that is free. -/
theorem pods_after (c : Cluster) (mode : ExecMode) (q : Request α) :
    c.KeepsPods (c.after mode q) ∨
      ∃ p, c.pods.get? p.key = none ∧ c.after mode q = c.withPod p := by
  rw [after]
  rcases Settles.send mode q q.permitted_unrestricted c with
    ⟨a, c', hrun, rfl | hchange⟩ | ⟨e, c', hrun, n, rfl⟩ <;> rw [hrun]
  · exact .inl (.of_sub rfl fun _ _ ho => ho)
  · exact hchange.pods
  · exact .inl (.of_sub rfl fun _ _ ho => ho)

theorem KeepsPods.created_eq (h : c.KeepsPods c') : c.created c' = [] := by
  rw [List.eq_nil_iff_forall_not_mem]
  intro o ho
  obtain ⟨key, hkey⟩ := SortedMap.mem_values_iff.mp ho
  rw [SortedMap.get?_filter, Option.filter_eq_some_iff] at hkey
  obtain ⟨before, hbefore, -⟩ := h.present key o hkey.1
  simp [SortedMap.contains, hbefore] at hkey

theorem created_withPod {p : PodObject} (h : c.pods.get? p.key = none) :
    c.created (c.withPod p) = [started p (c.podsCreated + 1)] := by
  have hnew : (c.withPod p).pods.filter (fun key _ => !c.pods.contains key) =
      SortedMap.empty.insert p.key (started p (c.podsCreated + 1)) := by
    refine SortedMap.ext_get? fun key => ?_
    rw [SortedMap.get?_filter_keys fun key => !c.pods.contains key]
    simp only [withPod, SortedMap.get?_insert, SortedMap.get?_empty]
    cases heq : key == p.key with
    | true => simp [eq_of_beq heq, SortedMap.contains, h]
    | false => cases hkey : c.pods.get? key <;> simp [SortedMap.contains, hkey]
  rw [created, hnew]
  rfl

/-- Calls with any arguments, from an empty cluster on, and the pods that they created in turn. -/
inductive Creates : Cluster → List PodObject → Prop where
  | start : Creates {} []
  | call {c : Cluster} {made : List PodObject} {α : Type} (mode : ExecMode) (q : Request α)
      (h : Creates c made) : Creates (c.after mode q) (made ++ c.created (c.after mode q))

/-- What holds after any calls: the pods were numbered in turn, and those that are there have
different numbers. -/
structure Numbered (c : Cluster) (made : List PodObject) : Prop where
  texts : made.map (·.ipText?) = (List.range c.podsCreated).map fun n => some (addressOf (n + 1))
  live : ∀ key o, c.pods.get? key = some o →
    ∃ n < c.podsCreated, o.ipText? = some (addressOf (n + 1))
  apart : ∀ key key' o o', c.pods.get? key = some o → c.pods.get? key' = some o' →
    o.ipText? = o'.ipText? → key = key'

namespace Numbered

theorem empty : Numbered {} [] where
  texts := rfl
  live _ _ h := nomatch h
  apart _ _ _ _ h := nomatch h

theorem keepsPods (h : c.Numbered made) (hc : c.KeepsPods c') : c'.Numbered made where
  texts := by rw [hc.podsCreated, h.texts]
  live := by
    intro key o' ho'
    obtain ⟨o, ho, htext⟩ := hc.present key o' ho'
    rw [hc.podsCreated, htext]
    exact h.live key o ho
  apart := by
    intro key key' o o' ho ho' heq
    obtain ⟨before, hbefore, htext⟩ := hc.present key o ho
    obtain ⟨before', hbefore', htext'⟩ := hc.present key' o' ho'
    exact h.apart key key' before before' hbefore hbefore' (by rw [← htext, ← htext', heq])

/-- The number of a new pod is larger than those of the pods that are there. -/
theorem ne_next (h : c.Numbered made) {key : NamePair} {o : PodObject}
    (ho : c.pods.get? key = some o) : o.ipText? ≠ some (addressOf (c.podsCreated + 1)) := by
  obtain ⟨n, hn, htext⟩ := h.live key o ho
  intro heq
  have hnumber := addressOf_injective (Option.some.inj (htext.symm.trans heq))
  omega

theorem withPod (h : c.Numbered made) (p : PodObject) :
    (c.withPod p).Numbered (made ++ [started p (c.podsCreated + 1)]) where
  texts := by
    rw [List.map_append, h.texts]
    simp [Cluster.withPod, List.range_succ, started, PodObject.ipText?]
  live := by
    intro key o ho
    simp only [Cluster.withPod, SortedMap.get?_insert] at ho ⊢
    split at ho
    · cases ho
      exact ⟨c.podsCreated, Nat.lt_succ_self _, rfl⟩
    · obtain ⟨n, hn, htext⟩ := h.live key o ho
      exact ⟨n, Nat.lt_succ_of_lt hn, htext⟩
  apart := by
    intro key key' o o' ho ho' heq
    simp only [Cluster.withPod, SortedMap.get?_insert] at ho ho'
    split at ho <;> split at ho'
    · next hkey hkey' => rw [eq_of_beq hkey, eq_of_beq hkey']
    · cases ho
      exact absurd heq.symm (h.ne_next ho')
    · cases ho'
      exact absurd heq (h.ne_next ho)
    · exact h.apart key key' o o' ho ho' heq

theorem call (h : c.Numbered made) (mode : ExecMode) (q : Request α) :
    (c.after mode q).Numbered (made ++ c.created (c.after mode q)) := by
  rcases c.pods_after mode q with hkeeps | ⟨p, hnew, hp⟩
  · rw [hkeeps.created_eq, List.append_nil]
    exact h.keepsPods hkeeps
  · rw [hp, created_withPod hnew]
    exact h.withPod p

theorem length_eq (h : c.Numbered made) : made.length = c.podsCreated := by
  simpa using congrArg List.length h.texts

theorem nodup_texts (h : c.Numbered made) : (made.map (·.ipText?)).Nodup := by
  rw [h.texts]
  refine List.nodup_range.map fun n n' heq => ?_
  exact Nat.succ_injective (addressOf_injective (Option.some.inj heq))

/-- Where the address of a pod is one, the pod answers to it. -/
theorem resolveHost_eq (h : c.Numbered made) {key : NamePair} {o : PodObject} {a : Address}
    {ip : String} (ho : c.pods.get? key = some o) (ha : o.address? = some a)
    (hip : Address.parse? ip = some a) : c.resolveHost ip = some o := by
  have honly : ∀ o' ∈ c.pods.values, o'.address? = some a → o' = o := by
    intro o' ho' ha'
    obtain ⟨key', hkey'⟩ := SortedMap.mem_values_iff.mp ho'
    obtain ⟨n, -, htext⟩ := h.live key o ho
    obtain ⟨n', -, htext'⟩ := h.live key' o' hkey'
    rw [PodObject.address?, htext] at ha
    rw [PodObject.address?, htext'] at ha'
    have hnumber := parse?_addressOf_inj ha ha'
    have hkeys := h.apart key key' o o' ho hkey' (by rw [htext, htext', hnumber])
    rw [hkeys, hkey'] at ho
    exact Option.some.inj ho
  have hmem : o ∈ c.pods.values := SortedMap.mem_values_iff.mpr ⟨key, ho⟩
  obtain ⟨found, hfound⟩ : ∃ found, c.pods.values.find? (·.address? == some a) = some found :=
    Option.isSome_iff_exists.mp (List.find?_isSome.mpr ⟨o, hmem, by simp [ha]⟩)
  have hsame := honly found (List.mem_of_find?_eq_some hfound)
    (by simpa using List.find?_some hfound)
  rw [resolveHost, hip]
  exact hfound.trans (congrArg some hsame)

end Numbered

theorem Creates.numbered (h : Creates c made) : c.Numbered made := by
  induction h with
  | start => exact .empty
  | call mode q _ ih => exact ih.call mode q

/-- Every created pod got an address of its own, and those that are there answer to theirs. -/
structure Addressable (c : Cluster) (made : List PodObject) : Prop where
  parses : ∀ o ∈ made, ∃ a, o.address? = some a
  apart : (made.map (·.address?)).Nodup
  resolves : ∀ key o, c.pods.get? key = some o →
    ∃ ip, o.ipText? = some ip ∧ c.resolveHost ip = some o

namespace Numbered

theorem addresses (h : c.Numbered made) : made.map (·.address?) =
    (List.range c.podsCreated).map fun n => Address.parse? (addressOf (n + 1)) := by
  calc made.map (·.address?)
    _ = (made.map (·.ipText?)).map (· >>= Address.parse?) := by
      rw [List.map_map]
      rfl
    _ = (List.range c.podsCreated).map fun n => Address.parse? (addressOf (n + 1)) := by
      rw [h.texts, List.map_map]
      rfl

theorem addressable (h : c.Numbered made) (hlt : made.length < 65536) : c.Addressable made := by
  rw [h.length_eq] at hlt
  refine ⟨fun o ho => ?_, ?_, fun key o ho => ?_⟩
  · have haddress : o.address? ∈ made.map (·.address?) := List.mem_map_of_mem ho
    rw [h.addresses, List.mem_map] at haddress
    obtain ⟨n, hn, haddress⟩ := haddress
    rw [List.mem_range] at hn
    exact ⟨podAddress (n + 1), by rw [← haddress, parse?_addressOf (by omega)]⟩
  · rw [h.addresses]
    refine List.nodup_range.map_on fun n hn n' hn' heq => ?_
    rw [List.mem_range] at hn
    have hfirst : Address.parse? (addressOf (n + 1)) = some (podAddress (n + 1)) :=
      parse?_addressOf (by omega)
    exact Nat.succ_injective (parse?_addressOf_inj hfirst (heq ▸ hfirst))
  · obtain ⟨n, hn, htext⟩ := h.live key o ho
    have hparse : Address.parse? (addressOf (n + 1)) = some (podAddress (n + 1)) :=
      parse?_addressOf (by omega)
    refine ⟨_, htext, h.resolveHost_eq ho ?_ hparse⟩
    rw [PodObject.address?, htext]
    exact hparse

theorem length_lt (h : c.Numbered made) (ha : c.Addressable made) : made.length < 65536 := by
  by_contra hlarge
  rw [h.length_eq] at hlarge
  have hnone : none ∈ made.map (·.address?) := by
    rw [h.addresses, List.mem_map]
    exact ⟨65535, List.mem_range.mpr (by omega), parse?_addressOf_eq_none (Nat.le_refl _)⟩
  obtain ⟨o, ho, haddress⟩ := List.mem_map.mp hnone
  obtain ⟨a, hsome⟩ := ha.parses o ho
  rw [haddress] at hsome
  cases hsome

end Numbered

/-- All addresses can be used exactly as long as fewer than 65536 pods were created. Beyond that,
and up to where the count itself would overflow, the texts still differ, and the pods whose texts
are addresses answer to them. -/
theorem Creates.addressable_iff (h : Creates c made) :
    (c.Addressable made ↔ made.length < 65536) ∧
      (made.length < UInt32.size → (made.map (·.ipText?)).Nodup ∧
        ∀ key o a ip, c.pods.get? key = some o → o.address? = some a →
          Address.parse? ip = some a → c.resolveHost ip = some o) :=
  ⟨⟨h.numbered.length_lt, h.numbered.addressable⟩, fun _ =>
    ⟨h.numbered.nodup_texts, fun _ _ _ _ => h.numbered.resolveHost_eq⟩⟩

/-- A pod that is created again under its name gets a new address and answers to that one. -/
theorem Creates.addressable_iff_again :
    let pod (name : String) : PodObject := { ns := some "x", name := some name }
    let c₁ := after {} .enforce (.createNamespace "x" .empty)
    let c₂ := c₁.after .enforce (.createPod (pod "a"))
    let c₃ := c₂.after .enforce (.createPod (pod "b"))
    let c₄ := c₃.after .enforce (.deletePod "x" "a")
    let c := c₄.after .enforce (.createPod (pod "a"))
    ∃ made, Creates c made ∧
      made.map (·.ipText?) = [some "192.168.0.1", some "192.168.0.2", some "192.168.0.3"] ∧
      c.Addressable made ∧
      ∃ o, c.pods.get? ⟨"x", "a"⟩ = some o ∧ c.resolveHost "192.168.0.3" = some o := by
  intro pod c₁ c₂ c₃ c₄ c
  have hcreates := ((((Creates.start.call .enforce (.createNamespace "x" .empty)).call .enforce
    (.createPod (pod "a"))).call .enforce (.createPod (pod "b"))).call .enforce
    (.deletePod "x" "a")).call .enforce (.createPod (pod "a"))
  have ho : c.pods.get? ⟨"x", "a"⟩ = some (started (pod "a") 3) := by decide
  have hparse : Address.parse? (addressOf 3) = some (podAddress 3) := parse?_addressOf (by decide)
  obtain ⟨hiff, hresolve⟩ := hcreates.addressable_iff
  obtain ⟨-, hresolve⟩ := hresolve (by decide)
  exact ⟨_, hcreates, by decide, hiff.mpr (by decide), _, ho,
    hresolve _ _ _ _ ho (by rw [address?_started, hparse]) hparse⟩

/-- The cluster after a pod was created and deleted. -/
def withDeleted (p : PodObject) (c : Cluster) : Cluster :=
  (c.after .enforce (.createPod p)).after .enforce (.deletePod p.key.first p.key.second)

theorem withDeleted_eq {p : PodObject} (hns : c.namespaces.contains p.key.first = true)
    (h : c.pods.get? p.key = none) :
    c.withDeleted p = { c with podsCreated := c.podsCreated + 1 } := by
  have hcreated : c.after .enforce (.createPod p) = c.withPod p :=
    congrArg Prod.snd (run_createPod hns h)
  have hpresent : (c.withPod p).pods.get? ⟨p.key.first, p.key.second⟩ =
      some (started p (c.podsCreated + 1)) := by
    simp [withPod]
  rw [withDeleted, hcreated]
  refine (congrArg Prod.snd (run_deletePod hpresent)).trans ?_
  simp only [withoutPod, withPod]
  rw [SortedMap.erase_insert_of_absent h]

theorem iterate_withDeleted {p : PodObject} (hns : c.namespaces.contains p.key.first = true)
    (h : c.pods.get? p.key = none) (n : Nat) :
    (withDeleted p)^[n] c = { c with podsCreated := c.podsCreated + n } := by
  induction n with
  | zero => rfl
  | succ n ih =>
    rw [Function.iterate_succ_apply', ih]
    exact withDeleted_eq hns h

theorem Creates.iterate_withDeleted (h : Creates c made) (p : PodObject) (n : Nat) :
    ∃ made', Creates ((withDeleted p)^[n] c) made' := by
  induction n with
  | zero => exact ⟨made, h⟩
  | succ n ih =>
    obtain ⟨made', hmade⟩ := ih
    rw [Function.iterate_succ_apply']
    exact ⟨_, (hmade.call .enforce _).call .enforce _⟩

/-- One pod after 65535 that are gone again. -/
theorem not_addressable_of_many :
    let pod : PodObject := { ns := some "x", name := some "a" }
    let c := after ((withDeleted pod)^[65535]
      (after {} .enforce (.createNamespace "x" .empty))) .enforce (.createPod pod)
    ∃ made, Creates c made ∧ made.length = 65536 ∧
      (∃ o, c.pods.get? ⟨"x", "a"⟩ = some o ∧ o.ipText? = some "192.168.256.0" ∧
        o.address? = none) ∧
      c.resolveHost "192.168.256.0" = none ∧ ¬ c.Addressable made := by
  intro pod c
  have hmany : c = after { after {} .enforce (.createNamespace "x" .empty) with
      podsCreated := 65535 } .enforce (.createPod pod) :=
    congrArg (after · .enforce (.createPod pod)) (iterate_withDeleted (by decide) (by decide) 65535)
  have htext : addressOf 65536 = "192.168.256.0" := by decide
  have hparse : Address.parse? "192.168.256.0" = none :=
    htext ▸ parse?_addressOf_eq_none (Nat.le_refl _)
  obtain ⟨made, hmade⟩ := (Creates.start.call .enforce
    (.createNamespace "x" .empty)).iterate_withDeleted pod 65535
  have hcreates := hmade.call .enforce (.createPod pod)
  have hlength := hcreates.numbered.length_eq
  have ho : c.pods.get? ⟨"x", "a"⟩ = some (started pod 65536) := by
    rw [hmany]
    decide
  have hip : (started pod 65536).ipText? = some "192.168.256.0" := congrArg some htext
  have hnone : c.resolveHost "192.168.256.0" = none := by
    rw [hmany, resolveHost, hparse]
    decide
  refine ⟨_, hcreates, hlength.trans ?_, ⟨_, ho, hip, ?_⟩, hnone, fun haddressable => ?_⟩
  · change c.podsCreated = 65536
    rw [hmany]
    decide
  · rw [address?_started, htext, hparse]
  · obtain ⟨ip, hsome, hresolved⟩ := haddressable.resolves _ _ ho
    rw [hip] at hsome
    cases hsome
    rw [hnone] at hresolved
    cases hresolved

end PodTraffic.Cluster
