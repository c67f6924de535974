import PodTraffic.Proofs.Policy.Valid
import PodTraffic.Proofs.Port
import PodTraffic.Proofs.Port.Canonical

/-!
# Which port rules are read, and what is said of the others

A list of port rules is read exactly when each rule is valid, and then it admits what one of its
rules does, whatever their order and repetition. Else the first rule that is not valid decides the
error, which names what is wrong with it: the protocol first, then the port, then the end port.
-/
namespace PodTraffic

/-- What is wrong with a rule. -/
inductive PortRule.Refused (r : PortRule) : PolicyError → Prop
  | protocol {name : String} (hname : r.protocol = some name)
    (hread : Protocol.read? name = none) : Refused r (.protocol name)
  | number {n : Int} (hprotocol : ∃ p, r.NamesProtocol p) (hport : r.port = some (.int n))
    (hn : ¬ (1 ≤ n ∧ n ≤ maxPort)) : Refused r (.port (.number n))
  | emptyName (hprotocol : ∃ p, r.NamesProtocol p) (hport : r.port = some (.text "")) :
    Refused r (.port .emptyName)
  | rangeEnd {n last : Int} (hprotocol : ∃ p, r.NamesProtocol p) (hport : r.port = some (.int n))
    (hn : 1 ≤ n ∧ n ≤ maxPort) (hend : r.endPort = some last)
    (hlast : ¬ (0 ≤ last ∧ last ≤ maxPort)) : Refused r (.port (.rangeEnd last))
  | emptyRange {n last : Nat} (hprotocol : ∃ p, r.NamesProtocol p)
    (hport : r.port = some (.int n)) (hn : 1 ≤ n ∧ n ≤ maxPort)
    (hend : r.endPort = some (last : Int))
    (hlast : last < n) : Refused r (.port (.range n last))
  | rangeWithoutNumber {last : Int} (hprotocol : ∃ p, r.NamesProtocol p)
    (hport : ∀ port, r.port = some port → ∃ s, s ≠ "" ∧ port = .text s)
    (hend : r.endPort = some last) : Refused r (.port (.rangeWithoutNumber last))

namespace PortMatcher

variable {r : PortRule} {e : PolicyError}

theorem ruleProtocol_eq_error_iff : ruleProtocol r = .error e ↔
    ∃ name, r.protocol = some name ∧ Protocol.read? name = none ∧ e = .protocol name := by
  rw [ruleProtocol]
  cases hname : r.protocol with
  | none => simp
  | some name => cases hread : Protocol.read? name <;> simp [hread, eq_comm]

theorem exists_ruleProtocol_iff_namesProtocol :
    (∃ p, ruleProtocol r = .ok p) ↔ ∃ p, r.NamesProtocol p := by
  rw [exists_ruleProtocol_iff]
  unfold PortRule.NamesProtocol
  cases r.protocol <;> simp

theorem value_int_eq_error_iff {n : Int} : PortValue.ofRule (.int n) = .error e ↔
    ¬ (1 ≤ n ∧ n ≤ maxPort) ∧ e = .port (.number n) := by
  rw [PortValue.ofRule, Fallible.ok_if_eq_error_iff]

theorem value_text_eq_error_iff {s : String} : PortValue.ofRule (.text s) = .error e ↔
    s = "" ∧ e = .port .emptyName := by
  rw [PortValue.ofRule, Fallible.error_if_eq_error_iff]
  simp

theorem make_eq_error_iff {first last : Nat} {protocol : Protocol} :
    PortRange.make first last protocol = .error e ↔
      (first = 0 ∨ last < first) ∧ e = .port (.range first last) := by
  rw [PortRange.make, Fallible.error_if_eq_error_iff]
  simp

/-- The port is read before the end port is looked at. -/
theorem ofRule_eq_error_of_port {protocol : Protocol} {port : IntOrText}
    (hprotocol : ruleProtocol r = .ok protocol) (hport : r.port = some port)
    (h : PortValue.ofRule port = .error e) : ofRule r = .error e := by
  have hmap : r.port.mapM PortValue.ofRule = .error e := by
    rw [hport]
    exact Fallible.map_eq_error_iff.mpr h
  rw [ofRule, hprotocol]
  change (r.port.mapM PortValue.ofRule >>= _) = .error e
  rw [hmap]
  rfl

theorem ofRule_of_value {protocol : Protocol} {port : IntOrText} {v : PortValue}
    (hprotocol : ruleProtocol r = .ok protocol) (hport : r.port = some port)
    (h : PortValue.ofRule port = .ok v) : ofRule r =
      match v, r.endPort with
      | v, none => .ok (.inl ⟨v, protocol⟩)
      | .number first, some last =>
        if 0 ≤ last ∧ last ≤ maxPort then
          Sum.inr <$> PortRange.make first last.toNat protocol
        else .error (.port (.rangeEnd last))
      | .name _, some last => .error (.port (.rangeWithoutNumber last)) := by
  have hmap : r.port.mapM PortValue.ofRule = .ok (some v) := by
    rw [hport]
    exact Fallible.map_eq_ok_iff.mpr ⟨v, h, rfl⟩
  rw [ofRule, hprotocol]
  change (r.port.mapM PortValue.ofRule >>= _) = _
  rw [hmap]
  cases r.endPort with
  | none => rfl
  | some last => cases v <;> rfl

theorem ofRule_of_no_port {protocol : Protocol} (hprotocol : ruleProtocol r = .ok protocol)
    (hport : r.port = none) : ofRule r =
      match r.endPort with
      | none => .ok (.inl ⟨none, protocol⟩)
      | some last => .error (.port (.rangeWithoutNumber last)) := by
  rw [ofRule, hprotocol, hport]
  cases r.endPort <;> rfl

theorem ofRule_eq_error_of_refused (h : r.Refused e) : ofRule r = .error e := by
  cases h with
  | protocol hname hread =>
    have hprotocol := ruleProtocol_eq_error_iff.mpr ⟨_, hname, hread, rfl⟩
    rw [ofRule, hprotocol]
    rfl
  | number hprotocol hport hn =>
    obtain ⟨p, hp⟩ := exists_ruleProtocol_iff_namesProtocol.mpr hprotocol
    exact ofRule_eq_error_of_port hp hport (value_int_eq_error_iff.mpr ⟨hn, rfl⟩)
  | emptyName hprotocol hport =>
    obtain ⟨p, hp⟩ := exists_ruleProtocol_iff_namesProtocol.mpr hprotocol
    exact ofRule_eq_error_of_port hp hport (value_text_eq_error_iff.mpr ⟨rfl, rfl⟩)
  | rangeEnd hprotocol hport hn hend hlast =>
    obtain ⟨p, hp⟩ := exists_ruleProtocol_iff_namesProtocol.mpr hprotocol
    rw [ofRule_of_value hp hport (ofRule_int_eq_ok_iff.mpr ⟨hn.1, hn.2, rfl⟩), hend]
    exact if_neg hlast
  | emptyRange hprotocol hport hn hend hlast =>
    obtain ⟨p, hp⟩ := exists_ruleProtocol_iff_namesProtocol.mpr hprotocol
    rw [ofRule_of_value hp hport
      (ofRule_int_eq_ok_iff.mpr ⟨by omega, by omega, rfl⟩), hend]
    refine (if_pos (by omega)).trans (Fallible.map_eq_error_iff.mpr ?_)
    exact make_eq_error_iff.mpr ⟨.inr (by simpa using hlast), by simp⟩
  | rangeWithoutNumber hprotocol hport hend =>
    obtain ⟨p, hp⟩ := exists_ruleProtocol_iff_namesProtocol.mpr hprotocol
    cases h : r.port with
    | none => rw [ofRule_of_no_port hp h, hend]
    | some port =>
      obtain ⟨s, hs, rfl⟩ := hport port h
      rw [ofRule_of_value hp h (ofRule_text_eq_ok_iff.mpr ⟨hs, rfl⟩), hend]

theorem refused_of_port {port : IntOrText} (hprotocol : ∃ p, r.NamesProtocol p)
    (hport : r.port = some port) (h : PortValue.ofRule port = .error e) : r.Refused e := by
  cases port with
  | int n =>
    obtain ⟨hn, rfl⟩ := value_int_eq_error_iff.mp h
    exact .number hprotocol hport hn
  | text s =>
    obtain ⟨rfl, rfl⟩ := value_text_eq_error_iff.mp h
    exact .emptyName hprotocol hport

/-- A range that is refused has an end out of bounds, or one before its beginning. -/
theorem refused_of_range {n last : Int} {protocol : Protocol}
    (hprotocol : ∃ p, r.NamesProtocol p) (hport : r.port = some (.int n))
    (hn : 1 ≤ n ∧ n ≤ maxPort) (hend : r.endPort = some last)
    (h : (if 0 ≤ last ∧ last ≤ maxPort then Sum.inr <$> PortRange.make n.toNat last.toNat protocol
      else .error (.port (.rangeEnd last)) : Except PolicyError (PortEntry ⊕ PortRange)) =
        .error e) : r.Refused e := by
  split at h
  · next hlast =>
    obtain ⟨hempty, rfl⟩ := make_eq_error_iff.mp (Fallible.map_eq_error_iff.mp h)
    have hfirst : r.port = some (.int n.toNat) := by
      rw [hport, Int.toNat_of_nonneg (by omega)]
    have hl : r.endPort = some (last.toNat : Int) := by
      rw [hend, Int.toNat_of_nonneg hlast.1]
    exact .emptyRange hprotocol hfirst (by omega) hl (by omega)
  · next hlast =>
    cases h
    exact .rangeEnd hprotocol hport hn hend hlast

/-- With protocol and port read, only an end port can be wrong. -/
theorem refused_of_value {protocol : Protocol} {port : IntOrText} {v : PortValue}
    (hprotocol : ruleProtocol r = .ok protocol) (hport : r.port = some port)
    (hv : PortValue.ofRule port = .ok v) (h : ofRule r = .error e) : r.Refused e := by
  have hnames := exists_ruleProtocol_iff_namesProtocol.mp ⟨protocol, hprotocol⟩
  rw [ofRule_of_value hprotocol hport hv] at h
  cases hend : r.endPort with
  | none => simp [hend] at h
  | some last =>
    cases port with
    | text s =>
      obtain ⟨hs, rfl⟩ := ofRule_text_eq_ok_iff.mp hv
      simp only [hend, Except.error.injEq] at h
      exact h ▸ .rangeWithoutNumber hnames (by simp [hport, hs]) hend
    | int n =>
      obtain ⟨hfirst, hmax, rfl⟩ := ofRule_int_eq_ok_iff.mp hv
      simp only [hend] at h
      exact refused_of_range hnames hport ⟨hfirst, hmax⟩ hend h

theorem refused_of_ofRule (h : ofRule r = .error e) : r.Refused e := by
  cases hp : ruleProtocol r with
  | error e' =>
    obtain ⟨name, hname, hread, rfl⟩ := ruleProtocol_eq_error_iff.mp hp
    rw [ofRule, hp] at h
    cases h
    exact .protocol hname hread
  | ok protocol =>
    have hnames := exists_ruleProtocol_iff_namesProtocol.mp ⟨protocol, hp⟩
    cases hport : r.port with
    | none =>
      rw [ofRule_of_no_port hp hport] at h
      cases hend : r.endPort with
      | none => simp [hend] at h
      | some last =>
        simp only [hend, Except.error.injEq] at h
        exact h ▸ .rangeWithoutNumber hnames (by simp [hport]) hend
    | some port =>
      cases hv : PortValue.ofRule port with
      | error e' =>
        rw [ofRule_eq_error_of_port hp hport hv, Except.error.injEq] at h
        exact h ▸ refused_of_port hnames hport hv
      | ok v => exact refused_of_value hp hport hv h

theorem ofRule_eq_error_iff : ofRule r = .error e ↔ r.Refused e :=
  ⟨refused_of_ofRule, ofRule_eq_error_of_refused⟩

/-- A rule is refused just when it is not valid. -/
theorem exists_refused_iff : (∃ e, r.Refused e) ↔ ¬ r.Valid := by
  simp only [← exists_ofRule_iff, ← ofRule_eq_error_iff]
  cases ofRule r <;> simp

variable {rules rules' : List PortRule} {m : PortMatcher}

theorem ofRules_eq_error_iff : ofRules rules = .error e ↔
    ∃ before r after, rules = before ++ r :: after ∧ (∀ x ∈ before, x.Valid) ∧ r.Refused e := by
  simp only [← exists_ofRule_iff, ← ofRule_eq_error_iff, ← Fallible.mapM_eq_error_iff]
  cases rules with
  | nil => exact iff_of_false nofun nofun
  | cons rule rest =>
    rw [ofRules_cons, Fallible.map_eq_error_iff]

/-- Neither the order of the rules nor their repetition matters. -/
theorem ofRules_congr (hrules : ∀ r, r ∈ rules' ↔ r ∈ rules) (h : ofRules rules = .ok m) :
    ofRules rules' = .ok m := by
  obtain ⟨m', h'⟩ : ∃ m', ofRules rules' = .ok m' := by
    rw [exists_ofRules_iff]
    exact fun r hr => exists_ofRules_iff.mp ⟨m, h⟩ r ((hrules r).mp hr)
  rw [h', Except.ok.injEq]
  cases rules with
  | nil =>
    obtain rfl : rules' = [] := List.eq_nil_iff_forall_not_mem.mpr fun r hr => by
      simpa using (hrules r).mp hr
    exact Except.ok.inj (h'.symm.trans h)
  | cons rule rest =>
    cases rules' with
    | nil => simpa using (hrules rule).mpr (by simp)
    | cons rule' rest' =>
      rw [ofRules_cons] at h h'
      obtain ⟨parts, hparts, rfl⟩ := Fallible.map_eq_ok_iff.mp h
      obtain ⟨parts', hparts', rfl⟩ := Fallible.map_eq_ok_iff.mp h'
      have hmem : ∀ part, part ∈ parts' ↔ part ∈ parts := by
        intro part
        rw [Fallible.mem_iff_of_mapM hparts', Fallible.mem_iff_of_mapM hparts]
        simp only [hrules]
      exact ofEntries_congr (fun e => by simp [List.mem_filterMap, hmem])
        fun r => by simp [List.mem_filterMap, hmem]

/-- Lists of valid rules are read, and no others. The first rule that is not valid decides the
error. What is read admits what one of the rules does, or everything if there is none, for the
rules in any order and however often each. Protocols are read in any letter case. -/
theorem ofRules_reads_valid (rules : List PortRule) :
    ((∃ m, ofRules rules = .ok m) ↔ ∀ r ∈ rules, r.Valid) ∧
      (∀ e, ofRules rules = .error e ↔ ∃ before r after,
        rules = before ++ r :: after ∧ (∀ x ∈ before, x.Valid) ∧ r.Refused e) ∧
      (∀ r : PortRule, (∃ e, r.Refused e) ↔ ¬ r.Valid) ∧
      (∀ m, ofRules rules = .ok m →
        (∀ q, m.allows q = true ↔ rules = [] ∨ ∃ r ∈ rules, r.Admits q) ∧
        ∀ rules', (∀ r, r ∈ rules' ↔ r ∈ rules) → ofRules rules' = .ok m) ∧
      ∀ p name, Protocol.read? name = some p ↔ p.Spelled name :=
  ⟨exists_ofRules_iff, fun _ => ofRules_eq_error_iff, fun _ => exists_refused_iff,
    fun _ h => ⟨allows_ofRules h, fun _ hrules => ofRules_congr hrules h⟩,
    fun _ _ => Protocol.read?_eq_some_iff⟩

/-- A range up to the last number and a name, once as they are and once turned round and repeated;
behind them, the first of two rules that are not valid. -/
theorem ofRules_reads_valid_two :
    let rules : List PortRule := [⟨some "Udp", some (.int 65535), some 65535⟩,
      ⟨none, some (.text "web"), none⟩]
    let m := specific [⟨some (.name "web"), .tcp⟩] [⟨65535, 65535, .udp⟩]
    (ofRules rules = .ok m ∧ ofRules (rules.reverse ++ rules) = .ok m ∧
      m.allows ⟨65535, none, .udp⟩ = true) ∧
    ofRules (rules ++ [⟨none, some (.int 80), some 79⟩, ⟨some "icmp", none, none⟩]) =
      .error (.port (.range 80 79)) := by
  intro rules m
  have hread : ofRules rules = .ok m := by decide
  obtain ⟨hallows, hany⟩ := (ofRules_reads_valid rules).2.2.2.1 m hread
  have hvalid := (ofRules_reads_valid rules).1.mp ⟨m, hread⟩
  refine ⟨⟨hread, hany _ (by simp), (hallows _).mpr (.inr ⟨_, .head _, ?_⟩)⟩, ?_⟩
  · have hudp : Protocol.read? "Udp" = some .udp := by decide
    exact ⟨hudp, le_refl (65535 : Int), le_refl (65535 : Int)⟩
  · refine ((ofRules_reads_valid _).2.1 _).mpr ⟨rules, _, _, rfl, hvalid, ?_⟩
    exact .emptyRange ⟨.tcp, rfl⟩ rfl (by decide) rfl (by decide)

end PortMatcher
end PodTraffic
