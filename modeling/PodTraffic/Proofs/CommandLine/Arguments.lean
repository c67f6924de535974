import PodTraffic.CommandLine.Arguments
import PodTraffic.Job
import PodTraffic.Proofs.Port
import PodTraffic.Proofs.Text.Cut
import PodTraffic.Proofs.Text.Integer

/-!
# Ports asked for on the command line

A text asks for a port if a port and a protocol stand around its first slash. What is written as a
number that a packet can carry is that number, zero is refused, and whatever else stands there is a
name, so that a number which is too large becomes a name as well.
-/
namespace PodTraffic

/-- How a port is written as an argument. -/
def PortValue.Written (cs : List Char) : PortValue → Prop
  | .number n => Text.IsNumeral cs n ∧ 1 ≤ n ∧ n ≤ maxPort
  | .name s => s.toList = cs ∧ cs ≠ [] ∧ ∀ n, Text.IsNumeral cs n → maxPort < n

namespace CommandLine

variable {s : String} {port protocol : List Char} {config : ProbeConfig}

/-- The port, the protocol and the texts of both, which the first slash keeps apart. -/
structure AsksFor (s : String) (port protocol : List Char) (v : PortValue) (p : Protocol) :
    Prop where
  split : s.toList = port ++ '/' :: protocol
  first : '/' ∉ port
  port : v.Written port
  protocol : p.Spelled (String.ofList protocol)

theorem written_number_iff {n : Nat} :
    (PortValue.number n).Written port ↔ Text.unsigned? maxPort port = some n ∧ n ≠ 0 := by
  rw [Text.unsigned?_eq_some_iff, PortValue.Written, ← Nat.one_le_iff_ne_zero]
  tauto

theorem written_name_iff {name : String} :
    (PortValue.name name).Written port ↔
      Text.unsigned? maxPort port = none ∧ port ≠ [] ∧ String.ofList port = name := by
  have hnone : Text.unsigned? maxPort port = none ↔ ∀ n, Text.IsNumeral port n → maxPort < n := by
    simp only [Option.eq_none_iff_forall_not_mem, Option.mem_def, Text.unsigned?_eq_some_iff,
      not_and, Nat.not_le]
  rw [hnone, PortValue.Written, ← String.toList_inj, String.toList_ofList]
  tauto

/-- A text is accepted for what it asks for, and for nothing else. -/
theorem portProtocol?_eq_some_iff :
    portProtocol? s = some config ↔
      ∃ port protocol v p, AsksFor s port protocol v p ∧ config = .port v p := by
  constructor
  · intro h
    simp only [portProtocol?, Option.bind_eq_bind, Option.bind_eq_some_iff] at h
    obtain ⟨⟨port, protocol⟩, hcut, p, hp, h⟩ := h
    obtain ⟨hsplit, hfirst⟩ := Text.cutAt?_singleton_eq_some_iff.mp hcut
    have hspelled := Protocol.read?_eq_some_iff.mp hp
    split at h
    · cases h
    · next n hnonzero hread =>
      cases h
      have hwritten := written_number_iff.mpr ⟨hread, hnonzero⟩
      exact ⟨port, protocol, _, p, ⟨hsplit, hfirst, hwritten, hspelled⟩, rfl⟩
    · next hread =>
      split at h
      · cases h
      · next hne =>
        cases h
        have hwritten := written_name_iff.mpr ⟨hread, by simpa using hne, rfl⟩
        exact ⟨port, protocol, _, p, ⟨hsplit, hfirst, hwritten, hspelled⟩, rfl⟩
  · rintro ⟨port, protocol, v, p, ⟨hsplit, hfirst, hwritten, hspelled⟩, rfl⟩
    have hcut : Text.cutAt? ['/'] s.toList = some (port, protocol) :=
      Text.cutAt?_singleton_eq_some_iff.mpr ⟨hsplit, hfirst⟩
    have hp := Protocol.read?_eq_some_iff.mpr hspelled
    cases v with
    | number n =>
      obtain ⟨hread, hnonzero⟩ := written_number_iff.mp hwritten
      simp [portProtocol?, hcut, hp, hread]
    | name name =>
      obtain ⟨hread, hne, rfl⟩ := written_name_iff.mp hwritten
      simp [portProtocol?, hcut, hp, hread, hne]

/-- The port of the text is the number that its digits write, or the text is refused. -/
def TakesForNumber (s : String) (port : List Char) : Prop :=
  ∀ config, portProtocol? s = some config →
    ∃ p, config = .port (.number (Text.decimal port)) p ∧ 1 ≤ Text.decimal port ∧
      Text.decimal port ≤ maxPort

/-- Digits are the number that they write, or a name if that is too large. -/
theorem written_iff_of_digits (h : ∀ c ∈ port, c.isDigit = true) {v : PortValue} :
    v.Written port ↔ port ≠ [] ∧
      (v = .number (Text.decimal port) ∧ 1 ≤ Text.decimal port ∧ Text.decimal port ≤ maxPort ∨
        v = .name (String.ofList port) ∧ maxPort < Text.decimal port) := by
  cases v with
  | number n =>
    simp only [PortValue.Written, Text.isNumeral_iff_of_digits h, PortValue.number.injEq,
      reduceCtorEq, false_and, or_false]
    constructor
    · rintro ⟨⟨hne, rfl⟩, hbounds⟩
      exact ⟨hne, rfl, hbounds⟩
    · rintro ⟨hne, rfl, hbounds⟩
      exact ⟨⟨hne, rfl⟩, hbounds⟩
  | name name =>
    simp only [PortValue.Written, Text.isNumeral_iff_of_digits h, PortValue.name.injEq,
      reduceCtorEq, false_and, false_or, ← String.toList_inj, String.toList_ofList]
    constructor
    · rintro ⟨hname, hne, hlarge⟩
      exact ⟨hne, hname, hlarge _ ⟨hne, rfl⟩⟩
    · rintro ⟨hne, hname, hlarge⟩
      exact ⟨hname, hne, fun n hn => hn.2 ▸ hlarge⟩

theorem takesForNumber_iff (hsplit : s.toList = port ++ '/' :: protocol)
    (hdigits : ∀ c ∈ port, c.isDigit = true) :
    TakesForNumber s port ↔
      Text.decimal port ≤ maxPort ∨ ∀ p : Protocol, ¬ p.Spelled (String.ofList protocol) := by
  have hfirst : '/' ∉ port := Text.not_mem_of_isDigit (by decide) hdigits
  constructor
  · intro h
    by_contra hlarge
    simp only [not_or, not_forall, not_not, Nat.not_le] at hlarge
    obtain ⟨hlarge, p, hp⟩ := hlarge
    have hne : port ≠ [] := by
      rintro rfl
      cases hlarge
    have hwritten : (PortValue.name (String.ofList port)).Written port :=
      (written_iff_of_digits hdigits).mpr ⟨hne, .inr ⟨rfl, hlarge⟩⟩
    have hasks := portProtocol?_eq_some_iff.mpr
      ⟨port, protocol, _, p, ⟨hsplit, hfirst, hwritten, hp⟩, rfl⟩
    obtain ⟨_, -, -, hsmall⟩ := h _ hasks
    omega
  · intro h config hconfig
    obtain ⟨port', protocol', v, p, hasks, rfl⟩ := portProtocol?_eq_some_iff.mp hconfig
    obtain ⟨rfl, hrest⟩ := Text.eq_of_append_mark hfirst hasks.first (hsplit.symm.trans hasks.split)
    obtain rfl : protocol = protocol' := hrest
    obtain ⟨-, ⟨rfl, hbounds⟩ | ⟨-, hlarge⟩⟩ := (written_iff_of_digits hdigits).mp hasks.port
    · exact ⟨p, rfl, hbounds⟩
    · rcases h with hsmall | hnone
      · omega
      · exact absurd hasks.protocol (hnone p)

/-- A text is accepted exactly if a port and a protocol in any letter case stand around its first
slash. Where the port is digits, it is either the number that they write, between 1 and 65535, or
refused, exactly if the number is not too large or the protocol is none. -/
theorem reads_ports (s : String) :
    (∀ config, portProtocol? s = some config ↔
      ∃ port protocol v p, AsksFor s port protocol v p ∧ config = .port v p) ∧
    ∀ port protocol, s.toList = port ++ '/' :: protocol → (∀ c ∈ port, c.isDigit = true) →
      (TakesForNumber s port ↔
        Text.decimal port ≤ maxPort ∨ ∀ p : Protocol, ¬ p.Spelled (String.ofList protocol)) :=
  ⟨fun _ => portProtocol?_eq_some_iff, fun _ _ hsplit hdigits => takesForNumber_iff hsplit hdigits⟩

/-- The largest port, with a zero ahead. -/
theorem reads_ports_largest :
    let port := "065535".toList
    "065535/Tcp".toList = port ++ '/' :: "Tcp".toList ∧ port.all Char.isDigit = true ∧
      TakesForNumber "065535/Tcp" port ∧
      portProtocol? "065535/Tcp" = some (.port (.number 65535) .tcp) := by
  intro port
  have hsplit : "065535/Tcp".toList = port ++ '/' :: "Tcp".toList := by decide
  have hdigits : port.all Char.isDigit = true := by decide
  have hsmall : Text.decimal port ≤ maxPort := by decide
  exact ⟨hsplit, hdigits, ((reads_ports "065535/Tcp").2 port _ hsplit
    (List.all_eq_true.mp hdigits)).mpr (.inl hsmall), by decide⟩

/-- The next number is taken for a name, and as no container has that name there is no check to
run. -/
theorem name_of_too_large_number :
    let p : Pod := {
      ns := "x", name := "a", labels := podLabels "a", containers := [.serving 80 .tcp] }
    let r : Resources := {
      namespaces := .ofList [("x", defaultNamespaceLabels "x")], pods := [p] }
    portProtocol? "65536/TCP" = some (.port (.name "65536") .tcp) ∧
      ¬ TakesForNumber "65536/TCP" "65536".toList ∧
      (r.jobs (.port (.name "65536") .tcp)).valid = [] ∧
      (r.jobs (.port (.name "65536") .tcp)).badNamedPort.length = 1 := by
  intro p r
  have hname : portProtocol? "65536/TCP" = some (.port (.name "65536") .tcp) := by decide
  refine ⟨hname, fun h => ?_, by decide, by decide⟩
  obtain ⟨_, hnumber, -⟩ := h _ hname
  cases hnumber

end CommandLine
end PodTraffic
