import Mathlib.Tactic
import PodTraffic.Address
import PodTraffic.Proofs.Text.Integer

/-!
# The characters of addresses

Whatever a reader takes from a text is digits, colons and dots, so an address is spelled with these
alone, and other texts are no addresses.
-/
namespace PodTraffic.Address

def isAddressChar (c : Char) : Bool :=
  (Text.digitValue? 16 c).isSome || c == ':' || c == '.'

theorem bounds_of_isAddressChar {c : Char} (h : isAddressChar c = true) :
    46 ≤ c.toNat ∧ c.toNat ≤ 122 := by
  simp only [isAddressChar, Bool.or_eq_true, beq_iff_eq] at h
  rcases h with (h | rfl) | rfl
  · have hbounds := Text.bounds_of_digitValue? h
    omega
  · decide
  · decide

/-- A reader that took address characters and left `rest`. -/
def Leaves (cs rest : List Char) : Prop :=
  ∃ used, cs = used ++ rest ∧ ∀ c ∈ used, isAddressChar c = true

theorem Leaves.refl (cs : List Char) : Leaves cs cs := ⟨[], rfl, by simp⟩

theorem Leaves.trans {cs ds es : List Char} (h : Leaves cs ds) (h' : Leaves ds es) :
    Leaves cs es := by
  obtain ⟨used, rfl, hused⟩ := h
  obtain ⟨used', rfl, hused'⟩ := h'
  refine ⟨used ++ used', by rw [List.append_assoc], fun c hc => ?_⟩
  rcases List.mem_append.mp hc with hc | hc
  · exact hused c hc
  · exact hused' c hc

theorem Leaves.mem_of_nil {cs : List Char} (h : Leaves cs []) :
    ∀ c ∈ cs, isAddressChar c = true := by
  obtain ⟨used, rfl, hused⟩ := h
  simpa using hused

theorem isSome_digitValue?_mono {radix : Nat} (h : radix ≤ 16) {c : Char}
    (hc : (Text.digitValue? radix c).isSome = true) : (Text.digitValue? 16 c).isSome = true := by
  unfold Text.digitValue? at hc ⊢
  rw [Option.isSome_iff_exists] at hc ⊢
  obtain ⟨n, hn⟩ := hc
  rw [Option.filter_eq_some_iff] at hn
  refine ⟨n, Option.filter_eq_some_iff.mpr ⟨hn.1, ?_⟩⟩
  have hlt : n < radix := by simpa using hn.2
  simpa using Nat.lt_of_lt_of_le hlt h

theorem leaves_readNumber {radix most limit n : Nat} {zeros : Bool} {cs rest : List Char}
    (hradix : radix ≤ 16) (h : readNumber radix most limit zeros cs = some (n, rest)) :
    Leaves cs rest := by
  unfold readNumber at h
  simp only [Option.bind_eq_bind, Option.bind_eq_some_iff] at h
  obtain ⟨value, -, h⟩ := h
  split at h
  · cases h
  · split at h
    · cases h
    · cases h
      refine ⟨cs.takeWhile fun c => (Text.digitValue? radix c).isSome, ?_, fun c hc => ?_⟩
      · conv_lhs => rw [← List.take_append_drop
          (cs.takeWhile fun c => (Text.digitValue? radix c).isSome).length cs]
        rw [← List.prefix_iff_eq_take.mp (List.takeWhile_prefix _)]
      · have hdigit : (Text.digitValue? radix c).isSome = true :=
          List.all_eq_true.mp List.all_takeWhile c hc
        simp [isAddressChar, isSome_digitValue?_mono hradix hdigit]

theorem leaves_readChar {c : Char} {cs rest : List Char} (hc : isAddressChar c = true)
    (h : readChar c cs = some rest) : Leaves cs rest := by
  unfold readChar at h
  split at h
  · next hhead =>
    cases h
    cases cs with
    | nil => simp at hhead
    | cons d cs =>
      obtain rfl : d = c := by simpa using hhead
      exact ⟨[d], rfl, by simpa using hc⟩
  · cases h

theorem leaves_readOctets {zeros : Bool} {octets : List Nat} {cs rest : List Char}
    (h : readOctets zeros cs = some (octets, rest)) : Leaves cs rest := by
  have hdot : isAddressChar '.' = true := by decide
  unfold readOctets at h
  simp only [Option.bind_eq_bind, Option.bind_eq_some_iff] at h
  obtain ⟨⟨a, as⟩, ha, as', hdot₁, ⟨b, bs⟩, hb, bs', hdot₂, ⟨c, cs'⟩, hc, cs'', hdot₃, ⟨d, ds⟩, hd,
    h⟩ := h
  cases h
  have hfirst := (leaves_readNumber (by decide) ha).trans (leaves_readChar hdot hdot₁)
  have hsecond := (leaves_readNumber (by decide) hb).trans (leaves_readChar hdot hdot₂)
  have hthird := (leaves_readNumber (by decide) hc).trans (leaves_readChar hdot hdot₃)
  have hfourth := leaves_readNumber (by decide) hd
  exact hfirst.trans (hsecond.trans (hthird.trans hfourth))

theorem leaves_readGroups (zeros first : Bool) (left : Nat) (cs : List Char) :
    Leaves cs (readGroups zeros first left cs).2.2 := by
  induction left generalizing first cs with
  | zero => exact .refl cs
  | succ left ih =>
    have hnext : ∀ next, (if first then some cs else readChar ':' cs) = some next →
        Leaves cs next := by
      intro next h
      cases first with
      | true =>
        cases h
        exact .refl cs
      | false => exact leaves_readChar (by decide) h
    unfold readGroups
    simp only []
    split
    · next _ _ a b c d rest hoctets =>
      split at hoctets
      · cases hoctets
      · obtain ⟨next, hn, hread⟩ := Option.bind_eq_some_iff.mp hoctets
        exact (hnext next hn).trans (leaves_readOctets hread)
    · next _ _ group rest hgroup _ =>
      obtain ⟨next, hn, hread⟩ := Option.bind_eq_some_iff.mp hgroup
      exact ((hnext next hn).trans (leaves_readNumber (by decide) hread)).trans (ih false rest)
    · exact .refl cs

theorem leaves_readV6 {zeros : Bool} {gap : Nat} {a : Address} {cs rest : List Char}
    (h : readV6 zeros gap cs = some (a, rest)) : Leaves cs rest := by
  have hcolon : isAddressChar ':' = true := by decide
  have hhead := leaves_readGroups zeros true 8 cs
  unfold readV6 at h
  simp only [] at h
  split at h
  · cases h
    exact hhead
  · split at h
    · cases h
    · simp only [Option.bind_eq_bind, Option.bind_eq_some_iff] at h
      obtain ⟨once, honce, gapped, htwice, h⟩ := h
      cases h
      have hgap := (leaves_readChar hcolon honce).trans (leaves_readChar hcolon htwice)
      exact (hhead.trans hgap).trans (leaves_readGroups zeros true _ gapped)

theorem leaves_readV4 {zeros : Bool} {a : Address} {cs rest : List Char}
    (h : readV4 zeros cs = some (a, rest)) : Leaves cs rest := by
  unfold readV4 at h
  simp only [Option.bind_eq_bind, Option.bind_eq_some_iff] at h
  obtain ⟨⟨octets, rest'⟩, hoctets, h⟩ := h
  cases h
  exact leaves_readOctets hoctets

/-- An address is spelled with digits, colons and dots. -/
theorem isAddressChar_of_parse? {text : String} {a : Address} (h : parse? text = some a) :
    ∀ c ∈ text.toList, isAddressChar c = true := by
  have hleaves : Leaves text.toList [] := by
    unfold parse? at h
    split at h
    · next b rest hread =>
      split at h
      · next hrest =>
        rw [List.isEmpty_iff.mp hrest] at hread
        exact leaves_readV4 hread
      · cases h
    · obtain ⟨⟨b, rest⟩, hread, h⟩ := Option.bind_eq_some_iff.mp h
      simp only [] at h
      split at h
      · next hrest =>
        rw [List.isEmpty_iff.mp hrest] at hread
        exact leaves_readV6 hread
      · cases h
  exact hleaves.mem_of_nil

theorem parse?_eq_none {text : String} {c : Char} (hc : c ∈ text.toList)
    (h : isAddressChar c = false) : parse? text = none := by
  cases hparse : parse? text with
  | none => rfl
  | some a =>
    rw [isAddressChar_of_parse? hparse c hc] at h
    cases h

end PodTraffic.Address
