import Mathlib.Tactic
import PodTraffic.Text

/-!
# Numerals are read back
-/
namespace PodTraffic.Text

variable {radix : Nat}

theorem digitValue?_digitChar {d : Nat} (hd : d < radix) (hradix : radix ≤ 16) :
    digitValue? radix d.digitChar = some d := by
  have hvalue : ∀ d < 16, digitValue? 16 d.digitChar = some d := by decide
  have h16 := hvalue d (hd.trans_le hradix)
  rw [digitValue?, Option.filter_eq_some_iff] at h16 ⊢
  exact ⟨h16.1, decide_eq_true hd⟩

/-- Digits lie between the digit zero and the letter z. -/
theorem bounds_of_digitValue? {c : Char} (h : (digitValue? radix c).isSome = true) :
    48 ≤ c.toNat ∧ c.toNat ≤ 122 := by
  have h0 : '0'.val.toNat = 48 := rfl
  have h9 : '9'.val.toNat = 57 := rfl
  have ha : 'a'.val.toNat = 97 := rfl
  have hz : 'z'.val.toNat = 122 := rfl
  have hA : 'A'.val.toNat = 65 := rfl
  have hZ : 'Z'.val.toNat = 90 := rfl
  unfold digitValue? at h
  simp only [Bool.and_eq_true, decide_eq_true_eq, Char.le_def, UInt32.le_iff_toNat_le] at h
  change 48 ≤ c.val.toNat ∧ c.val.toNat ≤ 122
  split at h
  · omega
  · split at h
    · omega
    · split at h
      · omega
      · simp at h

/-- What holds of a digit and goes on to the numeral that the digit is added to holds of every
numeral. -/
theorem toDigits_induction {P : Nat → List Char → Prop} (hradix : 1 < radix)
    (digit : ∀ d < radix, P d [d.digitChar])
    (more : ∀ n cs d, 0 < n → d < radix → P n cs → P (n * radix + d) (cs ++ [d.digitChar]))
    (n : Nat) : P n (Nat.toDigits radix n) := by
  induction n using Nat.strongRecOn with
  | ind n ih =>
    by_cases hn : n < radix
    · rw [Nat.toDigits_of_lt_base hn]
      exact digit n hn
    · have hle : radix ≤ n := Nat.le_of_not_lt hn
      rw [Nat.toDigits_of_base_le hradix hle]
      have hpos : 0 < n / radix := Nat.div_pos hle (by omega)
      have hstep := more _ _ _ hpos (Nat.mod_lt n (by omega))
        (ih (n / radix) (Nat.div_lt_self (by omega) hradix))
      rwa [Nat.div_add_mod'] at hstep

theorem isSome_digitValue?_of_mem_toDigits (hradix : 1 < radix) (h16 : radix ≤ 16) (n : Nat) :
    ∀ c ∈ Nat.toDigits radix n, (digitValue? radix c).isSome = true := by
  refine toDigits_induction (P := fun _ cs => ∀ c ∈ cs, (digitValue? radix c).isSome = true)
    hradix (fun d hd c hc => ?_) (fun _ cs d _ hd ih c hc => ?_) n
  · rw [List.mem_singleton.mp hc, digitValue?_digitChar hd h16]
    rfl
  · rcases List.mem_append.mp hc with hc | hc
    · exact ih c hc
    · rw [List.mem_singleton.mp hc, digitValue?_digitChar hd h16]
      rfl

theorem digits?_toDigits (hradix : 1 < radix) (h16 : radix ≤ 16) (n : Nat) :
    digits? radix (Nat.toDigits radix n) = some n := by
  have hne : (Nat.toDigits radix n).isEmpty = false := by simp
  simp only [digits?, hne, Bool.false_eq_true, if_false]
  refine toDigits_induction (P := fun n cs =>
    cs.foldlM (fun value c => (digitValue? radix c).map (value * radix + ·)) 0 = some n)
    hradix (fun d hd => ?_) (fun n cs d _ hd ih => ?_) n
  · simp [digitValue?_digitChar hd h16]
  · rw [List.foldlM_append, ih]
    simp [digitValue?_digitChar hd h16]

/-- Only zero is written with a zero at the start. -/
theorem eq_zero_of_head?_toDigits (hradix : 1 < radix) (h16 : radix ≤ 16) {n : Nat}
    (h : (Nat.toDigits radix n).head? = some '0') : n = 0 := by
  have hzero : ∀ d < 16, Nat.digitChar d = '0' → d = 0 := by decide
  have hhead : Nat.toDigits radix n ≠ [] ∧ ((Nat.toDigits radix n).head? = some '0' → n = 0) := by
    refine toDigits_induction (P := fun n cs => cs ≠ [] ∧ (cs.head? = some '0' → n = 0)) hradix
      (fun d hd => ⟨nofun, fun h => hzero d (hd.trans_le h16) (Option.some.inj h)⟩)
      (fun n cs d hpos _ ih => ⟨by simp, fun h => ?_⟩) n
    rw [List.head?_append_of_ne_nil _ ih.1] at h
    exact absurd (ih.2 h) hpos.ne'
  exact hhead.2 h

theorem digits?_decimal (n : Nat) : digits? 10 (Nat.toDigits 10 n) = some n :=
  digits?_toDigits (by decide) (by decide) n

theorem toDigits_injective {m n : Nat} (h : Nat.toDigits 10 m = Nat.toDigits 10 n) : m = n := by
  have hread := digits?_decimal m
  rw [h, digits?_decimal] at hread
  exact (Option.some.inj hread).symm

/-- A numeral begins with a digit, not with a sign. -/
theorem exists_toDigits_eq_cons (n : Nat) :
    ∃ c cs, Nat.toDigits 10 n = c :: cs ∧ c ≠ '+' ∧ c ≠ '-' := by
  cases hdigits : Nat.toDigits 10 n with
  | nil => exact absurd hdigits Nat.toDigits_ne_nil
  | cons c cs =>
    have hc : c.isDigit = true :=
      Nat.isDigit_of_mem_toDigits (b := 10) (n := n) (by decide) (by decide) (by simp [hdigits])
    refine ⟨c, cs, rfl, ?_, ?_⟩
    · rintro rfl
      exact absurd hc (by decide)
    · rintro rfl
      exact absurd hc (by decide)

theorem not_mem_of_isDigit {c : Char} {cs : List Char} (hc : c.isDigit = false)
    (h : ∀ d ∈ cs, d.isDigit = true) : c ∉ cs := by
  intro hmem
  rw [h c hmem] at hc
  cases hc

theorem not_mem_toDigits {c : Char} (hc : c.isDigit = false) (n : Nat) :
    c ∉ Nat.toDigits 10 n :=
  not_mem_of_isDigit hc fun _ hd => Nat.isDigit_of_mem_toDigits (by decide) (by decide) hd

theorem unsigned?_toDigits {limit n : Nat} (h : n ≤ limit) :
    unsigned? limit (Nat.toDigits 10 n) = some n := by
  obtain ⟨c, cs, hdigits, hplus, -⟩ := exists_toDigits_eq_cons n
  have hread := digits?_decimal n
  rw [hdigits] at hread
  rw [hdigits]
  unfold unsigned?
  split
  · next heq =>
    obtain ⟨rfl, -⟩ := List.cons.inj heq
    exact absurd rfl hplus
  · rw [hread]
    simpa [Option.filter] using h

theorem signed?_toDigits {low high : Int} {n : Nat} (hlow : low ≤ n) (hhigh : n ≤ high) :
    signed? low high (Nat.toDigits 10 n) = some (n : Int) := by
  obtain ⟨c, cs, hdigits, hplus, hminus⟩ := exists_toDigits_eq_cons n
  have hread := digits?_decimal n
  rw [hdigits] at hread
  unfold signed?
  rw [hdigits]
  dsimp only
  split
  · next heq =>
    obtain ⟨rfl, -⟩ := List.cons.inj heq
    exact absurd rfl hminus
  · next heq =>
    obtain ⟨rfl, -⟩ := List.cons.inj heq
    exact absurd rfl hplus
  · rw [hread]
    simpa [Option.filter] using ⟨hlow, hhigh⟩

/-- Decimal digits and nothing else. -/
def IsDigits (cs : List Char) : Prop := cs ≠ [] ∧ ∀ c ∈ cs, c.isDigit = true

/-- The number that digits write, whatever zeros they begin with. -/
def decimal (cs : List Char) : Nat := Nat.ofDigitChars 10 cs 0

theorem digitValue?_of_isDigit {c : Char} (h : c.isDigit = true) :
    digitValue? 10 c = some (c.toNat - '0'.toNat) := by
  obtain ⟨hlow, hhigh⟩ := Char.isDigit_iff_toNat.mp h
  have hbetween : ('0' ≤ c && c ≤ '9') = true := by
    simpa [Char.le_def, UInt32.le_iff_toNat_le] using ⟨hlow, hhigh⟩
  have h9 : '9'.toNat - '0'.toNat = 9 := rfl
  rw [digitValue?, if_pos hbetween, Option.filter_some, if_pos (decide_eq_true (by omega))]

theorem isDigit_of_digitValue? {c : Char} (h : (digitValue? 10 c).isSome = true) :
    c.isDigit = true := by
  obtain ⟨value, hvalue⟩ := Option.isSome_iff_exists.mp h
  rw [digitValue?, Option.filter_eq_some_iff, decide_eq_true_eq] at hvalue
  obtain ⟨hread, hlt⟩ := hvalue
  split at hread
  · next hbetween =>
    have hbounds : '0'.toNat ≤ c.toNat ∧ c.toNat ≤ '9'.toNat := by
      simpa [Char.le_def, UInt32.le_iff_toNat_le] using hbetween
    exact Char.isDigit_iff_toNat.mpr hbounds
  · -- a letter stands for ten at least
    split at hread
    · cases hread
      omega
    · split at hread
      · cases hread
        omega
      · cases hread

/-- Digits are read on from a number that is read already. -/
theorem foldlM_digits_eq_some_iff {cs : List Char} {start n : Nat} :
    cs.foldlM (fun value c => (digitValue? 10 c).map (value * 10 + ·)) start = some n ↔
      (∀ c ∈ cs, c.isDigit = true) ∧ Nat.ofDigitChars 10 cs start = n := by
  induction cs generalizing start with
  | nil => simp
  | cons c cs ih =>
    rw [List.foldlM_cons, List.forall_mem_cons, Nat.ofDigitChars_cons, Nat.mul_comm 10]
    by_cases hc : c.isDigit = true
    · rw [digitValue?_of_isDigit hc]
      simp [hc, ih]
    · have hnone : digitValue? 10 c = none := by
        rw [← Option.not_isSome_iff_eq_none]
        exact fun h => hc (isDigit_of_digitValue? h)
      simp [hnone, hc]

theorem digits?_eq_some_iff {cs : List Char} {n : Nat} :
    digits? 10 cs = some n ↔ IsDigits cs ∧ decimal cs = n := by
  rw [digits?, IsDigits, decimal, and_assoc, ← foldlM_digits_eq_some_iff]
  cases cs with
  | nil => simp
  | cons c cs => simp only [List.isEmpty_cons, Bool.false_eq_true, if_false, ne_eq, reduceCtorEq,
      not_false_eq_true, true_and]

/-- An unsigned numeral: digits, with a plus sign ahead or not. -/
def IsNumeral (cs : List Char) (n : Nat) : Prop :=
  ∃ digits, (cs = digits ∨ cs = '+' :: digits) ∧ IsDigits digits ∧ decimal digits = n

theorem unsigned?_eq_some_iff {limit n : Nat} {cs : List Char} :
    unsigned? limit cs = some n ↔ IsNumeral cs n ∧ n ≤ limit := by
  unfold unsigned?
  rw [Option.filter_eq_some_iff, decide_eq_true_eq, IsNumeral]
  refine and_congr_left' ?_
  split <;> rw [digits?_eq_some_iff]
  · next rest =>
    constructor
    · exact fun h => ⟨rest, .inr rfl, h⟩
    · rintro ⟨digits, rfl | hsigned, hdigits⟩
      · exact absurd List.mem_cons_self (not_mem_of_isDigit (by decide) hdigits.1.2)
      · cases hsigned
        exact hdigits
  · next hplain =>
    constructor
    · exact fun h => ⟨cs, .inl rfl, h⟩
    · rintro ⟨digits, rfl | rfl, hdigits⟩
      · exact hdigits
      · exact absurd rfl (hplain digits)

/-- Digits alone are the numeral of one number. -/
theorem isNumeral_iff_of_digits {cs : List Char} {n : Nat} (h : ∀ c ∈ cs, c.isDigit = true) :
    IsNumeral cs n ↔ cs ≠ [] ∧ decimal cs = n := by
  constructor
  · rintro ⟨digits, rfl | rfl, hdigits, hn⟩
    · exact ⟨hdigits.1, hn⟩
    · exact absurd List.mem_cons_self (not_mem_of_isDigit (by decide) h)
  · exact fun hcs => ⟨cs, .inl rfl, ⟨hcs.1, h⟩, hcs.2⟩

end PodTraffic.Text
