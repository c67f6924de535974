import PodTraffic.Peer
import PodTraffic.Proofs.Address.Text
import PodTraffic.Proofs.Text.Cut
import PodTraffic.Proofs.Text.Integer

/-!
# Addresses and networks are read back

What is printed of an address or a network is read as the same one, in whatever text it stands that
does not go on with another character of addresses. A gap in the groups of an address leaves out
zeros only, so filling it up with zeros restores them.
-/
namespace PodTraffic.Address

/-- Parts put together again are the number that they are parts of, in front of which `acc`
stands. -/
theorem foldl_parts (bits size count acc : Nat) :
    ((List.range count).reverse.map fun i => bits / Nat.pow 2 (size * i) % Nat.pow 2 size).foldl
      (fun n part => n * Nat.pow 2 size + part) acc =
    acc * 2 ^ (size * count) + bits % 2 ^ (size * count) := by
  induction count generalizing acc with
  | zero => simp [Nat.mod_one]
  | succ count ih =>
    rw [List.range_succ, List.reverse_append, List.reverse_singleton, List.singleton_append,
      List.map_cons, List.foldl_cons, ih]
    simp only [Nat.pow_eq]
    rw [Nat.mul_succ, pow_add, Nat.mod_mul]
    ring

theorem ofParts_parts (a : Address) {size : Nat} (h : size ∣ a.family.width) :
    ofParts a.family size (a.parts size) = a := by
  obtain ⟨family, bits, hbits⟩ := a
  rw [ofParts, parts, foldl_parts, Nat.mul_div_cancel' h, Nat.zero_mul, Nat.zero_add]
  simp only [ofNat, Address.mk.injEq, true_and]
  simp only [Nat.pow_eq] at hbits ⊢
  rw [Nat.mod_mod, Nat.mod_eq_of_lt hbits]

theorem length_parts (a : Address) (size : Nat) :
    (a.parts size).length = a.family.width / size := by
  simp [parts]

theorem lt_of_mem_parts {a : Address} {size part : Nat} (h : part ∈ a.parts size) :
    part < 2 ^ size := by
  obtain ⟨i, -, rfl⟩ := List.mem_map.mp h
  exact Nat.mod_lt _ (Nat.two_pow_pos size)

variable {zeros first : Bool} {radix most limit left n : Nat} {cs rest : List Char}
  {groups : List Nat}

@[simp] theorem readChar_cons_self (c : Char) (cs : List Char) :
    readChar c (c :: cs) = some cs := by
  simp [readChar]

theorem readChar_eq_none {c : Char} (h : cs.head? ≠ some c) : readChar c cs = none := by
  simp [readChar, h]

/-- The text ends here, or goes on with what is no part of an address. -/
def Ends (cs : List Char) : Prop := ∀ c, cs.head? = some c → isAddressChar c = false

theorem readNumber_eq_none
    (h : ∀ c, cs.head? = some c → (Text.digitValue? radix c).isSome = false) :
    readNumber radix most limit zeros cs = none := by
  have hnone : cs.takeWhile (fun c => (Text.digitValue? radix c).isSome) = [] := by
    cases cs with
    | nil => rfl
    | cons c cs => simp [h c rfl]
  simp [readNumber, hnone, Text.digits?]

theorem takeWhile_toDigits (hradix : 1 < radix) (h16 : radix ≤ 16) (n : Nat)
    (hrest : ∀ c, rest.head? = some c → (Text.digitValue? radix c).isSome = false) :
    (Nat.toDigits radix n ++ rest).takeWhile (fun c => (Text.digitValue? radix c).isSome) =
      Nat.toDigits radix n := by
  rw [List.takeWhile_append_of_pos (Text.isSome_digitValue?_of_mem_toDigits hradix h16 n)]
  cases rest with
  | nil => simp
  | cons c rest => simp [hrest c rfl]

/-- A numeral is read back when no digit follows it. -/
theorem readNumber_toDigits (hradix : 1 < radix) (h16 : radix ≤ 16) (hmost : 0 < most)
    (hn : n < radix ^ most) (hlimit : n ≤ limit)
    (hrest : ∀ c, rest.head? = some c → (Text.digitValue? radix c).isSome = false) :
    readNumber radix most limit zeros (Nat.toDigits radix n ++ rest) = some (n, rest) := by
  have hdigits := takeWhile_toDigits hradix h16 n hrest
  have hlength : (Nat.toDigits radix n).length ≤ most :=
    (Nat.length_toDigits_le_iff hradix hmost).mpr hn
  have hzero : (!zeros && (Nat.toDigits radix n).length > 1 &&
      (Nat.toDigits radix n).head? == some '0') = false := by
    by_cases h : (Nat.toDigits radix n).head? = some '0'
    · simp [Text.eq_zero_of_head?_toDigits hradix h16 h]
    · simp [h]
  simp [readNumber, hdigits, Text.digits?_toDigits hradix h16, hlength, hlimit, hzero]

/-- A number over the limit is not read. -/
theorem readNumber_toDigits_eq_none (hradix : 1 < radix) (h16 : radix ≤ 16) (hlimit : limit < n)
    (hrest : ∀ c, rest.head? = some c → (Text.digitValue? radix c).isSome = false) :
    readNumber radix most limit zeros (Nat.toDigits radix n ++ rest) = none := by
  have hdigits := takeWhile_toDigits hradix h16 n hrest
  simp [readNumber, hdigits, Text.digits?_toDigits hradix h16, hlimit]

/-- Decimal digits are hexadecimal ones as well. -/
theorem not_decimal {c : Char} (h : (Text.digitValue? 16 c).isSome = false) :
    (Text.digitValue? 10 c).isSome = false := by
  cases hdigit : (Text.digitValue? 10 c).isSome with
  | false => rfl
  | true =>
    rw [isSome_digitValue?_mono (by decide) hdigit] at h
    cases h

theorem isSome_digitValue?_of_dot (cs : List Char) (c : Char) (h : ('.' :: cs).head? = some c) :
    (Text.digitValue? 10 c).isSome = false := by
  cases h
  decide

theorem readOctets_intercalate {octets : List Nat} (hlength : octets.length = 4)
    (hle : ∀ n ∈ octets, n ≤ 255)
    (hrest : ∀ c, rest.head? = some c → (Text.digitValue? 10 c).isSome = false) :
    readOctets zeros (['.'].intercalate (octets.map (Nat.toDigits 10)) ++ rest) =
      some (octets, rest) := by
  have hread : ∀ n ∈ octets, ∀ cs : List Char,
      (∀ c, cs.head? = some c → (Text.digitValue? 10 c).isSome = false) →
      readNumber 10 3 255 zeros (Nat.toDigits 10 n ++ cs) = some (n, cs) := by
    intro n hn cs hcs
    have hlimit : n ≤ 255 := hle n hn
    exact readNumber_toDigits (by decide) (by decide) (by decide) (by omega) hlimit hcs
  have hdot := isSome_digitValue?_of_dot
  match octets with
  | [a, b, c, d] =>
    simp only [List.map_cons, List.map_nil, List.intercalate_cons_cons, List.intercalate_singleton,
      List.append_assoc, List.cons_append, List.nil_append]
    simp only [readOctets, hread a (by simp) _ (hdot _), hread b (by simp) _ (hdot _),
      hread c (by simp) _ (hdot _), hread d (by simp) _ hrest, readChar_cons_self,
      Option.bind_eq_bind, Option.bind_some]

/-- Octets up to one that is too large. -/
theorem readOctets_eq_none_of_large {a b c : Nat} (ha : a ≤ 255) (hb : b ≤ 255) (hc : 255 < c) :
    readOctets zeros (Nat.toDigits 10 a ++ '.' ::
      (Nat.toDigits 10 b ++ '.' :: (Nat.toDigits 10 c ++ '.' :: rest))) = none := by
  have hread : ∀ n ≤ 255, ∀ cs : List Char,
      readNumber 10 3 255 zeros (Nat.toDigits 10 n ++ '.' :: cs) = some (n, '.' :: cs) := by
    intro n hn cs
    exact readNumber_toDigits (by decide) (by decide) (by decide) (by omega) hn
      (isSome_digitValue?_of_dot cs)
  have hlarge : readNumber 10 3 255 zeros (Nat.toDigits 10 c ++ '.' :: rest) = none :=
    readNumber_toDigits_eq_none (by decide) (by decide) hc (isSome_digitValue?_of_dot rest)
  simp only [readOctets, hread a ha, hread b hb, hlarge, readChar_cons_self, Option.bind_eq_bind,
    Option.bind_some, Option.bind_none]

theorem rest_of_readNumber (h : readNumber radix most limit zeros cs = some (n, rest)) :
    rest = cs.dropWhile fun c => (Text.digitValue? radix c).isSome := by
  unfold readNumber at h
  simp only [Option.bind_eq_bind, Option.bind_eq_some_iff] at h
  obtain ⟨value, -, h⟩ := h
  split at h
  · cases h
  · split at h
    · cases h
    · cases h
      exact (congrArg (List.drop _) List.takeWhile_append_dropWhile.symm).trans List.drop_left

/-- Hexadecimal digits that no dot follows are no octets. -/
theorem readOctets_eq_none {digits : List Char}
    (hdigits : ∀ c ∈ digits, (Text.digitValue? 16 c).isSome = true)
    (hrest : ∀ c, rest.head? = some c → c ≠ '.' ∧ (Text.digitValue? 10 c).isSome = false) :
    readOctets zeros (digits ++ rest) = none := by
  have hdot : ((digits ++ rest).dropWhile fun c => (Text.digitValue? 10 c).isSome).head? ≠
      some '.' := by
    induction digits with
    | nil =>
      cases rest with
      | nil => simp
      | cons c rest =>
        obtain ⟨hne, hdigit⟩ := hrest c rfl
        simp [hdigit, hne]
    | cons c digits ih =>
      rw [List.forall_mem_cons] at hdigits
      rw [List.cons_append, List.dropWhile_cons]
      split
      · exact ih hdigits.2
      · rintro h
        cases h
        exact absurd hdigits.1 (by decide)
  cases hread : readNumber 10 3 255 zeros (digits ++ rest) with
  | none => simp [readOctets, hread]
  | some found =>
    obtain ⟨n, more⟩ := found
    rw [← rest_of_readNumber hread] at hdot
    simp [readOctets, hread, readChar_eq_none hdot]

/-- Groups as they are written. -/
def written (groups : List Nat) : List Char := [':'].intercalate (groups.map (Nat.toDigits 16))

theorem written_singleton (g : Nat) : written [g] = Nat.toDigits 16 g := by simp [written]

theorem written_cons_cons (g g' : Nat) (groups : List Nat) :
    written (g :: g' :: groups) = Nat.toDigits 16 g ++ ':' :: written (g' :: groups) := by
  simp [written, List.intercalate_cons_cons]

/-- What follows a group: neither a dot nor a digit. -/
def EndsGroup (cs : List Char) : Prop :=
  ∀ c, cs.head? = some c → c ≠ '.' ∧ (Text.digitValue? 16 c).isSome = false

theorem Ends.endsGroup (h : Ends rest) : EndsGroup rest := by
  intro c hc
  have haddress := h c hc
  simp only [isAddressChar, Bool.or_eq_false_iff, beq_eq_false_iff_ne] at haddress
  exact ⟨haddress.2, haddress.1.1⟩

theorem endsGroup_colon (cs : List Char) : EndsGroup (':' :: cs) := by
  intro c hc
  cases hc
  decide

/-- Reading stops where no digit comes next. -/
theorem readGroups_eq_nil
    (h : ∀ next, (if first then some cs else readChar ':' cs) = some next →
      ∀ c, next.head? = some c → (Text.digitValue? 16 c).isSome = false) :
    readGroups zeros first left cs = ([], false, cs) := by
  cases left with
  | zero => rfl
  | succ left =>
    unfold readGroups
    generalize (if first then some cs else readChar ':' cs) = next at h
    cases next with
    | none => simp
    | some next =>
      have hoctets : readOctets zeros next = none := by
        simp [readOctets, readNumber_eq_none fun c hc => not_decimal (h next rfl c hc)]
      simp [hoctets, readNumber_eq_none (h next rfl)]

/-- A group is read, and then the groups that follow. -/
theorem readGroups_cons {g : Nat} {more : List Char}
    (hnext : (if first then some cs else readChar ':' cs) = some (Nat.toDigits 16 g ++ more))
    (hg : g ≤ 65535) (hmore : EndsGroup more) :
    readGroups zeros first (left + 1) cs =
      (g :: (readGroups zeros false left more).1, (readGroups zeros false left more).2) := by
  have hoctets : readOctets zeros (Nat.toDigits 16 g ++ more) = none :=
    readOctets_eq_none (Text.isSome_digitValue?_of_mem_toDigits (by decide) (by decide) g)
      fun c hc => ⟨(hmore c hc).1, not_decimal (hmore c hc).2⟩
  have hgroup : readNumber 16 4 65535 true (Nat.toDigits 16 g ++ more) = some (g, more) :=
    readNumber_toDigits (by decide) (by decide) (by decide) (by omega) hg
      fun c hc => (hmore c hc).2
  rw [readGroups]
  simp only [hnext, Option.bind_eq_bind, Option.bind_some, hoctets, hgroup, ite_self]

theorem readGroups_written (hne : groups ≠ []) (hle : ∀ g ∈ groups, g ≤ 65535)
    (hlength : groups.length ≤ left)
    (hnext : (if first then some cs else readChar ':' cs) = some (written groups ++ rest))
    (hrest : EndsGroup rest)
    (hstop : readGroups zeros false (left - groups.length) rest = ([], false, rest)) :
    readGroups zeros first left cs = (groups, false, rest) := by
  induction groups generalizing first left cs with
  | nil => exact absurd rfl hne
  | cons g groups ih =>
    obtain ⟨left, rfl⟩ : ∃ l, left = l + 1 := ⟨left - 1, by simp at hlength; omega⟩
    rw [List.forall_mem_cons] at hle
    cases groups with
    | nil =>
      rw [written_singleton] at hnext
      rw [readGroups_cons hnext hle.1 hrest]
      simp only [List.length_singleton, Nat.add_sub_cancel] at hstop
      rw [hstop]
    | cons g' groups =>
      rw [written_cons_cons, List.append_assoc, List.cons_append] at hnext
      rw [readGroups_cons hnext hle.1 (endsGroup_colon _)]
      rw [ih (by simp) hle.2 (by simpa using hlength) (by simp) (by simpa using hstop)]

theorem readGroups_of_ends (hle : ∀ g ∈ groups, g ≤ 65535) (hlength : groups.length ≤ left)
    (hrest : Ends rest) :
    readGroups zeros true left (written groups ++ rest) = (groups, false, rest) := by
  have hcolon : readChar ':' rest = none := by
    refine readChar_eq_none fun h => ?_
    exact absurd (hrest ':' h) (by decide)
  by_cases hne : groups = []
  · subst hne
    refine readGroups_eq_nil fun next hnext c hc => ?_
    cases hnext
    exact (hrest.endsGroup c hc).2
  · refine readGroups_written hne hle hlength rfl hrest.endsGroup (readGroups_eq_nil ?_)
    intro next hnext
    rw [if_neg Bool.false_ne_true, hcolon] at hnext
    cases hnext

/-- The groups before a gap. -/
theorem readGroups_of_gap (hle : ∀ g ∈ groups, g ≤ 65535) (hlength : groups.length ≤ left) :
    readGroups zeros true left (written groups ++ ':' :: ':' :: rest) =
      (groups, false, ':' :: ':' :: rest) := by
  have hcolon : ∀ c cs, (':' :: cs : List Char).head? = some c →
      (Text.digitValue? 16 c).isSome = false := fun c cs hc => (endsGroup_colon cs c hc).2
  by_cases hne : groups = []
  · subst hne
    refine readGroups_eq_nil fun next hnext c hc => ?_
    cases hnext
    exact hcolon c _ hc
  · refine readGroups_written hne hle hlength rfl (endsGroup_colon _) (readGroups_eq_nil ?_)
    intro next hnext c hc
    rw [if_neg Bool.false_ne_true, readChar_cons_self] at hnext
    cases hnext
    exact hcolon c _ hc

/-- Octets stand for the last two groups. -/
theorem readGroups_octets {a b c d : Nat} (hle : ∀ n ∈ [a, b, c, d], n ≤ 255) (hleft : left ≠ 0)
    (hrest : Ends rest) :
    readGroups zeros false (left + 1)
        (':' :: (['.'].intercalate ([a, b, c, d].map (Nat.toDigits 10)) ++ rest)) =
      ([a * 256 + b, c * 256 + d], true, rest) := by
  have hoctets : readOctets zeros (['.'].intercalate ([a, b, c, d].map (Nat.toDigits 10)) ++ rest) =
      some ([a, b, c, d], rest) :=
    readOctets_intercalate rfl hle fun c hc => not_decimal (hrest.endsGroup c hc).2
  rw [readGroups]
  simp only [Bool.false_eq_true, if_false, readChar_cons_self, Option.bind_eq_bind,
    Option.bind_some, hoctets, if_neg hleft]

variable {gap : Nat}

theorem readV6_groups (hle : ∀ g ∈ groups, g ≤ 65535) (hlength : groups.length = 8)
    (hrest : Ends rest) :
    readV6 zeros gap (written groups ++ rest) = some (ofParts .v6 16 groups, rest) := by
  simp [readV6, readGroups_of_ends hle hlength.le hrest, hlength]

theorem readV6_gapped {head tail : List Nat} {hidden : Nat} (hhead : ∀ g ∈ head, g ≤ 65535)
    (htail : ∀ g ∈ tail, g ≤ 65535) (hlength : head.length + hidden + tail.length = 8)
    (hpos : 0 < hidden) (hgap : gap ≤ hidden) (hrest : Ends rest) :
    readV6 zeros gap (written head ++ ':' :: ':' :: (written tail ++ rest)) =
      some (ofParts .v6 16 (head ++ List.replicate hidden 0 ++ tail), rest) := by
  have hnot : head.length ≠ 8 := by omega
  have hhidden : 8 - head.length - tail.length = hidden := by omega
  have hfirst : readGroups zeros true 8 (written head ++ ':' :: ':' :: (written tail ++ rest)) =
      (head, false, ':' :: ':' :: (written tail ++ rest)) := readGroups_of_gap hhead (by omega)
  have hsecond : readGroups zeros true (8 - gap - head.length) (written tail ++ rest) =
      (tail, false, rest) := readGroups_of_ends htail (by omega) hrest
  simp [readV6, hfirst, hsecond, hnot, hhidden]

/-- A gap, the group that marks an address of four, and the octets of that. -/
theorem readV6_mixed {a b c d : Nat} (hle : ∀ n ∈ [a, b, c, d], n ≤ 255) (hgap : gap ≤ 5)
    (hrest : Ends rest) :
    readV6 zeros gap (':' :: ':' :: (Nat.toDigits 16 65535 ++
        ':' :: (['.'].intercalate ([a, b, c, d].map (Nat.toDigits 10)) ++ rest))) =
      some (ofParts .v6 16 [0, 0, 0, 0, 0, 65535, a * 256 + b, c * 256 + d], rest) := by
  generalize htext : ':' :: (['.'].intercalate ([a, b, c, d].map (Nat.toDigits 10)) ++ rest) = text
  have hfirst : readGroups zeros true 8 (':' :: ':' :: (Nat.toDigits 16 65535 ++ text)) =
      ([], false, ':' :: ':' :: (Nat.toDigits 16 65535 ++ text)) :=
    readGroups_of_gap (List.forall_mem_nil _) (Nat.zero_le 8)
  obtain ⟨left, hleft⟩ : ∃ left, 8 - gap = left + 1 + 1 := ⟨6 - gap, by omega⟩
  have hlast : readGroups zeros false (left + 1) text =
      ([a * 256 + b, c * 256 + d], true, rest) :=
    htext ▸ readGroups_octets hle (by omega) hrest
  have hsecond : readGroups zeros true (8 - gap) (Nat.toDigits 16 65535 ++ text) =
      ([65535, a * 256 + b, c * 256 + d], true, rest) := by
    rw [hleft, readGroups_cons rfl (Nat.le_refl _) (htext ▸ endsGroup_colon _), hlast]
  simp [readV6, hfirst, hsecond, List.replicate_succ]

/-- Without a colon there is one group at most, or octets in its place. -/
theorem readV6_eq_none (h : ':' ∉ cs) : readV6 zeros gap cs = none := by
  have hcolon : ∀ ds, Leaves cs ds → readChar ':' ds = none := by
    rintro ds ⟨used, rfl, -⟩
    refine readChar_eq_none fun hhead => h ?_
    exact List.mem_append_right used (List.mem_of_head? hhead)
  have hgroups : (readGroups zeros true 8 cs).1.length ≠ 8 := by
    rw [readGroups]
    simp only [if_true]
    split
    · simp
    · next group rest hread _ =>
      have hrest : readGroups zeros false 7 rest = ([], false, rest) := by
        refine readGroups_eq_nil fun next hnext => ?_
        rw [if_neg Bool.false_ne_true, hcolon rest (leaves_readNumber (by decide) hread)] at hnext
        cases hnext
      simp [hrest]
    · simp
  have hrest := hcolon _ (leaves_readGroups zeros true 8 cs)
  simp [readV6, hgroups, hrest]

theorem toList_octetsText (octets : List Nat) :
    (octetsText octets).toList = ['.'].intercalate (octets.map (Nat.toDigits 10)) := by
  simp [octetsText, String.toList_intercalate, Function.comp_def]

theorem toList_groupsText (groups : List Nat) : (groupsText groups).toList = written groups := by
  simp [groupsText, written, hexText, String.toList_intercalate, Function.comp_def]

/-- The run holds zeros only. -/
def IsGap (groups : List Nat) (run : Nat × Nat) : Prop :=
  groups = groups.take run.1 ++ List.replicate run.2 0 ++ groups.drop (run.1 + run.2)

theorem isGap_zeros (groups : List Nat) (i : Nat) :
    IsGap groups (i, ((groups.drop i).takeWhile (· == 0)).length) := by
  have hzeros : (groups.drop i).takeWhile (· == 0) =
      List.replicate ((groups.drop i).takeWhile (· == 0)).length 0 := by
    refine List.eq_replicate_of_mem fun g hg => ?_
    simpa using List.all_eq_true.mp List.all_takeWhile g hg
  have hsplit : groups.drop i = (groups.drop i).takeWhile (· == 0) ++
      (groups.drop i).drop ((groups.drop i).takeWhile (· == 0)).length := by
    conv_lhs => rw [← List.take_append_drop ((groups.drop i).takeWhile (· == 0)).length
      (groups.drop i)]
    rw [← List.prefix_iff_eq_take.mp (List.takeWhile_prefix _)]
  rw [IsGap, ← hzeros, List.append_assoc, ← List.drop_drop, ← hsplit, List.take_append_drop]

theorem isGap_longestGap (groups : List Nat) : IsGap groups (longestGap groups) := by
  have hfold : ∀ runs : List (Nat × Nat), (∀ run ∈ runs, IsGap groups run) → ∀ best,
      IsGap groups best →
      IsGap groups (runs.foldl (fun best run => if run.2 > best.2 then run else best) best) := by
    intro runs hruns
    induction runs with
    | nil => exact fun best hbest => hbest
    | cons run runs ih =>
      rw [List.forall_mem_cons] at hruns
      intro best hbest
      refine ih hruns.2 _ ?_
      dsimp only
      split
      · exact hruns.1
      · exact hbest
  refine hfold _ (fun run hrun => ?_) _ (by simp [IsGap])
  obtain ⟨i, -, rfl⟩ := List.mem_map.mp hrun
  exact isGap_zeros groups i

theorem readV4_text {a : Address} (h : a.family = .v4) (hrest : Ends rest) :
    readV4 zeros (a.text.toList ++ rest) = some (a, rest) := by
  have hparts : ∀ n ∈ a.parts 8, n ≤ 255 := fun n hn => Nat.le_of_lt_succ (lt_of_mem_parts hn)
  have hlength : (a.parts 8).length = 4 := by rw [length_parts, h]; rfl
  have hread : readOctets zeros (a.text.toList ++ rest) = some (a.parts 8, rest) := by
    simp only [text, h]
    rw [toList_octetsText]
    exact readOctets_intercalate hlength hparts fun c hc => not_decimal (hrest.endsGroup c hc).2
  have hjoin : ofParts .v4 8 (a.parts 8) = a := by
    rw [← h]
    exact ofParts_parts a (by rw [h]; decide)
  simp [readV4, hread, hjoin]

theorem ofParts_mixed {a : Address} (h : a.family = .v6) (hbits : a.bits >>> 32 = 0xFFFF) :
    ∃ b c d e, (a.parts 8).drop 12 = [b, c, d, e] ∧
      ofParts .v6 16 [0, 0, 0, 0, 0, 65535, b * 256 + c, d * 256 + e] = a := by
  obtain ⟨family, bits, hlt⟩ := a
  cases h
  refine ⟨bits / 2 ^ 24 % 2 ^ 8, bits / 2 ^ 16 % 2 ^ 8, bits / 2 ^ 8 % 2 ^ 8, bits % 2 ^ 8,
    by simp [parts, Family.width, List.range_succ], ?_⟩
  simp only [Nat.shiftRight_eq_div_pow] at hbits
  simp only [ofParts, ofNat, List.foldl_cons, List.foldl_nil, Nat.pow_eq, Family.width,
    Address.mk.injEq, true_and]
  simp only [Family.width, Nat.pow_eq] at hlt
  omega

theorem readV6_text {a : Address} {gap : Nat} (h : a.family = .v6) (hgap : gap ≤ 2)
    (hrest : Ends rest) : readV6 zeros gap (a.text.toList ++ rest) = some (a, rest) := by
  have hparts : ∀ g ∈ a.parts 16, g ≤ 65535 := fun n hn => Nat.le_of_lt_succ (lt_of_mem_parts hn)
  have hlength : (a.parts 16).length = 8 := by rw [length_parts, h]; rfl
  have hjoin : ofParts .v6 16 (a.parts 16) = a := by
    rw [← h]
    exact ofParts_parts a (by rw [h]; decide)
  simp only [text, h]
  split
  · next hbits =>
    obtain ⟨b, c, d, e, hoctets, hmixed⟩ := ofParts_mixed h hbits
    have hle : ∀ n ∈ [b, c, d, e], n ≤ 255 := by
      intro n hn
      rw [← hoctets] at hn
      exact Nat.le_of_lt_succ (lt_of_mem_parts (List.mem_of_mem_drop hn))
    have htext : ("::ffff:" ++ octetsText ((a.parts 8).drop 12)).toList ++ rest =
        ':' :: ':' :: (Nat.toDigits 16 65535 ++
          ':' :: (['.'].intercalate ([b, c, d, e].map (Nat.toDigits 10)) ++ rest)) := by
      rw [String.toList_append, toList_octetsText, hoctets]
      rfl
    rw [htext, readV6_mixed hle (by omega) hrest, hmixed]
  · next hbits =>
    have hfill := isGap_longestGap (a.parts 16)
    cases hrun : longestGap (a.parts 16) with
    | mk start length =>
      rw [hrun, IsGap] at hfill
      dsimp only at hfill ⊢
      split
      · next hlong =>
        have htext : (groupsText ((a.parts 16).take start) ++ "::" ++
              groupsText ((a.parts 16).drop (start + length))).toList ++ rest =
            written ((a.parts 16).take start) ++ ':' :: ':' ::
              (written ((a.parts 16).drop (start + length)) ++ rest) := by
          rw [String.toList_append, String.toList_append, toList_groupsText, toList_groupsText]
          simp
        have hsum := congrArg List.length hfill
        rw [hlength, List.length_append, List.length_append, List.length_replicate] at hsum
        rw [htext, readV6_gapped (fun g hg => hparts g (List.mem_of_mem_take hg))
          (fun g hg => hparts g (List.mem_of_mem_drop hg)) hsum.symm (by omega) (by omega) hrest,
          ← hfill, hjoin]
      · next hshort =>
        rw [toList_groupsText, readV6_groups hparts hlength hrest, hjoin]

/-- The text of an address of six begins with digits and a colon. -/
theorem exists_colon_of_text {a : Address} (h : a.family = .v6) :
    ∃ digits more, a.text.toList = digits ++ ':' :: more ∧
      ∀ c ∈ digits, (Text.digitValue? 16 c).isSome = true := by
  have hdigits : ∀ g, ∀ c ∈ Nat.toDigits 16 g, (Text.digitValue? 16 c).isSome = true :=
    Text.isSome_digitValue?_of_mem_toDigits (by decide) (by decide)
  have hlength : (a.parts 16).length = 8 := by rw [length_parts, h]; rfl
  simp only [text, h]
  split
  · exact ⟨[], _, by rw [String.toList_append]; rfl, List.forall_mem_nil _⟩
  · cases longestGap (a.parts 16) with
    | mk start length =>
      dsimp only
      split
      · rw [String.toList_append, String.toList_append, toList_groupsText, toList_groupsText,
          List.append_assoc]
        match (a.parts 16).take start with
        | [] => exact ⟨[], _, rfl, List.forall_mem_nil _⟩
        | [g] =>
          rw [written_singleton]
          exact ⟨Nat.toDigits 16 g, _, rfl, hdigits g⟩
        | g :: g' :: groups =>
          rw [written_cons_cons, List.append_assoc]
          exact ⟨Nat.toDigits 16 g, _, rfl, hdigits g⟩
      · rw [toList_groupsText]
        match a.parts 16, hlength with
        | g :: g' :: groups, _ => exact ⟨Nat.toDigits 16 g, _, written_cons_cons .., hdigits g⟩

theorem readV4_eq_none {a : Address} (h : a.family = .v6) (rest : List Char) :
    readV4 zeros (a.text.toList ++ rest) = none := by
  obtain ⟨digits, more, htext, hdigits⟩ := exists_colon_of_text h
  have hoctets : readOctets zeros (digits ++ ':' :: (more ++ rest)) = none :=
    readOctets_eq_none hdigits fun c hc =>
      ⟨(endsGroup_colon _ c hc).1, not_decimal (endsGroup_colon _ c hc).2⟩
  rw [htext, List.append_assoc, List.cons_append, readV4, hoctets]
  rfl

/-- An address is read back from its text. -/
theorem parse?_text (a : Address) : parse? a.text = some a := by
  have hends : Ends [] := nofun
  cases h : a.family with
  | v4 =>
    have hread : readV4 false (a.text.toList ++ []) = some (a, []) := readV4_text h hends
    rw [List.append_nil] at hread
    simp [parse?, hread]
  | v6 =>
    have hnot : readV4 false (a.text.toList ++ []) = none := readV4_eq_none h []
    have hread : readV6 false 1 (a.text.toList ++ []) = some (a, []) :=
      readV6_text h (by decide) hends
    rw [List.append_nil] at hnot hread
    simp [parse?, hnot, hread]

end PodTraffic.Address

namespace PodTraffic.Network
open PodTraffic.Address

theorem ofAddress_base (n : Network) : ofAddress n.base n.length n.length_le = n := by
  obtain ⟨family, length, bits, hlength, hbits, hclear⟩ := n
  simp only [ofAddress, base, leading, Network.mk.injEq, true_and]
  exact Nat.div_mul_cancel (Nat.dvd_of_mod_eq_zero hclear)

theorem toList_text (n : Network) :
    n.text.toList = n.base.text.toList ++ '/' :: Nat.toDigits 10 n.length := by
  simp [text]

/-- The length is read back where it has as many digits as the longest one. -/
theorem ofRead_length (n : Network) {digits : Nat} (hdigits : 0 < digits)
    (hwidth : n.family.width < 10 ^ digits) :
    ofRead digits n.family.width n.base ('/' :: Nat.toDigits 10 n.length) = some n := by
  have hnumber : readNumber 10 digits n.family.width true (Nat.toDigits 10 n.length ++ []) =
      some (n.length, []) :=
    readNumber_toDigits (by decide) (by decide) hdigits (n.length_le.trans_lt hwidth) n.length_le
      nofun
  rw [List.append_nil] at hnumber
  have hlength : n.length ≤ n.base.family.width := n.length_le
  simp [ofRead, hnumber, hlength, ofAddress_base]

/-- A network is read back from its text. -/
theorem parse?_text (n : Network) : parse? n.text = some n := by
  have hends : Ends ('/' :: Nat.toDigits 10 n.length) := by
    intro c hc
    cases hc
    decide
  rw [parse?, toList_text]
  cases h : n.family with
  | v4 =>
    have hlength := n.ofRead_length (by decide : 0 < 2) (by rw [h]; decide)
    rw [h] at hlength
    rw [readV4_text h hends]
    simp only [Option.bind_eq_bind, Option.bind_some]
    exact congrArg (· <|> _) hlength
  | v6 =>
    have hlength := n.ofRead_length (by decide : 0 < 3) (by rw [h]; decide)
    rw [h] at hlength
    rw [readV4_eq_none h, readV6_text h (Nat.zero_le 2) hends]
    exact hlength

theorem isBlank_text (n : Network) : ∀ c ∈ n.text.toList, Text.isBlank c = false := by
  intro c hc
  rw [toList_text, List.mem_append, List.mem_cons] at hc
  rcases hc with hc | rfl | hc
  · obtain ⟨hlow, hhigh⟩ :=
      bounds_of_isAddressChar (isAddressChar_of_parse? (Address.parse?_text n.base) c hc)
    exact Text.isBlank_of_bounds (by omega) (by omega)
  · decide
  · obtain ⟨hlow, hhigh⟩ := Text.bounds_of_digitValue?
      (Text.isSome_digitValue?_of_mem_toDigits (by decide) (by decide) _ c hc)
    exact Text.isBlank_of_bounds (by omega) (by omega)

theorem readNetwork_text (n : Network) : readNetwork n.text = .ok n := by
  have hparse : parse? (Text.trim n.text) = some n := by
    rw [Text.trim_eq_self n.isBlank_text, parse?_text]
  unfold readNetwork
  rw [hparse]

end PodTraffic.Network
