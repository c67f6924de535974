import Mathlib.Tactic
import PodTraffic.Text

/-!
# Taking a text apart

A text joined from pieces has only one reading when the mark between two pieces does not occur in
the one that ends, or starts, there. Cuts find what was joined.
-/
namespace PodTraffic.Text

variable {α : Type}

/-- The first mark ends the first piece. -/
theorem eq_of_append_mark {mark : α} {xs ys xs' ys' : List α} (hx : mark ∉ xs) (hy : mark ∉ ys)
    (h : xs ++ mark :: xs' = ys ++ mark :: ys') : xs = ys ∧ xs' = ys' := by
  induction xs generalizing ys with
  | nil =>
    cases ys with
    | nil => simpa using h
    | cons y ys =>
      obtain ⟨rfl, -⟩ := List.cons.inj h
      simp at hy
  | cons x xs ih =>
    cases ys with
    | nil =>
      obtain ⟨rfl, -⟩ := List.cons.inj h
      simp at hx
    | cons y ys =>
      obtain ⟨rfl, hrest⟩ := List.cons.inj h
      simp only [List.mem_cons, not_or] at hx hy
      obtain ⟨rfl, rfl⟩ := ih hx.2 hy.2 hrest
      exact ⟨rfl, rfl⟩

/-- The last mark starts the last piece. -/
theorem eq_of_mark_append {mark : α} {xs ys xs' ys' : List α} (hx : mark ∉ xs') (hy : mark ∉ ys')
    (h : xs ++ mark :: xs' = ys ++ mark :: ys') : xs = ys ∧ xs' = ys' := by
  have hrev : xs'.reverse ++ mark :: xs.reverse = ys'.reverse ++ mark :: ys.reverse := by
    simpa using congrArg List.reverse h
  obtain ⟨hlast, hfirst⟩ :=
    eq_of_append_mark (by simpa using hx) (by simpa using hy) hrev
  exact ⟨List.reverse_injective hfirst, List.reverse_injective hlast⟩

/-- Nonempty lists of pieces without the mark are read back from their join. -/
theorem eq_of_intercalate_eq [DecidableEq α] {mark : α} {xs ys : List (List α)}
    (hx : ∀ x ∈ xs, mark ∉ x) (hy : ∀ y ∈ ys, mark ∉ y) (nx : xs ≠ []) (ny : ys ≠ [])
    (h : [mark].intercalate xs = [mark].intercalate ys) : xs = ys := by
  rw [← List.splitOn_intercalate mark hx nx, h, List.splitOn_intercalate mark hy ny]

/-- So they are when more is written between two of them than the mark. -/
theorem eq_of_intercalate_cons_eq {mark : α} {sep : List α} {xs ys : List (List α)}
    (hx : ∀ x ∈ xs, mark ∉ x) (hy : ∀ y ∈ ys, mark ∉ y) (nx : xs ≠ []) (ny : ys ≠ [])
    (h : (mark :: sep).intercalate xs = (mark :: sep).intercalate ys) : xs = ys := by
  induction xs generalizing ys with
  | nil => exact absurd rfl nx
  | cons x xs ih =>
    obtain ⟨y, ys, rfl⟩ := List.exists_cons_of_ne_nil ny
    rw [List.forall_mem_cons] at hx hy
    cases xs with
    | nil =>
      cases ys with
      | nil => simpa using h
      | cons y' ys =>
        rw [List.intercalate_singleton, List.intercalate_cons_cons] at h
        exact absurd (by simp [h]) hx.1
    | cons x' xs =>
      cases ys with
      | nil =>
        rw [List.intercalate_singleton, List.intercalate_cons_cons] at h
        exact absurd (by simp [← h]) hy.1
      | cons y' ys =>
        rw [List.intercalate_cons_cons, List.intercalate_cons_cons, List.append_assoc,
          List.append_assoc, List.cons_append, List.cons_append] at h
        obtain ⟨rfl, hrest⟩ := eq_of_append_mark hx.1 hy.1 h
        rw [ih hx.2 hy.2 (by simp) (by simp) (List.append_cancel_left hrest)]

theorem mem_of_mem_intercalate {a : α} {sep : List α} {xs : List (List α)}
    (h : a ∈ sep.intercalate xs) : (∃ x ∈ xs, a ∈ x) ∨ a ∈ sep := by
  match xs with
  | [] => simp at h
  | [x] => exact .inl ⟨x, by simp, by simpa using h⟩
  | x :: y :: rest =>
    rw [List.intercalate_cons_cons, List.mem_append, List.mem_append] at h
    rcases h with (h | h) | h
    · exact .inl ⟨x, by simp, h⟩
    · exact .inr h
    · rcases mem_of_mem_intercalate h with ⟨z, hz, ha⟩ | ha
      · exact .inl ⟨z, List.mem_cons_of_mem _ hz, ha⟩
      · exact .inr ha

theorem intercalate_ne_nil {sep : List α} {xs : List (List α)} (hne : xs ≠ [])
    (h : ∀ x ∈ xs, x ≠ []) : sep.intercalate xs ≠ [] := by
  match xs with
  | [] => exact absurd rfl hne
  | [x] => simpa using h x (by simp)
  | x :: y :: rest =>
    rw [List.intercalate_cons_cons]
    have := h x (by simp)
    simp [this]

/-- Lists of nonempty pieces without the mark are read back from their join. -/
theorem eq_of_intercalate_eq_of_ne [DecidableEq α] {mark : α} {xs ys : List (List α)}
    (hx : ∀ x ∈ xs, mark ∉ x ∧ x ≠ []) (hy : ∀ y ∈ ys, mark ∉ y ∧ y ≠ [])
    (h : [mark].intercalate xs = [mark].intercalate ys) : xs = ys := by
  by_cases nx : xs = []
  · by_contra hne
    have hys : ys ≠ [] := fun hys => hne (nx.trans hys.symm)
    exact intercalate_ne_nil hys (fun y hmem => (hy y hmem).2) (by simpa [nx] using h.symm)
  · by_cases ny : ys = []
    · exact absurd (by simpa [ny] using h) (intercalate_ne_nil nx fun x hmem => (hx x hmem).2)
    · exact eq_of_intercalate_eq (fun x hmem => (hx x hmem).1) (fun y hmem => (hy y hmem).1) nx ny h

/-- A function that tells the members of two lists apart tells the lists apart. -/
theorem eq_of_map_eq_map {β : Type} {f : α → β} {xs ys : List α}
    (hf : ∀ x ∈ xs, ∀ y ∈ ys, f x = f y → x = y) (h : xs.map f = ys.map f) : xs = ys := by
  induction xs generalizing ys with
  | nil => simpa using h.symm
  | cons x xs ih =>
    cases ys with
    | nil => simp at h
    | cons y ys =>
      rw [List.map_cons, List.map_cons] at h
      obtain ⟨hhead, htail⟩ := List.cons.inj h
      rw [hf x (by simp) y (by simp) hhead]
      rw [ih (fun a ha b hb => hf a (by simp [ha]) b (by simp [hb])) htail]

@[simp] theorem after?_append (start cs : List Char) : after? start (start ++ cs) = some cs := by
  induction start with
  | nil => rfl
  | cons c start ih => simpa [after?] using ih

theorem eq_append_of_after? {start cs rest : List Char} (h : after? start cs = some rest) :
    cs = start ++ rest := by
  induction start generalizing cs with
  | nil =>
    cases h
    rfl
  | cons a start ih =>
    cases cs with
    | nil => cases h
    | cons c cs =>
      rw [after?] at h
      split at h
      · next hc => rw [eq_of_beq hc, ih h, List.cons_append]
      · cases h

theorem after?_eq_none {a : Char} {start cs : List Char} (h : cs.head? ≠ some a) :
    after? (a :: start) cs = none := by
  cases cs with
  | nil => rfl
  | cons c cs =>
    have hne : a ≠ c := fun heq => h (by rw [heq, List.head?_cons])
    simp [after?, hne]

/-- One more character at the end, which the pattern does not have. -/
theorem after?_concat {c : Char} {start : List Char} (h : c ∉ start) (cs : List Char) :
    after? start (cs ++ [c]) = (after? start cs).map (· ++ [c]) := by
  induction start generalizing cs with
  | nil => rfl
  | cons a start ih =>
    rw [List.mem_cons, not_or] at h
    cases cs with
    | nil => simp [after?, Ne.symm h.1]
    | cons d cs =>
      rw [List.cons_append, after?, after?, ih h.2 cs]
      split <;> rfl

theorem cutAt?_pattern_append (pattern cs : List Char) :
    cutAt? pattern (pattern ++ cs) = some ([], cs) := by
  cases hcs : pattern ++ cs with
  | nil =>
    obtain ⟨rfl, rfl⟩ := List.append_eq_nil_iff.mp hcs
    rfl
  | cons c rest =>
    have hafter := after?_append pattern cs
    rw [hcs] at hafter
    rw [cutAt?, hafter]

/-- A cut is not found among characters that cannot begin it. -/
theorem cutAt?_append_of_not_mem {a : Char} {pattern before cs : List Char} (h : a ∉ before) :
    cutAt? (a :: pattern) (before ++ cs) =
      (cutAt? (a :: pattern) cs).map fun r => (before ++ r.1, r.2) := by
  induction before with
  | nil => simp
  | cons c before ih =>
    rw [List.mem_cons, not_or] at h
    have hafter : after? (a :: pattern) (c :: (before ++ cs)) = none :=
      after?_eq_none (by simpa using fun heq => h.1 heq.symm)
    rw [List.cons_append, cutAt?, hafter, ih h.2]
    cases cutAt? (a :: pattern) cs <;> rfl

/-- Among pieces joined by its first character, a pattern is not found as long as no piece begins
with its second one. -/
theorem cutAt?_intercalate {a b : Char} {pattern rest : List Char} {pieces : List (List Char)}
    (h : ∀ piece ∈ pieces, a ∉ piece ∧ piece ≠ [] ∧ piece.head? ≠ some b) :
    cutAt? (a :: b :: pattern) ([a].intercalate pieces ++ (a :: b :: pattern ++ rest)) =
      some ([a].intercalate pieces, rest) := by
  induction pieces with
  | nil => exact cutAt?_pattern_append (a :: b :: pattern) rest
  | cons piece pieces ih =>
    obtain ⟨ha, -, -⟩ := h piece (by simp)
    cases pieces with
    | nil =>
      rw [List.intercalate_singleton, cutAt?_append_of_not_mem ha, cutAt?_pattern_append]
      simp
    | cons next pieces =>
      obtain ⟨-, hne, hb⟩ := h next (by simp)
      have ih := ih fun p hp => h p (by simp [hp])
      have hnext : ∃ c cs, [a].intercalate (next :: pieces) = c :: cs ∧ c ≠ b := by
        obtain ⟨c, cs, rfl⟩ := List.exists_cons_of_ne_nil hne
        have hc : c ≠ b := by simpa using hb
        cases pieces with
        | nil => exact ⟨c, cs, by simp, hc⟩
        | cons p ps => exact ⟨c, _, by rw [List.intercalate_cons_cons]; rfl, hc⟩
      obtain ⟨c, cs, hcs, hc⟩ := hnext
      rw [List.intercalate_cons_cons, List.append_assoc, List.append_assoc,
        cutAt?_append_of_not_mem ha]
      rw [hcs] at ih ⊢
      have hafter : after? (a :: b :: pattern)
          (a :: (c :: cs ++ (a :: b :: pattern ++ rest))) = none := by
        have hne : b ≠ c := fun heq => hc heq.symm
        simp [after?, hne]
      rw [List.singleton_append, cutAt?, hafter, ih]
      simp

/-- What stands before the first mark, and what follows it. -/
theorem cutAt?_singleton_eq_some_iff {mark : Char} {cs before rest : List Char} :
    cutAt? [mark] cs = some (before, rest) ↔ cs = before ++ mark :: rest ∧ mark ∉ before := by
  constructor
  · intro h
    induction cs generalizing before with
    | nil => cases h
    | cons c cs ih =>
      rw [cutAt?] at h
      split at h
      · next hafter =>
        obtain ⟨rfl, rfl⟩ := Prod.mk.inj (Option.some.inj h)
        have hsplit := eq_append_of_after? hafter
        exact ⟨hsplit, List.not_mem_nil⟩
      · next hafter =>
        obtain ⟨⟨before', rest'⟩, hcut, heq⟩ := Option.map_eq_some_iff.mp h
        cases heq
        obtain ⟨rfl, hnot⟩ := ih hcut
        have hne : mark ≠ c := by
          rintro rfl
          simp [after?] at hafter
        exact ⟨rfl, List.not_mem_cons_of_ne_of_not_mem hne hnot⟩
  · rintro ⟨rfl, hnot⟩
    have hcut : cutAt? [mark] (mark :: rest) = some ([], rest) := cutAt?_pattern_append [mark] rest
    rw [cutAt?_append_of_not_mem hnot, hcut]
    simp

theorem cutAtLast?_eq_none {mark : Char} {cs : List Char} (h : mark ∉ cs) :
    cutAtLast? mark cs = none := by
  induction cs with
  | nil => rfl
  | cons c cs ih =>
    rw [List.mem_cons, not_or] at h
    have hne : (c == mark) = false := by simpa using fun heq => h.1 heq.symm
    simp [cutAtLast?, ih h.2, hne]

theorem cutAtLast?_append {mark : Char} (before : List Char) {rest : List Char}
    (h : mark ∉ rest) : cutAtLast? mark (before ++ mark :: rest) = some (before, rest) := by
  induction before with
  | nil => simp [cutAtLast?, cutAtLast?_eq_none h]
  | cons c before ih => simp [cutAtLast?, ih]

theorem dropStart_cons {p : Char → Bool} {c : Char} {cs : List Char} (hc : p c = true)
    (h : ∀ d, cs.head? = some d → p d = false) : dropStart p (c :: cs) = cs := by
  rw [dropStart, List.dropWhile_cons_of_pos hc]
  cases cs with
  | nil => rfl
  | cons d cs => rw [List.dropWhile_cons_of_neg (by simp [h d List.head?_cons])]

theorem dropStart_eq_self {p : Char → Bool} {cs : List Char}
    (h : ∀ d, cs.head? = some d → p d = false) : dropStart p cs = cs := by
  rw [dropStart]
  cases cs with
  | nil => rfl
  | cons d cs => rw [List.dropWhile_cons_of_neg (by simp [h d List.head?_cons])]

theorem dropEnd_append {p : Char → Bool} {cs tail : List Char} (htail : ∀ c ∈ tail, p c = true)
    (h : ∀ d, cs.getLast? = some d → p d = false) : dropEnd p (cs ++ tail) = cs := by
  have hreverse : (tail.reverse ++ cs.reverse).dropWhile p = cs.reverse := by
    rw [List.dropWhile_append_of_pos (by simpa using htail)]
    exact dropStart_eq_self (by simpa using h)
  rw [dropEnd, List.reverse_append, hreverse, List.reverse_reverse]

theorem dropEnd_concat {p : Char → Bool} {c : Char} {cs : List Char} (hc : p c = true)
    (h : ∀ d, cs.getLast? = some d → p d = false) : dropEnd p (cs ++ [c]) = cs :=
  dropEnd_append (by simpa using hc) h

theorem dropEnd_eq_self {p : Char → Bool} {cs : List Char}
    (h : ∀ d, cs.getLast? = some d → p d = false) : dropEnd p cs = cs := by
  have hnil := @dropEnd_append p cs [] (by simp) h
  rwa [List.append_nil] at hnil

/-- Characters between the exclamation mark and the tilde are not blank. -/
theorem isBlank_of_bounds {c : Char} (hlow : 33 ≤ c.toNat) (hhigh : c.toNat ≤ 126) :
    isBlank c = false := by
  simp only [isBlank, Bool.or_eq_false_iff, Bool.and_eq_false_iff, decide_eq_false_iff_not,
    beq_eq_false_iff_ne]
  omega

theorem trim_eq_self {s : String} (h : ∀ c ∈ s.toList, isBlank c = false) : trim s = s := by
  have hstart : dropBlankStart s.toList = s.toList :=
    dropStart_eq_self fun c hc => h c (List.mem_of_mem_head? hc)
  have hend : dropBlankEnd s.toList = s.toList :=
    dropEnd_eq_self fun c hc => h c (List.mem_of_mem_getLast? hc)
  rw [trim, hstart, hend, String.ofList_toList]

theorem beq_eq_false_of_not_mem {mark : Char} {cs : List Char} (h : mark ∉ cs) :
    ∀ c ∈ cs, (c == mark) = false :=
  fun _ hc => beq_eq_false_iff_ne.mpr (ne_of_mem_of_not_mem hc h)

theorem splitBy_ne_nil (p : Char → Bool) (cs : List Char) : splitBy p cs ≠ [] := by
  cases cs with
  | nil => simp [splitBy]
  | cons c cs =>
    rw [splitBy]
    split
    · simp
    · split <;> simp

theorem splitBy_eq_singleton {p : Char → Bool} {cs : List Char} (h : ∀ c ∈ cs, p c = false) :
    splitBy p cs = [cs] := by
  induction cs with
  | nil => rfl
  | cons c cs ih =>
    have hc := h c (by simp)
    simp [splitBy, ih fun d hd => h d (by simp [hd]), hc]

theorem splitBy_append {p : Char → Bool} {cs ds piece : List Char} {pieces : List (List Char)}
    (h : ∀ c ∈ cs, p c = false) (hds : splitBy p ds = piece :: pieces) :
    splitBy p (cs ++ ds) = (cs ++ piece) :: pieces := by
  induction cs with
  | nil => exact hds
  | cons c cs ih =>
    have hc := h c (by simp)
    simp [splitBy, ih fun d hd => h d (by simp [hd]), hc]

theorem splitBy_append_cons {p : Char → Bool} {mark : Char} {piece cs : List Char}
    (h : ∀ c ∈ piece, p c = false) (hmark : p mark = true) :
    splitBy p (piece ++ mark :: cs) = piece :: splitBy p cs := by
  induction piece with
  | nil =>
    obtain ⟨first, rest, hcs⟩ := List.exists_cons_of_ne_nil (splitBy_ne_nil p cs)
    simp [splitBy, hcs, hmark]
  | cons c piece ih =>
    have hc := h c (by simp)
    simp [splitBy, ih fun d hd => h d (by simp [hd]), hc]

theorem splitBy_intercalate {p : Char → Bool} {mark : Char} {pieces : List (List Char)}
    (h : ∀ piece ∈ pieces, ∀ c ∈ piece, p c = false) (hmark : p mark = true)
    (hne : pieces ≠ []) : splitBy p ([mark].intercalate pieces) = pieces := by
  induction pieces with
  | nil => exact absurd rfl hne
  | cons piece pieces ih =>
    have hpiece := h piece (by simp)
    cases pieces with
    | nil => rw [List.intercalate_singleton, splitBy_eq_singleton hpiece]
    | cons next pieces =>
      have ih := ih (fun p hp => h p (by simp [hp])) (by simp)
      rw [List.intercalate_cons_cons, List.append_assoc, List.singleton_append,
        splitBy_append_cons hpiece hmark, ih]

theorem words_intercalate {pieces : List (List Char)}
    (h : ∀ piece ∈ pieces, piece ≠ [] ∧ ∀ c ∈ piece, isBlank c = false) :
    words ([' '].intercalate pieces) = pieces := by
  by_cases hne : pieces = []
  · subst hne
    rfl
  · rw [words, splitBy_intercalate (fun piece hp => (h piece hp).2) (by decide) hne,
      List.filter_eq_self]
    intro piece hpiece
    simpa using (h piece hpiece).1

/-- A blank ahead makes no word. -/
theorem words_blank_cons (cs : List Char) : words (' ' :: cs) = words cs := by
  obtain ⟨first, rest, hcs⟩ := List.exists_cons_of_ne_nil (splitBy_ne_nil isBlank cs)
  have hblank : isBlank ' ' = true := by decide
  simp [words, splitBy, hcs, hblank]

/-- A mark at the end opens a piece that is empty. -/
theorem splitBy_concat {p : Char → Bool} {mark : Char} (hmark : p mark = true) (cs : List Char) :
    splitBy p (cs ++ [mark]) = splitBy p cs ++ [[]] := by
  induction cs with
  | nil => simp [splitBy, hmark]
  | cons c cs ih =>
    obtain ⟨first, rest, hcs⟩ := List.exists_cons_of_ne_nil (splitBy_ne_nil p cs)
    cases hc : p c <;> simp [splitBy, ih, hcs, hc]

/-- A blank at the end makes no word. -/
theorem words_concat_blank {c : Char} (hc : isBlank c = true) (cs : List Char) :
    words (cs ++ [c]) = words cs := by
  simp [words, splitBy_concat hc]

/-- No line feed in the line, and no carriage return at its end. -/
def IsLine (cs : List Char) : Prop := '\n' ∉ cs ∧ cs.getLast? ≠ some '\r'

theorem unlines_append (ls ls' : List String) :
    unlines (ls ++ ls') = unlines ls ++ unlines ls' := by
  simp [unlines]

/-- The line feed after the last line begins an empty one. -/
theorem unlines_eq_intercalate (ls : List String) : unlines ls = "\n".intercalate (ls ++ [""]) := by
  refine String.toList_injective ?_
  rw [String.toList_intercalate]
  induction ls with
  | nil => rfl
  | cons l ls ih =>
    have ih : (String.join (ls.map (· ++ "\n"))).toList =
        "\n".toList.intercalate ((ls ++ [""]).map String.toList) := ih
    obtain ⟨next, rest, hrest⟩ := List.exists_cons_of_ne_nil (List.append_ne_nil_of_right_ne_nil ls
      (List.cons_ne_nil "" []))
    rw [hrest] at ih
    rw [unlines, List.map_cons, String.join_cons, List.cons_append, hrest]
    simp only [List.map_cons, List.intercalate_cons_cons, String.toList_append] at ih ⊢
    rw [ih, List.append_assoc]

theorem lines_of_splitBy {s : String} {pieces : List (List Char)} {last : List Char}
    (h : splitBy (· == '\n') s.toList = pieces ++ [last])
    (hpieces : ∀ piece ∈ pieces, piece.getLast? ≠ some '\r') :
    lines s = (pieces ++ (if last = [] then [] else [last])).map String.ofList := by
  have hclosed : (pieces.map fun piece =>
      if piece.getLast? == some '\r' then piece.dropLast else piece) = pieces := by
    conv_rhs => rw [← List.map_id pieces]
    refine List.map_congr_left fun piece hpiece => ?_
    simp [hpieces piece hpiece]
  rw [lines, h]
  simp only [List.dropLast_concat, List.getLast?_concat, hclosed]
  by_cases hlast : last = []
  · simp [hlast, Option.filter]
  · simp [hlast, Option.filter]

/-- Lines set apart by line feeds, the last one not empty. -/
theorem lines_intercalate {ls : List String} (h : ∀ l ∈ ls, IsLine l.toList ∧ l ≠ "") :
    lines ("\n".intercalate ls) = ls := by
  rcases List.eq_nil_or_concat ls with rfl | ⟨before, last, rfl⟩
  · rfl
  · have hsplit : splitBy (· == '\n') ("\n".intercalate (before.concat last)).toList =
        before.map String.toList ++ [last.toList] := by
      rw [String.toList_intercalate, List.concat_eq_append]
      have hpieces : ∀ piece ∈ (before ++ [last]).map String.toList, ∀ c ∈ piece,
          (c == '\n') = false := by
        intro piece hpiece
        obtain ⟨l, hl, rfl⟩ := List.mem_map.mp hpiece
        exact beq_eq_false_of_not_mem (h l (by simpa using hl)).1.1
      have hjoin := splitBy_intercalate hpieces (show ('\n' == '\n') = true by decide) (by simp)
      simpa using hjoin
    have hlast : last.toList ≠ [] := by
      simpa using (h last (by simp)).2
    rw [lines_of_splitBy hsplit]
    · simp [hlast, Function.comp_def]
    · intro piece hpiece
      obtain ⟨l, hl, rfl⟩ := List.mem_map.mp hpiece
      exact (h l (by simp [hl])).1.2

end PodTraffic.Text
