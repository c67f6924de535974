import PodTraffic.Policy
import PodTraffic.Proofs.Selector
import PodTraffic.Proofs.Text.Cut

/-!
# What the key of a target tells

A key is joined from names and values as they are written, so it can be read back only if no name
or value is spelled with a comma, an equals sign or a blank, and if a requirement that looks at
values lists some. Each of these conditions is needed.
-/
namespace PodTraffic

/-- The marks at which a key is read back. -/
def keyMarks : List Char := [',', '=', ' ']

/-- Spelled without the given characters. -/
def FreeOf (cs : List Char) (s : String) : Prop := ∀ c ∈ cs, c ∉ s.toList

instance (cs : List Char) (s : String) : Decidable (FreeOf cs s) :=
  List.decidableBAll (· ∉ s.toList) cs

theorem FreeOf.mono {cs ds : List Char} {s : String} (h : FreeOf ds s) (hsub : cs ⊆ ds) :
    FreeOf cs s :=
  fun c hc => h c (hsub hc)

namespace Requirement

def FreeOf (cs : List Char) (r : Requirement) : Prop :=
  PodTraffic.FreeOf cs r.key ∧ PodTraffic.FreeOf cs r.operator ∧
    ∀ v ∈ r.valueList, PodTraffic.FreeOf cs v

instance (cs : List Char) (r : Requirement) : Decidable (r.FreeOf cs) :=
  inferInstanceAs (Decidable (_ ∧ _ ∧ _))

theorem FreeOf.mono {cs ds : List Char} {r : Requirement} (h : r.FreeOf ds) (hsub : cs ⊆ ds) :
    r.FreeOf cs :=
  ⟨h.1.mono hsub, h.2.1.mono hsub, fun v hv => (h.2.2 v hv).mono hsub⟩

/-- `In` and `NotIn` look at the values, the other operators do not. -/
def Valued (r : Requirement) : Prop :=
  Operator.ofName r.operator = .isIn ∨ Operator.ofName r.operator = .notIn → r.valueList ≠ []

instance (r : Requirement) : Decidable r.Valued := inferInstanceAs (Decidable (_ → _))

/-- Operators that ignore the values hold of the same labels for any values. -/
theorem holds_eq_of_operator {r r' : Requirement} (hk : r.key = r'.key)
    (ho : r.operator = r'.operator)
    (hv : Operator.ofName r.operator = .isIn ∨ Operator.ofName r.operator = .notIn →
      r.valueList = r'.valueList) (labels : Labels) : r.holds labels = r'.holds labels := by
  rw [holds, holds, ← hk, ← ho]
  cases hop : Operator.ofName r.operator with
  | isIn => rw [hv (.inl hop)]
  | notIn => rw [hv (.inr hop)]
  | present | absent | unknown => cases labels.get? r.key <;> rfl

end Requirement

/-- The text of a requirement in characters: key, operator, joined values. -/
structure RequirementText where
  key : List Char
  operator : List Char
  values : List Char

namespace RequirementText

def ofRequirement (r : Requirement) : RequirementText :=
  ⟨r.key.toList, r.operator.toList, [','].intercalate (r.valueList.map String.toList)⟩

def text (t : RequirementText) : List Char :=
  t.key ++ ' ' :: (t.operator ++ ' ' :: ('[' :: (t.values ++ [']'])))

def join (ts : List RequirementText) : List Char := [','].intercalate (ts.map text)

/-- What follows the first requirement. -/
def tail : List RequirementText → List Char
  | [] => []
  | t :: ts => ',' :: join (t :: ts)

theorem join_cons (t : RequirementText) (ts : List RequirementText) :
    join (t :: ts) = t.text ++ tail ts := by
  cases ts with
  | nil => simp [join, tail]
  | cons u us => simp [join, tail, List.intercalate_cons_cons]

theorem join_cons_eq (t : RequirementText) (ts : List RequirementText) :
    join (t :: ts) =
      t.key ++ ' ' :: (t.operator ++ ' ' :: ('[' :: (t.values ++ ']' :: tail ts))) := by
  rw [join_cons, text]
  simp

structure Readable (t : RequirementText) : Prop where
  key_blank : ' ' ∉ t.key
  key_comma : ',' ∉ t.key
  operator_blank : ' ' ∉ t.operator
  values_blank : ' ' ∉ t.values

/-- The bracket that closes the values comes before the last comma ahead of the next blank. -/
theorem values_eq {v v' : List Char} {ts us : List RequirementText} (hv : ' ' ∉ v) (hv' : ' ' ∉ v')
    (hts : ∀ t ∈ ts, t.Readable) (hus : ∀ u ∈ us, u.Readable)
    (h : v ++ ']' :: tail ts = v' ++ ']' :: tail us) : v = v' ∧ join ts = join us := by
  cases ts with
  | nil =>
    cases us with
    | nil =>
      refine ⟨?_, rfl⟩
      simpa [tail] using h
    | cons u us =>
      have hmem : ' ' ∈ v ++ ']' :: tail [] := by
        rw [h, tail, join_cons_eq]
        simp
      simp [tail, hv] at hmem
  | cons t ts =>
    cases us with
    | nil =>
      have hmem : ' ' ∈ v' ++ ']' :: tail [] := by
        rw [← h, tail, join_cons_eq]
        simp
      simp [tail, hv'] at hmem
    | cons u us =>
      have ht := hts t (by simp)
      have hu := hus u (by simp)
      rw [tail, tail, join_cons_eq, join_cons_eq] at h
      have hcut : (v ++ ']' :: ',' :: t.key) ++ ' ' ::
            (t.operator ++ ' ' :: ('[' :: (t.values ++ ']' :: tail ts))) =
          (v' ++ ']' :: ',' :: u.key) ++ ' ' ::
            (u.operator ++ ' ' :: ('[' :: (u.values ++ ']' :: tail us))) := by
        simpa using h
      obtain ⟨hfirst, hrest⟩ := Text.eq_of_append_mark
        (by simp [hv, ht.key_blank]) (by simp [hv', hu.key_blank]) hcut
      have hcomma : (v ++ [']']) ++ ',' :: t.key = (v' ++ [']']) ++ ',' :: u.key := by
        simpa using hfirst
      obtain ⟨hvalues, hkey⟩ := Text.eq_of_mark_append ht.key_comma hu.key_comma hcomma
      refine ⟨List.append_cancel_right hvalues, ?_⟩
      rw [join_cons_eq, join_cons_eq, hkey, hrest]

theorem join_injective {ts us : List RequirementText} (hts : ∀ t ∈ ts, t.Readable)
    (hus : ∀ u ∈ us, u.Readable) (h : join ts = join us) : ts = us := by
  induction ts generalizing us with
  | nil =>
    cases us with
    | nil => rfl
    | cons u us =>
      rw [join_cons_eq] at h
      simp [join] at h
  | cons t ts ih =>
    cases us with
    | nil =>
      rw [join_cons_eq] at h
      simp [join] at h
    | cons u us =>
      have ht := hts t (by simp)
      have hu := hus u (by simp)
      rw [join_cons_eq, join_cons_eq] at h
      obtain ⟨hkey, h⟩ := Text.eq_of_append_mark ht.key_blank hu.key_blank h
      obtain ⟨hoperator, h⟩ := Text.eq_of_append_mark ht.operator_blank hu.operator_blank h
      obtain ⟨hvalues, hjoin⟩ := values_eq ht.values_blank hu.values_blank
        (fun x hx => hts x (by simp [hx])) (fun x hx => hus x (by simp [hx]))
        (List.cons.inj h).2
      have hhead : t = u := by
        cases t
        cases u
        simp_all
      rw [hhead, ih (fun x hx => hts x (by simp [hx])) (fun x hx => hus x (by simp [hx])) hjoin]

end RequirementText

namespace Requirement

theorem freeOf_normalize {cs : List Char} {r : Requirement} (h : r.FreeOf cs) :
    r.normalize.FreeOf cs := by
  refine ⟨h.1, h.2.1, fun v hv => h.2.2 v ?_⟩
  rwa [valueList_normalize, Ordered.mem_distinct] at hv

theorem valued_normalize {r : Requirement} (h : r.Valued) : r.normalize.Valued := by
  intro hop
  rw [valueList_normalize, Ne, Ordered.distinct_eq_nil_iff]
  exact h hop

theorem readable_text {r : Requirement} (h : r.FreeOf keyMarks) :
    (RequirementText.ofRequirement r).Readable where
  key_blank := h.1 ' ' (by simp [keyMarks])
  key_comma := h.1 ',' (by simp [keyMarks])
  operator_blank := h.2.1 ' ' (by simp [keyMarks])
  values_blank := by
    intro hmem
    rcases Text.mem_of_mem_intercalate hmem with ⟨piece, hpiece, hblank⟩ | hblank
    · obtain ⟨v, hv, rfl⟩ := List.mem_map.mp hpiece
      exact h.2.2 v hv ' ' (by simp [keyMarks]) hblank
    · simp at hblank

/-- Requirements of one text hold of the same labels. -/
theorem holds_eq_of_text {r r' : Requirement} (hr : r.FreeOf keyMarks) (hr' : r'.FreeOf keyMarks)
    (hv : r.Valued) (hv' : r'.Valued)
    (h : RequirementText.ofRequirement r = RequirementText.ofRequirement r') (labels : Labels) :
    r.holds labels = r'.holds labels := by
  simp only [RequirementText.ofRequirement, RequirementText.mk.injEq, String.toList_inj] at h
  obtain ⟨hkey, hoperator, hvalues⟩ := h
  refine holds_eq_of_operator hkey hoperator (fun hop => ?_) labels
  have hpieces := @Text.eq_of_intercalate_eq _ _ ',' _ _
    (by simpa using fun v hmem => hr.2.2 v hmem ',' (by simp [keyMarks]))
    (by simpa using fun v hmem => hr'.2.2 v hmem ',' (by simp [keyMarks]))
    (by simpa using hv hop) (by simpa using hv' (hoperator ▸ hop)) hvalues
  exact List.map_injective_iff.mpr (fun _ _ heq => String.toList_injective heq) hpieces

end Requirement

namespace Labels

def entryText (e : String × String) : List Char := e.1.toList ++ '=' :: e.2.toList

theorem toList_text (labels : Labels) :
    labels.text.toList = [','].intercalate (labels.entries.map entryText) := by
  simp only [text, String.toList_intercalate, List.map_map]
  congr 2
  funext e
  simp [entryText]

theorem entryText_piece {e : String × String} (h : FreeOf keyMarks e.1 ∧ FreeOf keyMarks e.2) :
    ',' ∉ entryText e ∧ entryText e ≠ [] := by
  simp [entryText, h.1 ',' (by simp [keyMarks]), h.2 ',' (by simp [keyMarks])]

/-- Labels are read back entry by entry. -/
theorem entries_eq_of_text {m n : Labels}
    (hm : ∀ e ∈ m.entries, FreeOf keyMarks e.1 ∧ FreeOf keyMarks e.2)
    (hn : ∀ e ∈ n.entries, FreeOf keyMarks e.1 ∧ FreeOf keyMarks e.2)
    (h : m.text = n.text) : m.entries = n.entries := by
  have htext := congrArg String.toList h
  rw [toList_text, toList_text] at htext
  have hpieces := Text.eq_of_intercalate_eq_of_ne
    (List.forall_mem_map.mpr fun e he => entryText_piece (hm e he))
    (List.forall_mem_map.mpr fun e he => entryText_piece (hn e he)) htext
  refine Text.eq_of_map_eq_map (fun e he f hf hef => ?_) hpieces
  obtain ⟨hkey, hvalue⟩ := Text.eq_of_append_mark ((hm e he).1 '=' (by simp [keyMarks]))
    ((hn f hf).1 '=' (by simp [keyMarks])) hef
  exact Prod.ext (String.toList_injective hkey) (String.toList_injective hvalue)

end Labels

namespace LabelSelector

def FreeOf (cs : List Char) (s : LabelSelector) : Prop :=
  (∀ e ∈ s.labels.entries, PodTraffic.FreeOf cs e.1 ∧ PodTraffic.FreeOf cs e.2) ∧
    ∀ r ∈ s.expressions, r.FreeOf cs

instance (cs : List Char) (s : LabelSelector) : Decidable (s.FreeOf cs) :=
  inferInstanceAs (Decidable (_ ∧ _))

theorem FreeOf.mono {cs ds : List Char} {s : LabelSelector} (h : s.FreeOf ds) (hsub : cs ⊆ ds) :
    s.FreeOf cs :=
  ⟨fun e he => ⟨(h.1 e he).1.mono hsub, (h.1 e he).2.mono hsub⟩, fun r hr => (h.2 r hr).mono hsub⟩

def Valued (s : LabelSelector) : Prop := ∀ r ∈ s.expressions, r.Valued

instance (s : LabelSelector) : Decidable s.Valued :=
  inferInstanceAs (Decidable (∀ r ∈ s.expressions, r.Valued))

/-- The text of each requirement of the normal form. -/
def requirementTexts (s : LabelSelector) : List RequirementText :=
  s.normalize.expressions.map RequirementText.ofRequirement

theorem exists_of_mem_normalize {s : LabelSelector} {r : Requirement}
    (h : r ∈ s.normalize.expressions) : ∃ q ∈ s.expressions, r = q.normalize := by
  rw [expressions_normalize, (Ordered.sort_perm _).mem_iff] at h
  obtain ⟨q, hq, rfl⟩ := List.mem_map.mp h
  exact ⟨q, hq, rfl⟩

theorem FreeOf.normalize {cs : List Char} {s : LabelSelector} (h : s.FreeOf cs) :
    s.normalize.FreeOf cs := by
  refine ⟨?_, fun r hr => ?_⟩
  · rw [entries_labels_normalize]
    exact h.1
  · obtain ⟨q, hq, rfl⟩ := exists_of_mem_normalize hr
    exact Requirement.freeOf_normalize (h.2 q hq)

theorem Valued.normalize {s : LabelSelector} (h : s.Valued) : s.normalize.Valued := by
  intro r hr
  obtain ⟨q, hq, rfl⟩ := exists_of_mem_normalize hr
  exact Requirement.valued_normalize (h q hq)

/-- The labels end at the first blank of a key. -/
theorem toList_key (s : LabelSelector) :
    s.key.toList = "\x7blabels: [".toList ++ ((s.normalize.labels.text.toList ++ [']', ',']) ++
      ' ' :: ("expressions: [".toList ++ (RequirementText.join s.requirementTexts ++
        "]\x7d".toList))) := by
  have hjoin : (",".intercalate (s.normalize.expressions.map (·.text))).toList =
      RequirementText.join s.requirementTexts := by
    simp only [String.toList_intercalate, List.map_map, RequirementText.join, requirementTexts]
    congr 2
    funext r
    simp [Requirement.text, RequirementText.text, RequirementText.ofRequirement,
      String.toList_intercalate]
  rw [key]
  simp only [String.toList_append, hjoin]
  simp

theorem blank_not_mem_text {m : Labels}
    (h : ∀ e ∈ m.entries, PodTraffic.FreeOf keyMarks e.1 ∧ PodTraffic.FreeOf keyMarks e.2) :
    ' ' ∉ m.text.toList := by
  rw [Labels.toList_text]
  intro hmem
  rcases Text.mem_of_mem_intercalate hmem with ⟨x, hx, hblank⟩ | hblank
  · obtain ⟨e, he, rfl⟩ := List.mem_map.mp hx
    rcases List.mem_append.mp hblank with hblank | hblank
    · exact (h e he).1 ' ' (by simp [keyMarks]) hblank
    · exact (h e he).2 ' ' (by simp [keyMarks]) (by simpa using hblank)
  · simp at hblank

/-- Requirement lists of one text hold of the same labels. -/
theorem all_holds_eq {es fs : List Requirement} (he : ∀ r ∈ es, r.FreeOf keyMarks ∧ r.Valued)
    (hf : ∀ r ∈ fs, r.FreeOf keyMarks ∧ r.Valued)
    (h : es.map RequirementText.ofRequirement = fs.map RequirementText.ofRequirement)
    (labels : Labels) : es.all (·.holds labels) = fs.all (·.holds labels) := by
  induction es generalizing fs with
  | nil => rw [List.map_nil, eq_comm, List.map_eq_nil_iff] at h; rw [h]
  | cons r es ih =>
    cases fs with
    | nil => simp at h
    | cons q fs =>
      rw [List.map_cons, List.map_cons] at h
      obtain ⟨hhead, htail⟩ := List.cons.inj h
      have hr := he r (by simp)
      have hq := hf q (by simp)
      rw [List.all_cons, List.all_cons,
        Requirement.holds_eq_of_text hr.1 hq.1 hr.2 hq.2 hhead labels,
        ih (fun a ha => he a (by simp [ha])) (fun a ha => hf a (by simp [ha])) htail]

/-- Where names and values keep clear of the marks, the key tells what a selector matches. -/
theorem isMatch_eq_of_key_eq {s t : LabelSelector} (hs : s.FreeOf keyMarks)
    (ht : t.FreeOf keyMarks) (vs : s.Valued) (vt : t.Valued) (h : s.key = t.key)
    (labels : Labels) : s.isMatch labels = t.isMatch labels := by
  have hchars := congrArg String.toList h
  rw [toList_key, toList_key] at hchars
  obtain ⟨htext, hrest⟩ := Text.eq_of_append_mark
    (by simp [blank_not_mem_text hs.normalize.1])
    (by simp [blank_not_mem_text ht.normalize.1]) (List.append_cancel_left hchars)
  have hjoin := List.append_cancel_right (List.append_cancel_left hrest)
  have hentries := Labels.entries_eq_of_text hs.normalize.1 ht.normalize.1
    (String.toList_injective (List.append_cancel_right htext))
  have hreadable : ∀ u : LabelSelector, u.FreeOf keyMarks →
      ∀ x ∈ u.requirementTexts, x.Readable := fun u hu =>
    List.forall_mem_map.mpr fun r hr => Requirement.readable_text (hu.normalize.2 r hr)
  have htexts := RequirementText.join_injective (hreadable s hs) (hreadable t ht) hjoin
  have hexpressions := all_holds_eq
    (fun r hr => ⟨hs.normalize.2 r hr, vs.normalize r hr⟩)
    (fun r hr => ⟨ht.normalize.2 r hr, vt.normalize r hr⟩) htexts labels
  rw [← isMatch_normalize s, ← isMatch_normalize t, isMatch, isMatch, hentries, hexpressions]

end LabelSelector

namespace Target

def FreeOf (cs : List Char) (t : Target) : Prop :=
  PodTraffic.FreeOf cs t.ns ∧ t.selector.FreeOf cs

instance (cs : List Char) (t : Target) : Decidable (t.FreeOf cs) :=
  inferInstanceAs (Decidable (_ ∧ _))

theorem FreeOf.mono {cs ds : List Char} {t : Target} (h : t.FreeOf ds) (hsub : cs ⊆ ds) :
    t.FreeOf cs :=
  ⟨h.1.mono hsub, h.2.mono hsub⟩

/-- Every requirement that looks at values lists some. -/
def Valued (t : Target) : Prop := t.selector.Valued

instance (t : Target) : Decidable t.Valued := inferInstanceAs (Decidable t.selector.Valued)

/-- The same pods are selected, whatever pods there are. -/
def SameSelection (t u : Target) : Prop :=
  t.ns = u.ns ∧ ∀ labels, t.selector.isMatch labels = u.selector.isMatch labels

/-- The namespace ends at the first comma of a key. -/
theorem toList_key (t : Target) :
    t.key.toList = "\x7bnamespace: ".toList ++ (t.ns.toList ++ ',' ::
      (" podSelector: ".toList ++ (t.selector.key.toList ++ "\x7d".toList))) := by
  simp [key, keyOf]

theorem sameSelection_of_key_eq {t u : Target} (ht : t.FreeOf keyMarks) (hu : u.FreeOf keyMarks)
    (vt : t.Valued) (vu : u.Valued) (h : t.key = u.key) : t.SameSelection u := by
  have hchars := congrArg String.toList h
  rw [toList_key, toList_key] at hchars
  obtain ⟨hns, hrest⟩ := Text.eq_of_append_mark (ht.1 ',' (by simp [keyMarks]))
    (hu.1 ',' (by simp [keyMarks])) (List.append_cancel_left hchars)
  have hkey := List.append_cancel_right (List.append_cancel_left hrest)
  exact ⟨String.toList_injective hns, LabelSelector.isMatch_eq_of_key_eq ht.2 hu.2 vt vu
    (String.toList_injective hkey)⟩

/-- Among the targets that satisfy `p`, those of one key select the same pods. -/
def KeysIdentify (p : Target → Prop) : Prop :=
  ∀ t u : Target, p t → p u → t.key = u.key → t.SameSelection u

/-- Two targets of one key that tell some labels apart. -/
structure Collide (t u : Target) (labels : Labels) : Prop where
  key_eq : t.key = u.key
  isMatch_ne : t.selector.isMatch labels ≠ u.selector.isMatch labels

instance (t u : Target) (labels : Labels) : Decidable (Collide t u labels) :=
  decidable_of_iff (t.key = u.key ∧ t.selector.isMatch labels ≠ u.selector.isMatch labels)
    ⟨fun h => ⟨h.1, h.2⟩, fun h => ⟨h.1, h.2⟩⟩

theorem Collide.not_keysIdentify {p : Target → Prop} {t u : Target} {labels : Labels}
    (h : Collide t u labels) (ht : p t) (hu : p u) : ¬ KeysIdentify p :=
  fun hp => h.isMatch_ne ((hp t u ht hu h.key_eq).2 labels)

def ofLabels (entries : List (String × String)) : Target :=
  ⟨"x", { matchLabels := some (.ofList entries) }, [], []⟩

def ofRequirement (name operator : String) (values : List String) : Target :=
  ⟨"x", { matchExpressions := some [⟨name, operator, some values⟩] }, [], []⟩

/-- Targets that collide although spelled without the other marks show that `c` is needed. -/
theorem Collide.mem_kept {kept : List Char} (h : kept ⊆ keyMarks) {c : Char} {t u : Target}
    {labels : Labels} (hc : Collide t u labels)
    (ht : t.FreeOf (keyMarks.erase c) ∧ t.Valued) (hu : u.FreeOf (keyMarks.erase c) ∧ u.Valued)
    (hkeys : KeysIdentify fun t => t.FreeOf kept ∧ t.Valued) : c ∈ kept := by
  by_contra hmissing
  have hsub : kept ⊆ keyMarks.erase c := fun a ha =>
    (List.mem_erase_of_ne (by rintro rfl; exact hmissing ha)).mpr (h ha)
  exact hc.not_keysIdentify (p := fun t => t.FreeOf kept ∧ t.Valued)
    ⟨ht.1.mono hsub, ht.2⟩ ⟨hu.1.mono hsub, hu.2⟩ hkeys

theorem keyMarks_subset {kept : List Char} (h : kept ⊆ keyMarks)
    (hkeys : KeysIdentify fun t => t.FreeOf kept ∧ t.Valued) : keyMarks ⊆ kept := by
  have hcomma : Collide (ofRequirement "a" "In" ["b,c"]) (ofRequirement "a" "In" ["b", "c"])
      (.ofList [("a", "b")]) := by decide
  have hequals : Collide (ofLabels [("a=b", "c")]) (ofLabels [("a", "b=c")])
      (.ofList [("a", "b=c")]) := by decide
  have hblank : Collide (ofRequirement "a b" "In" ["c"]) (ofRequirement "a" "b In" ["c"])
      (.ofList [("a b", "c")]) := by decide
  intro c hc
  simp only [keyMarks, List.mem_cons, List.not_mem_nil, or_false] at hc
  rcases hc with rfl | rfl | rfl
  · exact hcomma.mem_kept h (by decide) (by decide) hkeys
  · exact hequals.mem_kept h (by decide) (by decide) hkeys
  · exact hblank.mem_kept h (by decide) (by decide) hkeys

/-- No values and one empty value are joined to the same text. -/
theorem not_keysIdentify_freeOf {kept : List Char} (h : kept ⊆ keyMarks) :
    ¬ KeysIdentify fun t => t.FreeOf kept := by
  have hempty : Collide (ofRequirement "a" "In" [""]) (ofRequirement "a" "In" [])
      (.ofList [("a", "")]) := by decide
  have ht : (ofRequirement "a" "In" [""]).FreeOf keyMarks := by decide
  have hu : (ofRequirement "a" "In" []).FreeOf keyMarks := by decide
  exact hempty.not_keysIdentify (p := fun t => t.FreeOf kept) (ht.mono h) (hu.mono h)

/-- Keys identify the pods that targets select just when names and values keep clear of all three
marks and requirements that look at values list some. -/
theorem keysIdentify_iff {kept : List Char} (h : kept ⊆ keyMarks) (valued : Prop) :
    (KeysIdentify fun t => t.FreeOf kept ∧ (valued → t.Valued)) ↔ keyMarks ⊆ kept ∧ valued := by
  constructor
  · intro hkeys
    refine ⟨keyMarks_subset h fun t u ht hu => ?_, ?_⟩
    · exact hkeys t u ⟨ht.1, fun _ => ht.2⟩ ⟨hu.1, fun _ => hu.2⟩
    · by_contra hfree
      exact not_keysIdentify_freeOf h fun t u ht hu =>
        hkeys t u ⟨ht, fun hv => absurd hv hfree⟩ ⟨hu, fun hv => absurd hv hfree⟩
  · intro h t u ht hu hkey
    obtain ⟨hmarks, hvalued⟩ := h
    exact sameSelection_of_key_eq (ht.1.mono hmarks) (hu.1.mono hmarks) (ht.2 hvalued)
      (hu.2 hvalued) hkey

theorem keysIdentify_keyMarks :
    keyMarks ⊆ keyMarks ∧ KeysIdentify fun t => t.FreeOf keyMarks ∧ (True → t.Valued) :=
  ⟨List.Subset.refl _, (keysIdentify_iff (List.Subset.refl _) True).mpr
    ⟨List.Subset.refl _, trivial⟩⟩

/-- One label whose value holds a comma has the key of two labels, so the second target is merged
into the first and the pods that it selects are left out. -/
theorem key_of_comma_in_value :
    let one := ofLabels [("a", "b,c=d")]
    let two := ofLabels [("a", "b"), ("c", "d")]
    one.key = two.key ∧ ¬ one.SameSelection two ∧
      ((({} : Policy).addTarget .ingress one).addTarget .ingress two).targetsFor .ingress "x"
        (.ofList [("a", "b"), ("c", "d")]) = [] := by
  intro one two
  have hkey : one.key = two.key := by decide
  refine ⟨hkey, fun h => ?_, by decide⟩
  have hmatch := h.2 (.ofList [("a", "b"), ("c", "d")])
  exact absurd hmatch (by decide)

end Target
end PodTraffic
