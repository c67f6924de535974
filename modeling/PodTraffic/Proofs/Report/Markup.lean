import Mathlib.Tactic
import PodTraffic.Document.Summary
import PodTraffic.Proofs.Text.Cut

/-!
# Markup read back

A reader of markup that knows no report: a declaration, elements with quoted attributes and
nothing but blanks between the tags. What is not of this form is not read at all, so a text that
is read has exactly the elements it is read as. Five characters are marks of markup; values hold
entities in their place, which the reader turns back into the marks.
-/
namespace PodTraffic

namespace Markup

def isMark (c : Char) : Bool := ['&', '<', '>', '"', '\x27'].contains c

def entities : List String := ["&amp;", "&lt;", "&gt;", "&quot;", "&apos;"]

/-- A value without its entities. An ampersand stands for nothing else, and no tag begins in a
value. -/
def unescape? : List Char → Option (List Char)
  | [] => some []
  | '&' :: 'a' :: 'm' :: 'p' :: ';' :: cs => (unescape? cs).map ('&' :: ·)
  | '&' :: 'l' :: 't' :: ';' :: cs => (unescape? cs).map ('<' :: ·)
  | '&' :: 'g' :: 't' :: ';' :: cs => (unescape? cs).map ('>' :: ·)
  | '&' :: 'q' :: 'u' :: 'o' :: 't' :: ';' :: cs => (unescape? cs).map ('"' :: ·)
  | '&' :: 'a' :: 'p' :: 'o' :: 's' :: ';' :: cs => (unescape? cs).map ('\x27' :: ·)
  | '&' :: _ => none
  | '<' :: _ => none
  | c :: cs => (unescape? cs).map (c :: ·)

theorem unescape?_cons {c : Char} (hamp : c ≠ '&') (hlt : c ≠ '<') (cs : List Char) :
    unescape? (c :: cs) = (unescape? cs).map (c :: ·) := by
  rw [unescape?] <;> simp [hamp, hlt]

end Markup

namespace Junit

open Markup

/-- What stands for a character in a value. -/
def written (c : Char) : List Char := ((entity? c).map String.toList).getD [c]

theorem toList_escape (s : String) : (escape s).toList = s.toList.flatMap written := by
  have hwritten (c : Char) : ((entity? c).getD (String.singleton c)).toList = written c := by
    rw [written]
    cases entity? c <;> simp
  rw [escape, String.toList_join, List.flatMap_map]
  exact List.flatMap_congr fun c _ => hwritten c

/-- A mark is written as an entity and any other character as itself. -/
theorem written_cases (c : Char) :
    (isMark c = false ∧ written c = [c]) ∨
      (isMark c = true ∧ ∃ entity ∈ entities, written c = entity.toList) := by
  unfold written
  fun_cases entity? c with
  | case6 _ hamp hlt hgt hquot hapos =>
    have hplain : isMark c = false := by
      simpa [isMark] using ⟨hamp, hlt, hgt, hquot, hapos⟩
    exact .inl ⟨hplain, rfl⟩
  | _ => exact .inr ⟨by decide, _, by decide, rfl⟩

theorem unescape?_written (c : Char) (rest : List Char) :
    unescape? (written c ++ rest) = (unescape? rest).map (c :: ·) := by
  unfold written
  fun_cases entity? c with
  | case6 _ hamp hlt => exact unescape?_cons hamp hlt rest
  | _ => simp [unescape?]

theorem unescape?_escape (s : String) : unescape? (escape s).toList = some s.toList := by
  rw [toList_escape]
  induction s.toList with
  | nil => rfl
  | cons c cs ih => rw [List.flatMap_cons, unescape?_written, ih, Option.map_some]

/-- The only marks that escaped text has are ampersands. -/
theorem eq_ampersand_of_mem_escape {s : String} {c : Char} (h : c ∈ (escape s).toList)
    (hmark : isMark c = true) : c = '&' := by
  rw [toList_escape, List.mem_flatMap] at h
  obtain ⟨d, -, hd⟩ := h
  obtain ⟨hplain, hwritten⟩ | ⟨-, entity, hentity, hwritten⟩ := written_cases d
  · rw [hwritten, List.mem_singleton] at hd
    rw [hd, hplain] at hmark
    cases hmark
  · have hentities :
        (entities.all fun e => e.toList.all fun c => !isMark c || c == '&') = true := by decide
    have hentity := List.all_eq_true.mp (List.all_eq_true.mp hentities entity hentity) c
      (hwritten ▸ hd)
    simpa [hmark] using hentity

theorem not_mem_escape {s : String} {mark : Char} (hmark : isMark mark = true)
    (hne : mark ≠ '&') : mark ∉ (escape s).toList :=
  fun hmem => hne (eq_ampersand_of_mem_escape hmem hmark)

/-- Ampersands in what is written for a character begin its entity. -/
theorem entity_of_written {c : Char} {before after : List Char}
    (h : written c = before ++ '&' :: after) :
    ∃ entity ∈ entities, entity.toList = '&' :: after := by
  obtain ⟨hplain, hwritten⟩ | ⟨-, entity, hentity, hwritten⟩ := written_cases c
  · have hmem : '&' ∈ [c] := by simp [← hwritten, h]
    rw [← List.mem_singleton.mp hmem] at hplain
    cases hplain
  · have hentities : ∀ e ∈ entities, '&' ∉ e.toList.tail := by decide
    refine ⟨entity, hentity, ?_⟩
    have htail := hentities entity hentity
    rw [hwritten] at h
    cases before with
    | nil => exact h
    | cons b before =>
      rw [h] at htail
      simp at htail

theorem entity_of_escape {s : String} {before after : List Char}
    (h : (escape s).toList = before ++ '&' :: after) :
    ∃ entity ∈ entities, entity.toList <+: '&' :: after := by
  rw [toList_escape] at h
  generalize s.toList = cs at h
  induction cs generalizing before with
  | nil => simp at h
  | cons c cs ih =>
    rw [List.flatMap_cons, List.append_eq_append_iff] at h
    obtain ⟨rest, -, hrest⟩ | ⟨rest, hc, hrest⟩ := h
    · exact ih hrest
    · cases rest with
      | nil => exact @ih [] (by simpa using hrest.symm)
      | cons d rest =>
        rw [List.cons_append, List.cons.injEq] at hrest
        obtain ⟨rfl, hafter⟩ := hrest
        obtain ⟨entity, hentity, htext⟩ := entity_of_written hc
        exact ⟨entity, hentity, _, by rw [htext, hafter, List.cons_append]⟩

/-- Text without marks needs no entities. -/
theorem escape_eq_self {s : String} (h : s.toList.any isMark = false) : escape s = s := by
  have hwritten : ∀ c ∈ s.toList, written c = [c] := by
    intro c hc
    obtain ⟨-, hwritten⟩ | ⟨hmark, -⟩ := written_cases c
    · exact hwritten
    · exact absurd hmark (List.any_eq_false.mp h c hc)
  rw [← String.toList_inj, toList_escape, List.flatMap_congr hwritten]
  simp

end Junit

namespace Markup

inductive Tag where
  | declaration
  | opening (name : String) (attributes : List (String × String))
  | single (name : String) (attributes : List (String × String))
  | closing (name : String)

def isNameChar (c : Char) : Bool :=
  c.isAlphanum || c == '-' || c == '_' || c == '.' || c == ':'

def name? (cs : List Char) : Option String :=
  if cs ≠ [] ∧ cs.all isNameChar then some (String.ofList cs) else none

/-- A blank, a name and an equals sign stand ahead of a value. -/
def key? : List Char → Option String
  | ' ' :: cs => if cs.getLast? = some '=' then name? cs.dropLast else none
  | _ => none

/-- The attributes in pieces between quotes, and the piece after the last value. -/
def attributes? : List (List Char) → Option (List (String × String) × List Char)
  | [] => none
  | [ending] => some ([], ending)
  | key :: value :: pieces => do
    let name ← key? key
    let value ← unescape? value
    let (attributes, ending) ← attributes? pieces
    return ((name, String.ofList value) :: attributes, ending)

/-- No two attributes share a name. -/
def element? (cs : List Char) : Option Tag := do
  let name ← name? (cs.takeWhile isNameChar)
  let (attributes, ending) ← attributes? (Text.splitBy (· == '"') (cs.dropWhile isNameChar))
  if (attributes.map Prod.fst).Nodup then
    if ending = [] then some (.opening name attributes)
    else if ending = ['/'] then some (.single name attributes)
    else none
  else none

/-- What stands between the marks of a tag. -/
def inside? : List Char → Option Tag
  | '?' :: cs => if cs.getLast? = some '?' then some .declaration else none
  | '/' :: cs => (name? cs).map .closing
  | cs => element? cs

/-- A tag and the blanks that follow it, from behind its first mark. -/
def tag? (cs : List Char) : Option Tag :=
  let cs := Text.dropEnd Char.isWhitespace cs
  if cs.getLast? = some '>' then inside? cs.dropLast else none

def tags? (cs : List Char) : Option (List Tag) :=
  match Text.splitBy (· == '<') cs with
  | [] => none
  | before :: pieces => if before.all Char.isWhitespace then pieces.mapM tag? else none

structure Element where
  name : String
  attributes : List (String × String)
  children : List Element

namespace Element

def add (e : Element) (es : List Element) : Element := { e with children := e.children ++ es }

@[simp] theorem add_nil (e : Element) : e.add [] = e := by
  cases e
  simp [add]

@[simp] theorem add_add (e : Element) (es es' : List Element) :
    (e.add es).add es' = e.add (es ++ es') := by
  simp [add]

mutual

/-- The elements of a name in an element, itself included, in the order of their first tags. -/
def named (name : String) : Element → List Element
  | ⟨n, attributes, children⟩ =>
    (if n = name then [⟨n, attributes, children⟩] else []) ++ namedAmong name children

def namedAmong (name : String) : List Element → List Element
  | [] => []
  | e :: es => e.named name ++ namedAmong name es

end

end Element

/-- The open elements, the innermost first, after one more tag. -/
def step? : List Element → Tag → Option (List Element)
  | opened, .opening name attributes => some (⟨name, attributes, []⟩ :: opened)
  | e :: opened, .single name attributes => some (e.add [⟨name, attributes, []⟩] :: opened)
  | inner :: outer :: opened, .closing name =>
    if inner.name = name then some (outer.add [inner] :: opened) else none
  | _, _ => none

def dropDeclaration : List Tag → List Tag
  | .declaration :: ts => ts
  | ts => ts

/-- The one element that holds all others. -/
def read? (text : String) : Option Element := do
  let tags ← tags? text.toList
  match ← (dropDeclaration tags).foldlM step? [⟨"", [], []⟩] with
  | [⟨_, _, [root]⟩] => some root
  | _ => none

def IsName (name : String) : Prop := name? name.toList = some name

instance (name : String) : Decidable (IsName name) := inferInstanceAs (Decidable (_ = _))

theorem IsName.chars {name : String} (h : IsName name) :
    name.toList ≠ [] ∧ ∀ c ∈ name.toList, isNameChar c = true := by
  rw [IsName, name?] at h
  split at h
  · next hname => exact ⟨hname.1, List.all_eq_true.mp hname.2⟩
  · cases h

theorem IsName.not_mem {name : String} (h : IsName name) {c : Char} (hc : isNameChar c = false) :
    c ∉ name.toList := by
  intro hmem
  rw [h.chars.2 c hmem] at hc
  cases hc

theorem IsName.key? {name : String} (h : IsName name) :
    key? (' ' :: name.toList ++ ['=']) = some name := by
  simpa [Markup.key?, IsName] using h

/-- The attributes as tags hold them. -/
def attributesText (attributes : List (String × String)) : String :=
  String.join (attributes.map fun a => Junit.attr a.1 (Junit.escape a.2))

theorem attributesText_cons_append (name value : String) (attributes : List (String × String))
    (cs : List Char) : (attributesText ((name, value) :: attributes)).toList ++ cs =
      (' ' :: name.toList ++ ['=']) ++ '"' :: ((Junit.escape value).toList ++
        '"' :: ((attributesText attributes).toList ++ cs)) := by
  simp [attributesText, Junit.attr]

theorem lt_not_mem_attributesText {attributes : List (String × String)}
    (h : ∀ a ∈ attributes, IsName a.1) : '<' ∉ (attributesText attributes).toList := by
  induction attributes with
  | nil => decide
  | cons a attributes ih =>
    have hname : '<' ∉ a.1.toList := (h a (by simp)).not_mem (by decide)
    have hvalue : '<' ∉ (Junit.escape a.2).toList := Junit.not_mem_escape (by decide) (by decide)
    have ih := ih fun b hb => h b (by simp [hb])
    rw [← List.append_nil (attributesText _).toList, attributesText_cons_append]
    simpa [hname, hvalue] using ih

theorem attributes?_attributesText {attributes : List (String × String)} {ending : List Char}
    (h : ∀ a ∈ attributes, IsName a.1) (hending : '"' ∉ ending) :
    attributes? (Text.splitBy (· == '"') ((attributesText attributes).toList ++ ending)) =
      some (attributes, ending) := by
  induction attributes with
  | nil =>
    have hsingle : Text.splitBy (· == '"') ending = [ending] :=
      Text.splitBy_eq_singleton (Text.beq_eq_false_of_not_mem hending)
    change attributes? (Text.splitBy (· == '"') ending) = _
    rw [hsingle]
    rfl
  | cons a attributes ih =>
    obtain ⟨name, value⟩ := a
    have hname := h (name, value) (by simp)
    have hkey : '"' ∉ ' ' :: name.toList ++ ['='] := by
      simp [hname.not_mem (show isNameChar '"' = false by decide)]
    have hvalue : '"' ∉ (Junit.escape value).toList := Junit.not_mem_escape (by decide) (by decide)
    have ih := ih fun b hb => h b (by simp [hb])
    rw [attributesText_cons_append,
      Text.splitBy_append_cons (Text.beq_eq_false_of_not_mem hkey) (by decide),
      Text.splitBy_append_cons (Text.beq_eq_false_of_not_mem hvalue) (by decide), attributes?,
      hname.key?, Junit.unescape?_escape, ih]
    simp

/-- Names that attributes of one tag may have. -/
def AreKeys (names : List String) : Prop := names.Nodup ∧ ∀ name ∈ names, IsName name

instance (names : List String) : Decidable (AreKeys names) :=
  inferInstanceAs (Decidable (_ ∧ _))

theorem AreKeys.isName {attributes : List (String × String)}
    (h : AreKeys (attributes.map Prod.fst)) : ∀ a ∈ attributes, IsName a.1 :=
  fun _ ha => h.2 _ (List.mem_map_of_mem ha)

section Inside

variable {name : String} {attributes : List (String × String)} {ending : List Char}

/-- A name ends where attributes begin, and where the tag does. -/
theorem isNameChar_of_head? (hending : ending = [] ∨ ending = ['/']) {c : Char}
    (h : ((attributesText attributes).toList ++ ending).head? = some c) :
    isNameChar c = false := by
  cases attributes with
  | nil =>
    rw [attributesText, List.map_nil, String.join_nil] at h
    obtain rfl | rfl := hending
    · cases h
    · cases h
      decide
  | cons a attributes =>
    rw [attributesText_cons_append] at h
    cases h
    decide

theorem element?_eq (hname : IsName name) (hkeys : AreKeys (attributes.map Prod.fst))
    (hending : ending = [] ∨ ending = ['/']) :
    element? (name.toList ++ ((attributesText attributes).toList ++ ending)) =
      if ending = [] then some (.opening name attributes) else some (.single name attributes) := by
  set rest := (attributesText attributes).toList ++ ending with hrest
  have hdrop : (name.toList ++ rest).dropWhile isNameChar = rest := by
    rw [List.dropWhile_append_of_pos hname.chars.2]
    exact Text.dropStart_eq_self fun c => isNameChar_of_head? hending
  have htake : (name.toList ++ rest).takeWhile isNameChar = name.toList := by
    have hboth := List.takeWhile_append_dropWhile (p := isNameChar) (l := name.toList ++ rest)
    rw [hdrop] at hboth
    exact List.append_cancel_right hboth
  have hquote : '"' ∉ ending := by
    obtain rfl | rfl := hending <;> decide
  rw [element?, htake, hdrop, hname, hrest, attributes?_attributesText hkeys.isName hquote]
  obtain rfl | rfl := hending <;> simp [hkeys.1]

/-- A tag that begins with a name is the tag of an element. -/
theorem inside?_name_append (hname : IsName name) (cs : List Char) :
    inside? (name.toList ++ cs) = element? (name.toList ++ cs) := by
  obtain ⟨c, rest, hrest⟩ := List.exists_cons_of_ne_nil hname.chars.1
  have hquestion : '?' ∉ name.toList := hname.not_mem (by decide)
  have hslash : '/' ∉ name.toList := hname.not_mem (by decide)
  rw [hrest, List.mem_cons, not_or] at hquestion hslash
  rw [hrest, List.cons_append, inside?]
  · exact fun _ heq => hquestion.1 (List.cons.inj heq).1.symm
  · exact fun _ heq => hslash.1 (List.cons.inj heq).1.symm

end Inside

/-- Reading such a text finds the tags ahead of those that follow it. -/
def Tagged (text : String) (ts : List Tag) : Prop :=
  ∀ rest more, tags? rest = some more → tags? (text.toList ++ rest) = some (ts ++ more)

theorem Tagged.append {text text' : String} {ts ts' : List Tag} (h : Tagged text ts)
    (h' : Tagged text' ts') : Tagged (text ++ text') (ts ++ ts') := fun rest more hrest => by
  rw [String.toList_append, List.append_assoc, List.append_assoc]
  exact h _ _ (h' rest more hrest)

theorem exists_of_tags? {cs : List Char} {ts : List Tag} (h : tags? cs = some ts) :
    ∃ before pieces, Text.splitBy (· == '<') cs = before :: pieces ∧
      (∀ c ∈ before, c.isWhitespace = true) ∧ pieces.mapM tag? = some ts := by
  rw [tags?] at h
  split at h
  · cases h
  · next before pieces hsplit =>
    split at h
    · next hbefore => exact ⟨before, pieces, hsplit, List.all_eq_true.mp hbefore, h⟩
    · cases h

theorem Tagged.blank {text : String} (h : text.toList.all Char.isWhitespace = true) :
    Tagged text [] := fun rest more hrest => by
  rw [List.all_eq_true] at h
  obtain ⟨before, pieces, hsplit, hbefore, hpieces⟩ := exists_of_tags? hrest
  have hplain : '<' ∉ text.toList := fun hmem => absurd (h '<' hmem) (by decide)
  have hall : (text.toList ++ before).all Char.isWhitespace = true := by
    simpa [or_imp, forall_and] using ⟨h, hbefore⟩
  rw [tags?, Text.splitBy_append (Text.beq_eq_false_of_not_mem hplain) hsplit, List.nil_append,
    ← hpieces]
  exact if_pos hall

theorem Tagged.tag {text : String} {body : List Char} {t : Tag}
    (htext : text.toList = '<' :: (body ++ ['>'])) (hbody : '<' ∉ body)
    (h : inside? body = some t) : Tagged text [t] := fun rest more hrest => by
  obtain ⟨before, pieces, hsplit, hbefore, hpieces⟩ := exists_of_tags? hrest
  have hplain : '<' ∉ body ++ ['>'] := by simpa using hbody
  have hcut : Text.splitBy (· == '<') (text.toList ++ rest) =
      [] :: (body ++ ['>'] ++ before) :: pieces := by
    have hmark : text.toList ++ rest = [] ++ '<' :: (body ++ ['>'] ++ rest) := by simp [htext]
    rw [hmark, Text.splitBy_append_cons (by simp) (by decide),
      Text.splitBy_append (Text.beq_eq_false_of_not_mem hplain) hsplit]
  have htag : tag? (body ++ ['>'] ++ before) = some t := by
    rw [tag?, Text.dropEnd_append hbefore (by simp)]
    simpa using h
  rw [tags?, hcut]
  simp only [List.mapM_cons, htag, hpieces]
  rfl

section Elements

variable {name : String} {attributes : List (String × String)}

theorem Tagged.element {ending : List Char} {text : String}
    (htext : text.toList =
      '<' :: (name.toList ++ (attributesText attributes).toList ++ ending ++ ['>']))
    (hname : IsName name) (hkeys : AreKeys (attributes.map Prod.fst))
    (hending : ending = [] ∨ ending = ['/']) :
    Tagged text [if ending = [] then .opening name attributes else .single name attributes] := by
  have hbody : '<' ∉ name.toList ++ (attributesText attributes).toList ++ ending := by
    have hin : '<' ∉ name.toList := hname.not_mem (by decide)
    obtain rfl | rfl := hending <;>
      simpa [hin] using lt_not_mem_attributesText hkeys.isName
  refine .tag htext hbody ?_
  rw [List.append_assoc, inside?_name_append hname, element?_eq hname hkeys hending]
  split <;> rfl

theorem Tagged.closing (hname : IsName name) : Tagged ("</" ++ name ++ ">") [.closing name] := by
  have hbody : '<' ∉ '/' :: name.toList := by
    simp [hname.not_mem (show isNameChar '<' = false by decide)]
  have hinside : inside? ('/' :: name.toList) = some (.closing name) := by
    rw [inside?, hname]
    rfl
  exact .tag (by simp) hbody hinside

/-- Such a text holds the elements, in whatever element it stands. -/
def Spells (text : String) (es : List Element) : Prop :=
  ∃ ts, Tagged text ts ∧ ∀ e opened, ts.foldlM step? (e :: opened) = some (e.add es :: opened)

theorem Spells.blank {text : String} (h : text.toList.all Char.isWhitespace = true) :
    Spells text [] :=
  ⟨[], .blank h, fun e opened => by simp⟩

theorem Spells.append {text text' : String} {es es' : List Element} (h : Spells text es)
    (h' : Spells text' es') : Spells (text ++ text') (es ++ es') := by
  obtain ⟨ts, htext, hts⟩ := h
  obtain ⟨ts', htext', hts'⟩ := h'
  refine ⟨ts ++ ts', htext.append htext', fun e opened => ?_⟩
  rw [List.foldlM_append, hts, Option.bind_eq_bind, Option.bind_some, hts', Element.add_add]

theorem Spells.between {text : String} {es : List Element} (h : Spells text es)
    (before after : String) (hbefore : before.toList.all Char.isWhitespace = true)
    (hafter : after.toList.all Char.isWhitespace = true) :
    Spells (before ++ text ++ after) es := by
  simpa using ((Spells.blank hbefore).append h).append (.blank hafter)

theorem Spells.single (hname : IsName name) (hkeys : AreKeys (attributes.map Prod.fst)) :
    Spells ("<" ++ name ++ attributesText attributes ++ "/>") [⟨name, attributes, []⟩] := by
  exact ⟨_, .element (by simp) hname hkeys (.inr rfl), fun e opened => rfl⟩

theorem Spells.element {text : String} {es : List Element} (hname : IsName name)
    (hkeys : AreKeys (attributes.map Prod.fst)) (h : Spells text es) :
    Spells ("<" ++ name ++ attributesText attributes ++ ">" ++ text ++ "</" ++ name ++ ">")
      [⟨name, attributes, es⟩] := by
  obtain ⟨ts, htext, hts⟩ := h
  have hopening : Tagged ("<" ++ name ++ attributesText attributes ++ ">")
      [.opening name attributes] :=
    Tagged.element (by simp) hname hkeys (.inl rfl)
  have hclosing := Tagged.closing hname
  refine ⟨[.opening name attributes] ++ (ts ++ [.closing name]), ?_, fun e opened => ?_⟩
  · simpa only [String.append_assoc] using hopening.append (htext.append hclosing)
  · have hopened : [Tag.opening name attributes].foldlM step? (e :: opened) =
        some (⟨name, attributes, []⟩ :: e :: opened) := rfl
    rw [List.foldlM_append, hopened, Option.bind_eq_bind, Option.bind_some,
      List.foldlM_append, hts]
    simp [step?, Element.add]

end Elements

/-- What a declaration and one element are read as. -/
theorem read?_of_spells {declaration text : String} {root : Element}
    (hdeclaration : '<' ∉ declaration.toList) (h : Spells text [root]) :
    read? ("<?" ++ declaration ++ "?>" ++ text) = some root := by
  obtain ⟨ts, htext, hts⟩ := h
  have hinside : inside? ('?' :: (declaration.toList ++ ['?'])) = some .declaration := by
    simp [inside?]
  have hfirst : Tagged ("<?" ++ declaration ++ "?>") [.declaration] :=
    .tag (by simp) (by simpa using hdeclaration) hinside
  have htags := hfirst.append htext [] [] rfl
  rw [List.append_nil, List.append_nil] at htags
  rw [read?, htags]
  simp [dropDeclaration, hts, Element.add]

-- Marks that break out of a value are not read over.
example : (read? "<a b=\"1 < 2\"/>").isNone = true := by cbv

example : (read? "<a b=\"1\" 2\"/>").isNone = true := by cbv

end Markup
end PodTraffic
