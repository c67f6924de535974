import PodTraffic.Job
import PodTraffic.Proofs.Text.Cut
import PodTraffic.Proofs.Text.Integer

/-!
# Commands are read back

A connection check is its own description: the target is read back from the command, the commands
from a script that runs many of them, and the exit codes from what the script prints.
-/
namespace PodTraffic

namespace CommandTarget

/-- A host that stands in a command as it is, with or without brackets around it. -/
structure IsPlainHost (host : String) : Prop where
  head : ∀ c, host.toList.head? = some c → c ≠ '[' ∧ c ≠ '-'
  last : host.toList.getLast? ≠ some ']'

theorem readPort?_toDigits {n : Nat} (h : n ≤ 65535) :
    readPort? (Nat.toDigits 10 n) = some n := Text.unsigned?_toDigits h

/-- What stands before the last colon is the host, in brackets if it holds a colon itself. -/
theorem cut_hostPort {host : String} (h : IsPlainHost host) (port : Nat) :
    ∃ written, Text.cutAtLast? ':' (hostPort host port).toList =
        some (written, Nat.toDigits 10 port) ∧
      Text.dropEnd (· == ']') (Text.dropStart (· == '[') written) = host.toList := by
  have hstart : ∀ c, host.toList.head? = some c → (c == '[') = false := by
    intro c hc
    simpa using (h.head c hc).1
  have hend : ∀ c, host.toList.getLast? = some c → (c == ']') = false := by
    intro c hc
    simpa using fun heq : c = ']' => h.last (by rw [hc, heq])
  have hport : ':' ∉ Nat.toDigits 10 port := Text.not_mem_toDigits (by decide) port
  unfold hostPort
  split
  · next hcolon =>
    refine ⟨'[' :: host.toList ++ [']'], ?_, ?_⟩
    · have hwritten : ("[" ++ host ++ "]:" ++ toString port).toList =
          ('[' :: host.toList ++ [']']) ++ ':' :: Nat.toDigits 10 port := by
        simp
      rw [hwritten, Text.cutAtLast?_append _ hport]
    · have hne : host.toList ≠ [] := by
        intro hnil
        simp [hnil] at hcolon
      have hhead : ∀ c, (host.toList ++ [']']).head? = some c → (c == '[') = false := by
        intro c hc
        rw [List.head?_append_of_ne_nil _ hne] at hc
        exact hstart c hc
      rw [List.cons_append, Text.dropStart_cons (by decide) hhead,
        Text.dropEnd_concat (by decide) hend]
  · refine ⟨host.toList, ?_, ?_⟩
    · have hwritten : (host ++ ":" ++ toString port).toList =
          host.toList ++ ':' :: Nat.toDigits 10 port := by
        simp
      rw [hwritten, Text.cutAtLast?_append _ hport]
    · rw [Text.dropStart_eq_self hstart, Text.dropEnd_eq_self hend]

theorem head?_hostPort {host : String} (h : IsPlainHost host) (port : Nat) :
    (hostPort host port).toList.head? ≠ some '-' := by
  unfold hostPort
  split
  · simp
  · cases hhost : host.toList with
    | nil => simp [hhost]
    | cons c cs =>
      have hc := (h.head c (by rw [hhost, List.head?_cons])).2
      simpa [hhost] using hc

/-- The protocol is read from the last argument, as no other one starts like it. -/
theorem protocolText_connect {host : String} (h : IsPlainHost host) (port : Nat)
    (protocol : String) :
    protocolText ["/agnhost", "connect", hostPort host port, "--timeout=1s",
      "--protocol=" ++ protocol] = protocol := by
  obtain ⟨rest, hflag⟩ : ∃ rest, "--protocol=".toList = '-' :: rest := ⟨_, rfl⟩
  have hhost : Text.after? "--protocol=".toList (hostPort host port).toList = none := by
    rw [hflag]
    exact Text.after?_eq_none (head?_hostPort h port)
  have hprogram : Text.after? "--protocol=".toList "/agnhost".toList = none := by decide
  have hverb : Text.after? "--protocol=".toList "connect".toList = none := by decide
  have htimeout : Text.after? "--protocol=".toList "--timeout=1s".toList = none := by decide
  simp only [protocolText, List.findSome?_cons, hprogram, hverb, hhost, htimeout,
    String.toList_append, Text.after?_append, Option.map_some, Option.getD_some,
    String.ofList_toList]

theorem ofConnect?_connect {host : String} (h : IsPlainHost host) {port : Nat}
    (hport : port ≤ 65535) (protocol : Protocol) :
    ofConnect? ["/agnhost", "connect", hostPort host port, "--timeout=1s",
      "--protocol=" ++ protocol.lowerName] = some ⟨host, port, protocol⟩ := by
  obtain ⟨written, hcut, htrim⟩ := cut_hostPort h port
  have hread : Protocol.read? protocol.lowerName = some protocol := by
    cases protocol <;> decide
  simp [ofConnect?, hcut, protocolText_connect h, hread, htrim, readPort?_toDigits hport]

/-- The target of a command is what the command was made for. -/
theorem ofCommand?_command {t : CommandTarget} (h : IsPlainHost t.host) (hport : t.port ≤ 65535) :
    ofCommand? t.command = some t := by
  obtain ⟨host, port, protocol⟩ := t
  cases protocol with
  | tcp => exact ofConnect?_connect h hport .tcp
  | sctp => exact ofConnect?_connect h hport .sctp
  | udp => simp [command, ofCommand?, ofNetcat?, readPort?_toDigits hport]

end CommandTarget

namespace Batch

/-- An argument that stands in a script between quotes. -/
def IsPlain (arg : String) : Prop := ∀ c ∈ arg.toList, Text.isBlank c = false ∧ c ≠ '\''

instance (arg : String) : Decidable (IsPlain arg) :=
  List.decidableBAll (fun c => Text.isBlank c = false ∧ c ≠ '\'') arg.toList

theorem IsPlain.append {s t : String} (hs : IsPlain s) (ht : IsPlain t) : IsPlain (s ++ t) := by
  intro c hc
  rw [String.toList_append] at hc
  rcases List.mem_append.mp hc with hc | hc
  · exact hs c hc
  · exact ht c hc

def quoted (arg : String) : List Char := '\'' :: arg.toList ++ ['\'']

theorem isBlank_of_isDigit {c : Char} (h : c.isDigit = true) : Text.isBlank c = false := by
  obtain ⟨hlow, hhigh⟩ := Char.isDigit_iff_toNat.mp h
  have h0 : '0'.toNat = 48 := rfl
  have h9 : '9'.toNat = 57 := rfl
  exact Text.isBlank_of_bounds (by omega) (by omega)

theorem isBlank_toDigits (n : Nat) : ∀ c ∈ Nat.toDigits 10 n, Text.isBlank c = false := fun _ hc =>
  isBlank_of_isDigit (Nat.isDigit_of_mem_toDigits (by decide) (by decide) hc)

theorem isPlain_toString (n : Nat) : IsPlain (toString n) := by
  intro c hc
  have hdigit : c ∈ Nat.toDigits 10 n := by simpa using hc
  refine ⟨isBlank_toDigits n c hdigit, ?_⟩
  rintro rfl
  exact Text.not_mem_toDigits (by decide) n hdigit

/-- The command for a plain host can be put into a script. -/
theorem isPlain_command {t : CommandTarget} (h : IsPlain t.host) :
    ∀ arg ∈ t.command, IsPlain arg := by
  have hport := isPlain_toString t.port
  have hhostPort : IsPlain (CommandTarget.hostPort t.host t.port) := by
    unfold CommandTarget.hostPort
    split
    · have hopen : IsPlain "[" := by decide
      have hclose : IsPlain "]:" := by decide
      exact ((hopen.append h).append hclose).append hport
    · have hcolon : IsPlain ":" := by decide
      exact (h.append hcolon).append hport
  have hconnect : ∀ protocol : Protocol, ∀ arg ∈ ["/agnhost", "connect",
      CommandTarget.hostPort t.host t.port, "--timeout=1s",
      "--protocol=" ++ protocol.lowerName], IsPlain arg := by
    intro protocol
    have hprotocol : IsPlain ("--protocol=" ++ protocol.lowerName) := by
      cases protocol <;> decide
    simp only [List.forall_mem_cons, List.not_mem_nil, false_implies, implies_true, and_true]
    exact ⟨by decide, by decide, hhostPort, by decide, hprotocol⟩
  unfold CommandTarget.command
  cases t.protocol with
  | tcp => exact hconnect .tcp
  | sctp => exact hconnect .sctp
  | udp =>
    simp only [List.forall_mem_cons, List.not_mem_nil, false_implies, implies_true, and_true]
    exact ⟨by decide, by decide, by decide, by decide, by decide, by decide, h, hport⟩

theorem trim_quoted {arg : String} (h : IsPlain arg) :
    String.ofList (Text.dropEnd isQuote (Text.dropStart isQuote (quoted arg))) = arg := by
  have hquote : ∀ c ∈ arg.toList, isQuote c = false := by
    intro c hc
    simpa [isQuote] using (h c hc).2
  cases harg : arg.toList with
  | nil =>
    have hempty : arg = "" := String.toList_injective harg
    subst hempty
    decide
  | cons first rest =>
    have hhead : ∀ c, (arg.toList ++ ['\'']).head? = some c → isQuote c = false := by
      intro c hc
      rw [harg, List.cons_append, List.head?_cons] at hc
      cases hc
      exact hquote first (by simp [harg])
    have hlast : ∀ c, arg.toList.getLast? = some c → isQuote c = false := fun c hc =>
      hquote c (List.mem_of_getLast? hc)
    rw [quoted, List.cons_append, Text.dropStart_cons (by decide) hhead,
      Text.dropEnd_concat (by decide) hlast, String.ofList_toList]

theorem quoted_piece {arg : String} (h : IsPlain arg) :
    quoted arg ≠ [] ∧ ∀ c ∈ quoted arg, Text.isBlank c = false := by
  refine ⟨by simp [quoted], fun c hc => ?_⟩
  simp only [quoted, List.cons_append, List.mem_cons, List.mem_append, List.not_mem_nil,
    or_false] at hc
  rcases hc with rfl | hc | rfl
  · decide
  · exact (h c hc).1
  · decide

theorem toList_line (index : Nat) (command : List String) :
    (line index command).toList =
      [' '].intercalate (command.map quoted) ++ (silence.toList ++ (marker.toList ++
        ' ' :: (Nat.toDigits 10 index ++ ' ' :: ['$', '?', '"']))) := by
  have hquoted : (fun arg : String => '\'' :: (arg.toList ++ ['\''])) = quoted := rfl
  simp [line, String.toList_intercalate, Function.comp_def, hquoted]

/-- The first word after the marker is the index. -/
theorem words_index (index : Nat) (tail : List Char) (hne : tail ≠ [])
    (htail : ∀ c ∈ tail, Text.isBlank c = false) :
    Text.words (' ' :: (Nat.toDigits 10 index ++ ' ' :: tail)) =
      [Nat.toDigits 10 index, tail] := by
  have hpieces : Text.words ([' '].intercalate [Nat.toDigits 10 index, tail]) =
      [Nat.toDigits 10 index, tail] := by
    refine Text.words_intercalate fun piece hpiece => ?_
    simp only [List.mem_cons, List.not_mem_nil, or_false] at hpiece
    rcases hpiece with rfl | rfl
    · exact ⟨Nat.toDigits_ne_nil, isBlank_toDigits index⟩
    · exact ⟨hne, htail⟩
  rw [Text.words_blank_cons]
  simpa [List.intercalate_cons_cons] using hpieces

/-- A line of a script gives its command back. -/
theorem parseLine?_line {index : Nat} {command : List String} (h : ∀ arg ∈ command, IsPlain arg)
    (hindex : index ≤ maxIndex) : parseLine? (line index command) = some (index, command) := by
  obtain ⟨pattern, hsilence⟩ : ∃ pattern, silence.toList = ' ' :: '>' :: pattern := ⟨_, rfl⟩
  have hpieces : ∀ piece ∈ command.map quoted, ' ' ∉ piece ∧ piece ≠ [] ∧
      piece.head? ≠ some '>' := by
    intro piece hpiece
    obtain ⟨arg, harg, rfl⟩ := List.mem_map.mp hpiece
    obtain ⟨hne, hblank⟩ := quoted_piece (h arg harg)
    refine ⟨fun hmem => absurd (hblank ' ' hmem) (by decide), hne, by simp [quoted]⟩
  have hcut : Text.cutAt? silence.toList (line index command).toList =
      some ([' '].intercalate (command.map quoted), marker.toList ++
        ' ' :: (Nat.toDigits 10 index ++ ' ' :: ['$', '?', '"'])) := by
    rw [toList_line, hsilence]
    exact Text.cutAt?_intercalate hpieces
  have hwords : Text.words ([' '].intercalate (command.map quoted)) = command.map quoted := by
    refine Text.words_intercalate fun piece hpiece => ?_
    obtain ⟨arg, harg, rfl⟩ := List.mem_map.mp hpiece
    exact quoted_piece (h arg harg)
  have htrim : command.map (fun arg =>
      String.ofList (Text.dropEnd isQuote (Text.dropStart isQuote (quoted arg)))) = command := by
    conv_rhs => rw [← List.map_id command]
    exact List.map_congr_left fun arg harg => trim_quoted (h arg harg)
  have htail : ∀ c ∈ ['$', '?', '"'], Text.isBlank c = false := by
    simp only [List.forall_mem_cons, List.not_mem_nil, false_implies, implies_true, and_true]
    decide
  simp [parseLine?, hcut, words_index index _ (by simp) htail, hwords,
    Text.unsigned?_toDigits hindex, Function.comp_def, htrim]

theorem isLine_line {index : Nat} {command : List String} (h : ∀ arg ∈ command, IsPlain arg) :
    Text.IsLine (line index command).toList := by
  rw [toList_line]
  constructor
  · simp only [List.mem_append, List.mem_cons, List.not_mem_nil, or_false]
    intro h
    rcases h with hmem | hmem | hmem | hmem | hmem | hmem
    · rcases Text.mem_of_mem_intercalate hmem with ⟨piece, hpiece, hmem⟩ | hmem
      · obtain ⟨arg, harg, rfl⟩ := List.mem_map.mp hpiece
        exact absurd ((quoted_piece (h arg harg)).2 '\n' hmem) (by decide)
      · simp at hmem
    · exact absurd hmem (by decide)
    · exact absurd hmem (by decide)
    · cases hmem
    · exact absurd (isBlank_toDigits index '\n' hmem) (by decide)
    · rcases hmem with hmem | hmem | hmem | hmem <;> cases hmem
  · have hlast : [' '].intercalate (command.map quoted) ++ (silence.toList ++ (marker.toList ++
          ' ' :: (Nat.toDigits 10 index ++ ' ' :: ['$', '?', '"']))) =
        ([' '].intercalate (command.map quoted) ++ (silence.toList ++ (marker.toList ++
          ' ' :: (Nat.toDigits 10 index ++ [' ', '$', '?'])))) ++ ['"'] := by
      simp
    rw [hlast, List.getLast?_concat]
    decide

/-- A script gives its commands back, each with its index. -/
theorem parseScript_script {commands : List (List String)}
    (h : ∀ command ∈ commands, ∀ arg ∈ command, IsPlain arg)
    (hlength : commands.length ≤ maxIndex + 1) :
    parseScript (script commands) = commands.zipIdx.map fun (command, i) => (i, command) := by
  have hlines : Text.lines (script commands) =
      commands.zipIdx.map fun (command, i) => line i command := by
    refine Text.lines_intercalate fun l hl => ?_
    obtain ⟨⟨command, i⟩, hmem, rfl⟩ := List.mem_map.mp hl
    have hcommand := List.fst_mem_of_mem_zipIdx hmem
    refine ⟨isLine_line (h command hcommand), fun hempty => ?_⟩
    have hchars := congrArg String.toList hempty
    rw [toList_line] at hchars
    simp at hchars
  rw [parseScript, hlines, List.filterMap_map, ← List.filterMap_eq_map]
  refine List.filterMap_congr fun ⟨command, i⟩ hmem => ?_
  have hi : i < commands.length := List.snd_lt_of_mem_zipIdx hmem
  exact parseLine?_line (h command (List.fst_mem_of_mem_zipIdx hmem)) (by omega)

/-- A line of results without its end. -/
def resultText (index code : Nat) : String :=
  marker ++ " " ++ toString index ++ " " ++ toString code

theorem toList_resultText (index code : Nat) :
    (resultText index code).toList =
      marker.toList ++ ' ' :: (Nat.toDigits 10 index ++ ' ' :: Nat.toDigits 10 code) := by
  simp [resultText]

theorem isLine_resultText (index code : Nat) : Text.IsLine (resultText index code).toList := by
  rw [toList_resultText]
  constructor
  · simp only [List.mem_append, List.mem_cons]
    intro h
    rcases h with hmem | hmem | hmem | hmem | hmem
    · exact absurd hmem (by decide)
    · cases hmem
    · exact absurd (isBlank_toDigits index '\n' hmem) (by decide)
    · cases hmem
    · exact absurd (isBlank_toDigits code '\n' hmem) (by decide)
  · intro hlast
    have hsplit : marker.toList ++ ' ' :: (Nat.toDigits 10 index ++ ' ' :: Nat.toDigits 10 code) =
        (marker.toList ++ ' ' :: (Nat.toDigits 10 index ++ [' '])) ++ Nat.toDigits 10 code := by
      simp
    rw [hsplit, List.getLast?_append_of_ne_nil _ Nat.toDigits_ne_nil] at hlast
    exact absurd (isBlank_toDigits code '\r' (List.mem_of_getLast? hlast)) (by decide)

theorem parseResult?_resultText {index code : Nat} (hindex : index ≤ maxIndex)
    (hcode : code ≤ 2147483647) :
    parseResult? (resultText index code) = some (index, (code : Int)) := by
  have hwords := words_index index (Nat.toDigits 10 code) Nat.toDigits_ne_nil
    (isBlank_toDigits code)
  have hread : Text.signed? (-2147483648) 2147483647 (Nat.toDigits 10 code) = some (code : Int) :=
    Text.signed?_toDigits (by omega) (by omega)
  simp [parseResult?, toList_resultText, hwords, Text.unsigned?_toDigits hindex, hread]

/-- Each index is printed once, so that the code of an index is the one printed with it. -/
theorem exitCode?_eq_some {codes : List (Nat × Int)} (h : (codes.map (·.1)).Nodup) {index : Nat}
    {code : Int} (hmem : (index, code) ∈ codes) : exitCode? codes index = some code := by
  obtain ⟨before, after, hsplit⟩ := List.append_of_mem (List.mem_reverse.mpr hmem)
  rw [exitCode?, List.lookup_eq_some_iff]
  refine ⟨before, after, hsplit, fun p hp => ?_⟩
  have hnodup : (codes.reverse.map (·.1)).Nodup := by
    rw [List.map_reverse]
    exact List.nodup_reverse.mpr h
  rw [hsplit, List.map_append, List.nodup_append] at hnodup
  have hne := hnodup.2.2 p.1 (List.mem_map_of_mem hp) index (by simp)
  simpa using hne.symm

variable {codes : List Nat} {output : String}

/-- The line begins like one that carries an exit code. -/
def isMarked (line : String) : Bool := marker.toList.isPrefixOf line.toList

/-- For each index there is one line with its exit code. Lines without the marker may stand before,
between and after them, and the last line may lack its end. -/
def Prints (codes : List Nat) (output : String) : Prop :=
  ∃ ls : List String, output = "\n".intercalate ls ∧ (∀ l ∈ ls, '\n' ∉ l.toList) ∧
    (ls.filter isMarked).Perm (codes.zipIdx.map fun (code, i) => resultText i code)

theorem parseResult?_of_unmarked {line : String} (h : isMarked line = false) :
    parseResult? line = none := by
  cases hafter : Text.after? marker.toList line.toList with
  | none => simp [parseResult?, hafter]
  | some rest =>
    have hprefix : isMarked line = true :=
      List.isPrefixOf_iff_prefix.mpr ⟨rest, (Text.eq_append_of_after? hafter).symm⟩
    rw [h] at hprefix
    cases hprefix

/-- A script by itself prints its codes in order. -/
theorem prints_resultLines (codes : List Nat) :
    Prints codes (String.join (codes.zipIdx.map fun e => resultLine e.2 e.1)) := by
  let results := codes.zipIdx.map fun (code, i) => resultText i code
  have hjoin : String.join (codes.zipIdx.map fun e => resultLine e.2 e.1) =
      "\n".intercalate (results ++ [""]) := by
    rw [← Text.unlines_eq_intercalate, Text.unlines, List.map_map]
    rfl
  have hmarked : results.filter isMarked = results := by
    refine List.filter_eq_self.mpr fun l hl => ?_
    obtain ⟨⟨code, i⟩, -, rfl⟩ := List.mem_map.mp hl
    rw [isMarked, toList_resultText, List.isPrefixOf_iff_prefix]
    exact List.prefix_append _ _
  refine ⟨results ++ [""], hjoin, fun l hl => ?_, ?_⟩
  · rcases List.mem_append.mp hl with hl | hl
    · obtain ⟨⟨code, i⟩, -, rfl⟩ := List.mem_map.mp hl
      exact (isLine_resultText i code).1
    · rw [List.mem_singleton.mp hl]
      decide
  · have hempty : [""].filter isMarked = [] := by decide
    rw [List.filter_append, hmarked, hempty, List.append_nil]

theorem parseResult?_concat_return (cs : List Char) :
    parseResult? (String.ofList (cs ++ ['\r'])) = parseResult? (String.ofList cs) := by
  have hafter : Text.after? marker.toList (cs ++ ['\r']) =
      (Text.after? marker.toList cs).map (· ++ ['\r']) := Text.after?_concat (by decide) cs
  have hblank : Text.isBlank '\r' = true := by decide
  cases hrest : Text.after? marker.toList cs with
  | none => simp [parseResult?, hafter, hrest]
  | some rest => simp [parseResult?, hafter, hrest, Text.words_concat_blank hblank]

/-- How lines end makes no difference to the codes on them. -/
theorem parseOutput_eq (output : String) : parseOutput output =
    (Text.splitBy (· == '\n') output.toList).filterMap fun piece =>
      parseResult? (String.ofList piece) := by
  have hreturn : ∀ piece : List Char, parseResult? (String.ofList
      (if piece.getLast? == some '\r' then piece.dropLast else piece)) =
        parseResult? (String.ofList piece) := by
    intro piece
    split
    · next hlast =>
      obtain ⟨before, rfl⟩ : ∃ before, piece = before ++ ['\r'] :=
        List.getLast?_eq_some_iff.mp (eq_of_beq hlast)
      rw [List.dropLast_concat, parseResult?_concat_return]
    · rfl
  have hempty : parseResult? "" = none := by decide
  have hrest : ∀ last : List Char,
      ((some last).filter (!·.isEmpty)).toList.filterMap (fun piece =>
        parseResult? (String.ofList piece)) =
      [last].filterMap fun piece => parseResult? (String.ofList piece) := by
    rintro (_ | ⟨c, cs⟩)
    · simp [hempty]
    · rfl
  rcases List.eq_nil_or_concat (Text.splitBy (· == '\n') output.toList) with
    hpieces | ⟨closed, last, hpieces⟩
  · exact absurd hpieces (Text.splitBy_ne_nil _ _)
  · rw [List.concat_eq_append] at hpieces
    rw [parseOutput, Text.lines, hpieces]
    simp only [List.dropLast_concat, List.getLast?_concat, List.map_append, List.filterMap_append,
      List.map_map, List.filterMap_map, Function.comp_def, hreturn, hrest]

theorem parseOutput_intercalate {ls : List String} (h : ∀ l ∈ ls, '\n' ∉ l.toList) :
    parseOutput ("\n".intercalate ls) = ls.filterMap parseResult? := by
  by_cases hne : ls = []
  · subst hne
    decide
  · have hsplit : Text.splitBy (· == '\n') ("\n".intercalate ls).toList = ls.map String.toList := by
      rw [String.toList_intercalate]
      refine Text.splitBy_intercalate (fun piece hpiece => ?_) (by decide) (by simpa using hne)
      obtain ⟨l, hl, rfl⟩ := List.mem_map.mp hpiece
      exact Text.beq_eq_false_of_not_mem (h l hl)
    rw [parseOutput_eq, hsplit, List.filterMap_map]
    simp

/-- The codes are read back with their indices, in whatever order they were printed. -/
theorem Prints.parseOutput_perm (h : Prints codes output) (hlength : codes.length ≤ maxIndex + 1)
    (hcodes : ∀ code ∈ codes, code < 2 ^ 31) :
    (parseOutput output).Perm (codes.zipIdx.map fun (code, i) => (i, (code : Int))) := by
  obtain ⟨ls, rfl, hlines, hperm⟩ := h
  have hmarked : ls.filterMap parseResult? = (ls.filter isMarked).filterMap parseResult? := by
    rw [List.filterMap_filter]
    refine List.filterMap_congr fun l _ => ?_
    cases hl : isMarked l with
    | true => simp
    | false => simp [parseResult?_of_unmarked hl]
  have hread : (codes.zipIdx.map fun (code, i) => resultText i code).filterMap parseResult? =
      codes.zipIdx.map fun (code, i) => (i, (code : Int)) := by
    rw [List.filterMap_map, ← List.filterMap_eq_map]
    refine List.filterMap_congr fun ⟨code, i⟩ hmem => ?_
    have hi : i < codes.length := List.snd_lt_of_mem_zipIdx hmem
    have hcode := hcodes code (List.fst_mem_of_mem_zipIdx hmem)
    exact parseResult?_resultText (by omega) (by omega)
  rw [parseOutput_intercalate hlines, hmarked, ← hread]
  exact hperm.filterMap parseResult?

/-- An index has the code that was printed with it, and other numbers have none. -/
theorem Prints.exitCode?_eq (h : Prints codes output) (hlength : codes.length ≤ maxIndex + 1)
    (hcodes : ∀ code ∈ codes, code < 2 ^ 31) (i : Nat) :
    exitCode? (parseOutput output) i = codes[i]?.map Int.ofNat := by
  have hperm := h.parseOutput_perm hlength hcodes
  cases hcode : codes[i]? with
  | some code =>
    have hnodup : ((parseOutput output).map (·.1)).Nodup := by
      rw [(hperm.map _).nodup_iff, List.map_map]
      change (codes.zipIdx.map (·.2)).Nodup
      rw [List.zipIdx_map_snd]
      exact List.nodup_range'
    refine exitCode?_eq_some hnodup (hperm.mem_iff.mpr ?_)
    exact List.mem_map.mpr ⟨(code, i), List.mem_zipIdx_iff_getElem?.mpr hcode, rfl⟩
  | none =>
    rw [exitCode?, Option.map_none, List.lookup_eq_none_iff]
    intro e he
    obtain ⟨⟨code, i'⟩, hmem, rfl⟩ := List.mem_map.mp (hperm.mem_iff.mp (List.mem_reverse.mp he))
    have hsome := List.mem_zipIdx_iff_getElem?.mp hmem
    simp only [bne_iff_ne]
    rintro rfl
    rw [hcode] at hsome
    cases hsome

end Batch
end PodTraffic
