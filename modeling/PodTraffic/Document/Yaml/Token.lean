import PodTraffic.Text

/-!
# YAML tokens

The tokens of a YAML stream. In block context, deeper columns open sequences and mappings and
shallower ones close them; a token is a key when a colon follows it on its line, so that the marks
of a key are put before tokens already read. Every step takes at least one character or ends the
stream.
-/
namespace PodTraffic.Yaml

inductive Token where
  | documentStart
  | documentEnd
  /-- Opens a block sequence; closed by `blockEnd`. -/
  | blockSequence
  | blockMapping
  | blockEnd
  | flowSequence
  | flowMapping
  | flowSequenceEnd
  | flowMappingEnd
  /-- A dash before an entry of a block sequence. -/
  | entry
  /-- A comma between entries in flow context. -/
  | comma
  | key
  | value
  | reference (name : String)
  | anchor (name : String)
  /-- The handle stands for the start of the tag; an empty one for nothing. -/
  | tag (handle suffix : String)
  | scalar (text : String) (plain : Bool)
  | version (major minor : Nat)
  /-- What a handle stands for. -/
  | tagHandle (handle start : String)
  deriving DecidableEq, Repr

/-- A token that becomes a key if a colon follows. -/
structure Candidate where
  position : Nat
  /-- Of its first byte. -/
  offset : Nat
  line : Nat
  column : Nat
  /-- Nothing but a key can stand there. -/
  required : Bool

structure Scanner where
  rest : List Char
  /-- How many bytes are read. -/
  offset : Nat := 0
  line : Nat := 0
  column : Nat := 0
  keyAllowed : Bool := true
  indent : Int := -1
  /-- The indents around the current one. -/
  indents : List Int := []
  /-- The candidate of every open flow level, innermost first; the last is for block context. -/
  candidates : List (Option Candidate) := [none]
  /-- Tokens found so far, backwards. -/
  tokens : List Token := []

def isBreak (c : Char) : Bool :=
  c == '\n' || c == '\r' || c.toNat == 0x85 || c.toNat == 0x2028 || c.toNat == 0x2029

def isBlank (c : Char) : Bool := c == ' ' || c == '\t'

/-- A blank, a line break, or the end. -/
def endsWord : List Char → Bool
  | [] => true
  | c :: _ => isBlank c || isBreak c

def isAllowed (c : Char) : Bool :=
  let n := c.toNat
  n == 0x9 || n == 0xA || n == 0xD || (0x20 ≤ n && n ≤ 0x7E) || n == 0x85 ||
    (0xA0 ≤ n && n ≤ 0xFFFD) || 0x10000 ≤ n

def isByteOrderMark (c : Char) : Bool := c.toNat == 0xFEFF

def isNameChar (c : Char) : Bool := c.isAlphanum || c == '-' || c == '_'

namespace Scanner

def flow (s : Scanner) : Bool := s.candidates.length > 1

def peek (s : Scanner) : Option Char := s.rest.head?

def looksAt (s : Scanner) (c : Char) : Bool := s.rest.head? == some c

def atBreak (s : Scanner) : Bool := s.rest.head?.any isBreak

def atBlank (s : Scanner) : Bool := s.rest.head?.any isBlank

def skip (s : Scanner) (n : Nat) : Scanner :=
  { s with
    rest := s.rest.drop n
    offset := (s.rest.take n).foldl (· + ·.utf8Size) s.offset
    column := s.column + n }

def skipWhile (s : Scanner) (p : Char → Bool) : Scanner := s.skip (s.rest.takeWhile p).length

def skipToBreak (s : Scanner) : Scanner := s.skipWhile fun c => !isBreak c

/-- Past a line break; a carriage return and a line feed are one. -/
def skipLine (s : Scanner) : Scanner :=
  let rest := match s.rest with
    | '\r' :: '\n' :: rest => rest
    | rest => rest.drop 1
  { s with rest, line := s.line + 1, column := 0 }

/-- The line break ahead as it counts in a text. -/
def breakText (s : Scanner) : List Char :=
  match s.rest with
  | c :: _ => if c.toNat == 0x2028 || c.toNat == 0x2029 then [c] else ['\n']
  | [] => []

/-- Three dashes or dots that stand alone at the start of a line. -/
def atDocumentMark (s : Scanner) (c : Char) : Bool :=
  s.column == 0 && s.rest.take 3 == [c, c, c] && endsWord (s.rest.drop 3)

def atAnyDocumentMark (s : Scanner) : Bool := s.atDocumentMark '-' || s.atDocumentMark '.'

def emit (s : Scanner) (t : Token) : Scanner := { s with tokens := t :: s.tokens }

/-- Put a token before those found since `position`. -/
def insertAt (s : Scanner) (position : Nat) (t : Token) : Scanner :=
  let later := s.tokens.length - position
  { s with tokens := s.tokens.take later ++ t :: s.tokens.drop later }

def rollIndent (s : Scanner) (column position : Nat) (t : Token) : Scanner :=
  if !s.flow && s.indent < column then
    { s.insertAt position t with indent := column, indents := s.indent :: s.indents }
  else s

def unrollIndents (column : Int) : List Int → Scanner → Scanner
  | [], s => s
  | outer :: indents, s =>
    if s.indent > column then
      unrollIndents column indents { s.emit .blockEnd with indent := outer, indents }
    else s

def unrollIndent (s : Scanner) (column : Int) : Scanner :=
  if s.flow then s else unrollIndents column s.indents s

/-- Forget the candidate here; one that had to be a key is an error. -/
def dropCandidate (s : Scanner) : Option Scanner :=
  match s.candidates with
  | some c :: outer => if c.required then none else some { s with candidates := none :: outer }
  | _ => some s

def saveCandidate (s : Scanner) : Option Scanner :=
  if s.keyAllowed then do
    let s ← s.dropCandidate
    let here : Candidate :=
      ⟨s.tokens.length, s.offset, s.line, s.column, !s.flow && s.indent == (s.column : Int)⟩
    some { s with candidates := some here :: s.candidates.drop 1 }
  else some s

/-- The longest key, in bytes. -/
def keyLimit : Nat := 1024

/-- Keys stand on one line and are not too long. -/
def dropStale (s : Scanner) : Option Scanner := do
  let kept ← s.candidates.mapM fun
    | some c =>
      if c.line < s.line || c.offset + keyLimit < s.offset then
        if c.required then none else some none
      else some (some c)
    | none => some none
  some { s with candidates := kept }

/-- A byte order mark may start a line. -/
def skipToToken (fuel : Nat) (s : Scanner) : Scanner :=
  match fuel with
  | 0 => s
  | fuel + 1 =>
    match s.peek with
    | some ' ' => skipToToken fuel (s.skip 1)
    | some '\t' => if s.flow || !s.keyAllowed then skipToToken fuel (s.skip 1) else s
    | some '#' => skipToToken fuel s.skipToBreak
    | some c =>
      if isByteOrderMark c && s.column == 0 then skipToToken fuel (s.skip 1)
      else if isBreak c then
        let s := s.skipLine
        skipToToken fuel { s with keyAllowed := s.keyAllowed || !s.flow }
      else s
    | none => s

/-- The blanks and breaks between two words: blanks as written, the first break, the others. -/
structure Gap where
  blanks : List Char := []
  first : Option (List Char) := none
  others : List Char := []

/-- One break is a space, of several the first is dropped. -/
def Gap.text (g : Gap) : List Char :=
  match g.first with
  | none => g.blanks
  | some ['\n'] => if g.others.isEmpty then [' '] else g.others
  | some first => first ++ g.others

/-- Fails on a tab left of `indent` after a break. -/
def readGap (fuel : Nat) (indent : Int) (g : Gap) (s : Scanner) : Option (Gap × Scanner) :=
  match fuel with
  | 0 => none
  | fuel + 1 =>
    if s.atBlank then
      if g.first.isNone then
        readGap fuel indent { g with blanks := g.blanks ++ s.rest.take 1 } (s.skip 1)
      else if s.column < indent && s.looksAt '\t' then none
      else readGap fuel indent g (s.skip 1)
    else if s.atBreak then
      let g : Gap := match g.first with
        | none => { blanks := [], first := some s.breakText }
        | some _ => { g with others := g.others ++ s.breakText }
      readGap fuel indent g s.skipLine
    else some (g, s)

/-- Whether a plain scalar ends before this character; in flow context a colon before an indicator
is an error. -/
def endsPlain (s : Scanner) : Option Bool :=
  match s.rest with
  | [] => some true
  | c :: rest =>
    if endsWord s.rest then some true
    else if c == ':' then
      let indicators := [',', '?', '[', ']', '\x7b', '\x7d']
      if s.flow && rest.head?.any indicators.contains then none
      else some (endsWord rest)
    else some (s.flow && [',', '[', ']', '\x7b', '\x7d'].contains c)

def readPlainWord (fuel : Nat) (read : List Char) (s : Scanner) : Option (List Char × Scanner) :=
  match fuel with
  | 0 => none
  | fuel + 1 => do
    if ← s.endsPlain then some (read.reverse, s)
    else readPlainWord fuel (s.rest.take 1 ++ read) (s.skip 1)

/-- `read` ends with a word; what follows it is a gap and more words, or the end. -/
def readPlain (fuel : Nat) (indent : Int) (gap : Gap) (read : List Char) (s : Scanner) :
    Option (List Char × Scanner) :=
  match fuel with
  | 0 => none
  | fuel + 1 =>
    let stop := if gap.first.isSome then { s with keyAllowed := true } else s
    let outside := !s.flow && s.column < indent && gap.first.isSome
    if s.atAnyDocumentMark || s.looksAt '#' || outside then some (read, stop)
    else do
      let (word, after) ← s.readPlainWord (s.rest.length + 1) []
      if word.isEmpty then some (read, stop)
      else
        let read := read ++ gap.text ++ word
        if after.atBlank || after.atBreak then
          let (gap, next) ← readGap (after.rest.length + 1) indent {} after
          readPlain fuel indent gap read next
        else some (read, after)

def fetchPlain (s : Scanner) : Option Scanner := do
  let s ← s.saveCandidate
  let (text, s) ← readPlain (s.rest.length + 1) (s.indent + 1) {} [] { s with keyAllowed := false }
  some (s.emit (.scalar (String.ofList text) true))

def escapes : List (Char × Nat) :=
  [('0', 0), ('a', 7), ('b', 8), ('t', 9), ('\t', 9), ('n', 10), ('v', 11), ('f', 12), ('r', 13),
    ('e', 27), (' ', 32), ('"', 34), ('/', 47), ('\\', 92), ('N', 0x85), ('_', 0xA0), ('L', 0x2028),
    ('P', 0x2029)]

/-- The character of an escape and how many characters stand for it, the backslash apart. -/
def readEscape (cs : List Char) : Option (Char × Nat) := do
  let c ← cs.head?
  match escapes.lookup c with
  | some n => some (Char.ofNat n, 1)
  | none =>
    let count ← [('x', 2), ('u', 4), ('U', 8)].lookup c
    let digits := (cs.drop 1).take count
    let n ← Text.digits? 16 digits
    if digits.length == count && n.isValidChar then some (Char.ofNat n, count + 1) else none

def readQuoted (fuel : Nat) (single : Bool) (read : List Char) (s : Scanner) :
    Option (List Char × Scanner) :=
  match fuel with
  | 0 => none
  | fuel + 1 =>
    match s.rest with
    | [] => none
    | c :: rest =>
      if s.atAnyDocumentMark then none
      else if isBlank c || isBreak c then do
        let (gap, s) ← readGap (s.rest.length + 1) (-1) {} s
        readQuoted fuel single (read ++ gap.text) s
      else if single && c == '\'' && rest.head? == some '\'' then
        readQuoted fuel single (read ++ ['\'']) (s.skip 2)
      else if c == (if single then '\'' else '"') then some (read, s.skip 1)
      else if !single && c == '\\' then
        if rest.head?.any isBreak then do
          let (gap, s) ←
            readGap (s.rest.length + 1) (-1) { first := some [] } (s.skip 1).skipLine
          readQuoted fuel single (read ++ gap.text) s
        else do
          let (c, used) ← readEscape rest
          readQuoted fuel single (read ++ [c]) (s.skip (used + 1))
      else readQuoted fuel single (read ++ [c]) (s.skip 1)

def fetchQuoted (single : Bool) (s : Scanner) : Option Scanner := do
  let s ← s.saveCandidate
  let s := { s with keyAllowed := false }
  let (text, s) ← readQuoted (s.rest.length + 1) single [] (s.skip 1)
  some (s.emit (.scalar (String.ofList text) false))

/-- Which of the breaks at the end of a block scalar stay. -/
inductive Chomping where
  | strip
  | clip
  | keep
  deriving DecidableEq

structure BlockHeader where
  chomping : Chomping := .clip
  increment : Nat := 0

/-- At most one sign and one digit, in any order. -/
def readBlockHeader (s : Scanner) : Option (BlockHeader × Scanner) :=
  let sign? (c : Char) : Option Chomping :=
    if c == '+' then some .keep else if c == '-' then some .strip else none
  let digit? (c : Char) : Option Nat := if c.isDigit then some (c.toNat - 48) else none
  let (chomping, increment, used) : Option Chomping × Option Nat × Nat := match s.rest with
    | c :: d :: _ =>
      match sign? c, digit? c with
      | some sign, _ => (some sign, digit? d, if (digit? d).isSome then 2 else 1)
      | none, some n => (sign? d, some n, if (sign? d).isSome then 2 else 1)
      | none, none => (none, none, 0)
    | [c] => (sign? c, digit? c, if (sign? c).isSome || (digit? c).isSome then 1 else 0)
    | [] => (none, none, 0)
  if increment == some 0 then none
  else some (⟨chomping.getD .clip, increment.getD 0⟩, s.skip used)

/-- Empty lines and the indentation of the next one; `deepest` is the deepest column seen while
the indentation of the scalar is not known. -/
def readBlockBreaks (fuel : Nat) (indent : Option Nat) (deepest : Nat) (breaks : List Char)
    (s : Scanner) : Option (Nat × List Char × Scanner) :=
  match fuel with
  | 0 => none
  | fuel + 1 =>
    let spaces := (s.rest.takeWhile (· == ' ')).length
    let s := s.skip (match indent with
      | none => spaces
      | some n => min spaces (n - s.column))
    let deepest := max deepest s.column
    if s.looksAt '\t' && (indent.all (s.column < ·)) then none
    else if s.atBreak then readBlockBreaks fuel indent deepest (breaks ++ s.breakText) s.skipLine
    else some (deepest, breaks, s)

def readBlockLines (fuel : Nat) (literal : Bool) (indent : Nat) (read first others : List Char)
    (blankLine : Bool) (s : Scanner) : Option (List Char × List Char × List Char × Scanner) :=
  match fuel with
  | 0 => none
  | fuel + 1 =>
    if s.column != indent || s.rest.isEmpty then some (read, first, others, s)
    else do
      let startsBlank := s.atBlank
      let joint :=
        if !literal && first == ['\n'] && !blankLine && !startsBlank then
          if others.isEmpty then [' '] else []
        else first
      let line := s.rest.takeWhile fun c => !isBreak c
      let after := s.skip line.length
      let first := after.breakText
      let next := if after.atBreak then after.skipLine else after
      let (_, breaks, next) ← readBlockBreaks (next.rest.length + 1) (some indent) 0 [] next
      readBlockLines fuel literal indent (read ++ joint ++ others ++ line) first breaks startsBlank
        next

def fetchBlock (literal : Bool) (s : Scanner) : Option Scanner := do
  let s ← s.dropCandidate
  let (header, s) ← readBlockHeader ({ s with keyAllowed := true }.skip 1)
  let s := s.skipWhile isBlank
  let s := if s.looksAt '#' then s.skipToBreak else s
  if !s.rest.isEmpty && !s.atBreak then none
  let s := if s.atBreak then s.skipLine else s
  let outer := s.indent.toNat
  let given := if header.increment = 0 then none else some (outer + header.increment)
  let (deepest, breaks, s) ← readBlockBreaks (s.rest.length + 1) given 0 [] s
  let indent := given.getD (max deepest (max (s.indent + 1).toNat 1))
  let (read, first, others, s) ←
    readBlockLines (s.rest.length + 1) literal indent [] [] breaks false s
  let text := match header.chomping with
    | .strip => read
    | .clip => read ++ first
    | .keep => read ++ first ++ others
  some (s.emit (.scalar (String.ofList text) false))

def fetchDocumentMark (t : Token) (s : Scanner) : Option Scanner := do
  let s ← (s.unrollIndent (-1)).dropCandidate
  some (({ s with keyAllowed := false }.emit t).skip 3)

def fetchFlowStart (t : Token) (s : Scanner) : Option Scanner := do
  let s ← s.saveCandidate
  some (({ s with candidates := none :: s.candidates, keyAllowed := true }.emit t).skip 1)

def fetchFlowEnd (t : Token) (s : Scanner) : Option Scanner := do
  let s ← s.dropCandidate
  let candidates := if s.flow then s.candidates.drop 1 else s.candidates
  some (({ s with candidates, keyAllowed := false }.emit t).skip 1)

def fetchComma (s : Scanner) : Option Scanner := do
  let s ← s.dropCandidate
  some (({ s with keyAllowed := true }.emit .comma).skip 1)

/-- A dash or question mark may open its collection here only where a key could stand. -/
def fetchIndicator (collection t : Token) (s : Scanner) : Option Scanner := do
  if !s.flow && !s.keyAllowed then none
  let s ← (s.rollIndent s.column s.tokens.length collection).dropCandidate
  some (({ s with keyAllowed := t == Token.entry || !s.flow }.emit t).skip 1)

def fetchValue (s : Scanner) : Option Scanner :=
  match s.candidates with
  | some c :: outer =>
    let s := (s.insertAt c.position .key).rollIndent c.column c.position .blockMapping
    some (({ s with candidates := none :: outer, keyAllowed := false }.emit .value).skip 1)
  | _ =>
    if !s.flow && !s.keyAllowed then none
    else
      let s := s.rollIndent s.column s.tokens.length .blockMapping
      some (({ s with keyAllowed := !s.flow }.emit .value).skip 1)

def fetchName (make : String → Token) (s : Scanner) : Option Scanner := do
  let s ← s.saveCandidate
  let name := (s.rest.drop 1).takeWhile isNameChar
  let s := { s with keyAllowed := false }.skip (name.length + 1)
  let ended := endsWord s.rest ||
    s.rest.head?.any fun c => ['?', ':', ',', ']', '\x7d', '%', '@', '\x60'].contains c
  if name.isEmpty || !ended then none else some (s.emit (make (String.ofList name)))

def isUriChar (c : Char) : Bool := isNameChar c || ";/?:@&=+$.%!~*'()".contains c

/-- Also inside angle brackets and for the start that a handle stands for. -/
def isOpenUriChar (c : Char) : Bool := isUriChar c || c == ',' || c == '[' || c == ']'

/-- The byte after a percent sign. -/
def readOctet : List Char → Option (Nat × List Char)
  | '%' :: high :: low :: rest => do return (← Text.digits? 16 [high, low], rest)
  | _ => none

/-- `count` more bytes of a character. -/
def readOctets (value : Nat) : (count : Nat) → List Char → Option (Nat × List Char)
  | 0, cs => some (value, cs)
  | count + 1, cs => do
    let (octet, cs) ← readOctet cs
    if octet / 64 = 2 then readOctets (value * 64 + octet % 64) count cs else none

/-- A character written as its bytes. -/
def readUriEscape (cs : List Char) : Option (Char × List Char) := do
  let (first, cs) ← readOctet cs
  let (value, count) ←
    if first < 0x80 then some (first, 0)
    else if first / 0x20 = 6 then some (first % 0x20, 1)
    else if first / 0x10 = 14 then some (first % 0x10, 2)
    else if first / 8 = 30 then some (first % 8, 3)
    else none
  let (value, cs) ← readOctets value count cs
  if value.isValidChar && (Char.ofNat value).utf8Size = count + 1 then
    some (Char.ofNat value, cs)
  else none

/-- The characters of a URI with its escapes resolved. -/
def readUri (fuel : Nat) (allowed : Char → Bool) (read cs : List Char) :
    Option (List Char × List Char) :=
  match fuel with
  | 0 => none
  | fuel + 1 =>
    match cs with
    | '%' :: _ => do
      let (c, cs) ← readUriEscape cs
      readUri fuel allowed (c :: read) cs
    | c :: rest =>
      if allowed c then readUri fuel allowed (c :: read) rest else some (read.reverse, cs)
    | [] => some (read.reverse, cs)

/-- The next characters as a URI; `head` stands before it, and one of both is not empty. -/
def takeUri (allowed : Char → Bool) (head : List Char) (s : Scanner) :
    Option (List Char × Scanner) := do
  let (uri, rest) ← readUri (s.rest.length + 1) allowed [] s.rest
  let after := s.skip (s.rest.length - rest.length)
  if head.isEmpty && after.column == s.column then none else some (head.drop 1 ++ uri, after)

/-- An exclamation mark, and maybe a name and another mark. -/
def takeHandle (s : Scanner) : Option (List Char × Scanner) :=
  if s.looksAt '!' then
    let name := (s.rest.drop 1).takeWhile isNameChar
    let after := s.skip (name.length + 1)
    if after.looksAt '!' then some ('!' :: name ++ ['!'], after.skip 1)
    else some ('!' :: name, after)
  else none

def isHandle (handle : List Char) : Bool := handle.length > 1 && handle.getLast? == some '!'

/-- In angle brackets, after a handle, or after one mark; a mark alone is a tag of its own. -/
def takeTag (s : Scanner) : Option (Token × Scanner) := do
  if s.rest.take 2 == ['!', '<'] then
    let (uri, s) ← takeUri isOpenUriChar [] (s.skip 2)
    if s.looksAt '>' then some (.tag "" (String.ofList uri), s.skip 1) else none
  else
    let (handle, s) ← s.takeHandle
    if isHandle handle then
      let (uri, s) ← takeUri isUriChar [] s
      some (.tag (String.ofList handle) (String.ofList uri), s)
    else
      let (uri, s) ← takeUri isUriChar handle s
      some (if uri.isEmpty then .tag "" "!" else .tag "!" (String.ofList uri), s)

def fetchTag (s : Scanner) : Option Scanner := do
  let s ← s.saveCandidate
  let (tag, s) ← s.takeTag
  if endsWord s.rest || (s.flow && s.looksAt ',') then
    some ({ s with keyAllowed := false }.emit tag)
  else none

/-- At most nine digits. -/
def takeNumber (s : Scanner) : Option (Nat × Scanner) := do
  let digits := s.rest.takeWhile Char.isDigit
  if 9 < digits.length then none
  some (← Text.digits? 10 digits, s.skip digits.length)

def takeVersion (s : Scanner) : Option (Token × Scanner) := do
  let (major, s) ← (s.skipWhile isBlank).takeNumber
  if !s.looksAt '.' then none
  let (minor, s) ← (s.skip 1).takeNumber
  some (.version major minor, s)

def takeTagHandle (s : Scanner) : Option (Token × Scanner) := do
  let (handle, s) ← (s.skipWhile isBlank).takeHandle
  if !(handle == ['!'] || isHandle handle) || !s.atBlank then none
  let (start, s) ← takeUri isOpenUriChar [] (s.skipWhile isBlank)
  if endsWord s.rest then some (.tagHandle (String.ofList handle) (String.ofList start), s)
  else none

/-- A directive takes its line, at the end of which a comment may stand. -/
def fetchDirective (s : Scanner) : Option Scanner := do
  let s ← (s.unrollIndent (-1)).dropCandidate
  let s := { s with keyAllowed := false }.skip 1
  let name := s.rest.takeWhile isNameChar
  let s := s.skip name.length
  if !endsWord s.rest then none
  let (token, s) ←
    if name == "YAML".toList then s.takeVersion
    else if name == "TAG".toList then s.takeTagHandle
    else none
  let s := s.skipWhile isBlank
  let s := if s.looksAt '#' then s.skipToBreak else s
  if s.rest.isEmpty then some (s.emit token)
  else if s.atBreak then some (s.skipLine.emit token)
  else none

def startsPlain (s : Scanner) : Bool :=
  match s.rest with
  | [] => false
  | c :: rest =>
    let indicators :=
      ['-', '?', ':', ',', '[', ']', '\x7b', '\x7d', '#', '&', '*', '!', '|', '>', '\'', '"', '%',
        '@', '\x60']
    (!endsWord s.rest && !indicators.contains c) ||
      (c == '-' && !rest.head?.any isBlank) ||
      (!s.flow && (c == '?' || c == ':') && !endsWord rest)

def fetch (s : Scanner) : Option Scanner :=
  let alone := endsWord (s.rest.drop 1)
  if s.column == 0 && s.looksAt '%' then s.fetchDirective
  else if s.atDocumentMark '-' then s.fetchDocumentMark .documentStart
  else if s.atDocumentMark '.' then s.fetchDocumentMark .documentEnd
  else
    match s.peek with
    | some '[' => s.fetchFlowStart .flowSequence
    | some '\x7b' => s.fetchFlowStart .flowMapping
    | some ']' => s.fetchFlowEnd .flowSequenceEnd
    | some '\x7d' => s.fetchFlowEnd .flowMappingEnd
    | some ',' => s.fetchComma
    | some '*' => s.fetchName .reference
    | some '&' => s.fetchName .anchor
    | some '!' => s.fetchTag
    | some '\'' => s.fetchQuoted true
    | some '"' => s.fetchQuoted false
    | some c =>
      if c == '-' && alone then s.fetchIndicator .blockSequence .entry
      else if c == '?' && (s.flow || alone) then s.fetchIndicator .blockMapping .key
      else if c == ':' && (s.flow || alone) then s.fetchValue
      else if c == '|' && !s.flow then s.fetchBlock true
      else if c == '>' && !s.flow then s.fetchBlock false
      else if s.startsPlain then s.fetchPlain
      else none
    | none => none

def run (fuel : Nat) (s : Scanner) : Option (List Token) :=
  match fuel with
  | 0 => none
  | fuel + 1 => do
    let s ← (s.skipToToken (s.rest.length + 1)).dropStale
    let s := s.unrollIndent s.column
    if s.rest.isEmpty then
      let s ← ((s.unrollIndent (-1))).dropCandidate
      some s.tokens.reverse
    else run fuel (← s.fetch)

end Scanner

def tokens? (text : String) : Option (List Token) :=
  let cs := text.toList
  if cs.all isAllowed then Scanner.run (cs.length + 1) { rest := cs } else none

end PodTraffic.Yaml
