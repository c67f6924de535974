/-!
# Texts

Cuts at a pattern or at white space, which are the characters with the Unicode property White_Space,
and integers in text. A numeral is an optional sign and at least one decimal digit; leading zeros
are allowed. Reading fails outside the asked range. Numerals of a fixed width have no sign.
-/
namespace PodTraffic.Text

/-- What follows `start`, if the text begins with it. -/
def after? : List Char → List Char → Option (List Char)
  | [], cs => some cs
  | _ :: _, [] => none
  | p :: ps, c :: cs => if p == c then after? ps cs else none

/-- Before and after the first occurrence of `pattern`. -/
def cutAt? (pattern : List Char) : List Char → Option (List Char × List Char)
  | [] => (after? pattern []).map ([], ·)
  | c :: cs =>
    match after? pattern (c :: cs) with
    | some rest => some ([], rest)
    | none => (cutAt? pattern cs).map fun (before, rest) => (c :: before, rest)

/-- Before and after the last `mark`. -/
def cutAtLast? (mark : Char) : List Char → Option (List Char × List Char)
  | [] => none
  | c :: cs =>
    match cutAtLast? mark cs with
    | some (before, rest) => some (c :: before, rest)
    | none => if c == mark then some ([], cs) else none

def dropStart (p : Char → Bool) (cs : List Char) : List Char := cs.dropWhile p

def dropEnd (p : Char → Bool) (cs : List Char) : List Char := (cs.reverse.dropWhile p).reverse

def isBlank (c : Char) : Bool :=
  let n := c.toNat
  (9 ≤ n && n ≤ 13) || n == 0x20 || n == 0x85 || n == 0xA0 || n == 0x1680 ||
    (0x2000 ≤ n && n ≤ 0x200A) || n == 0x2028 || n == 0x2029 || n == 0x202F ||
    n == 0x205F || n == 0x3000

def dropBlankStart (cs : List Char) : List Char := cs.dropWhile isBlank

def dropBlankEnd (cs : List Char) : List Char := (cs.reverse.dropWhile isBlank).reverse

def trim (s : String) : String := String.ofList (dropBlankEnd (dropBlankStart s.toList))

def trimEnd (s : String) : String := String.ofList (dropBlankEnd s.toList)

/-- Cut at every character that satisfies `p`; the cuts themselves are dropped. -/
def splitBy (p : Char → Bool) : List Char → List (List Char)
  | [] => [[]]
  | c :: cs =>
    match splitBy p cs with
    | [] => [[c]]
    | piece :: pieces => if p c then [] :: piece :: pieces else (c :: piece) :: pieces

/-- The maximal runs of characters that are not blank. -/
def words (cs : List Char) : List (List Char) := (splitBy isBlank cs).filter (!·.isEmpty)

/-- A line feed ends a line, with a carriage return just before it; what follows the last one is a
line unless it is empty. -/
def lines (s : String) : List String :=
  let pieces := splitBy (· == '\n') s.toList
  let closed := pieces.dropLast.map fun piece =>
    if piece.getLast? == some '\r' then piece.dropLast else piece
  let rest := (pieces.getLast?.filter (!·.isEmpty)).toList
  (closed ++ rest).map String.ofList

/-- Every line ends with a line feed. -/
def unlines (lines : List String) : String := String.join (lines.map (· ++ "\n"))

def digitValue? (radix : Nat) (c : Char) : Option Nat :=
  let value :=
    if '0' ≤ c && c ≤ '9' then some (c.toNat - '0'.toNat)
    else if 'a' ≤ c && c ≤ 'z' then some (c.toNat - 'a'.toNat + 10)
    else if 'A' ≤ c && c ≤ 'Z' then some (c.toNat - 'A'.toNat + 10)
    else none
  value.filter (· < radix)

/-- The value of a nonempty string of digits. -/
def digits? (radix : Nat) (cs : List Char) : Option Nat :=
  if cs.isEmpty then none
  else cs.foldlM (fun value c => (digitValue? radix c).map (value * radix + ·)) 0

/-- An unsigned numeral of at most `limit`; a plus sign may stand before it. -/
def unsigned? (limit : Nat) (cs : List Char) : Option Nat :=
  (digits? 10 (match cs with | '+' :: rest => rest | _ => cs)).filter (· ≤ limit)

/-- A signed numeral between `low` and `high`. -/
def signed? (low high : Int) (cs : List Char) : Option Int :=
  let value : Option Int := match cs with
    | '-' :: rest => (digits? 10 rest).map fun n => -(n : Int)
    | '+' :: rest => (digits? 10 rest).map Int.ofNat
    | _ => (digits? 10 cs).map Int.ofNat
  value.filter fun n => low ≤ n && n ≤ high

/-- A numeral of so many digits, between `low` and `high`, and the rest of the text. -/
def field? (width low high : Nat) (cs : List Char) : Option (Nat × List Char) := do
  let digits := cs.take width
  if digits.length ≠ width || !digits.all Char.isDigit then none
  let n ← (digits? 10 digits).filter fun n => low ≤ n && n ≤ high
  return (n, cs.drop width)

/-- At least `width` places, the first ones filled. -/
def padded (fill : Char) (width n : Nat) : String :=
  let digits := Nat.toDigits 10 n
  String.ofList (List.replicate (width - digits.length) fill ++ digits)

end PodTraffic.Text
