import PodTraffic.Text

/-!
# Addresses and networks

Addresses of both families, networks with their host bits cleared, and membership. A network holds
an address of its family that agrees with it on the leading `length` bits. Their text is four octets
in decimal, or eight groups in hexadecimal of which one run of zeros may be left out and the last
two may be written as four octets. Addresses take no leading zeros in octets and one zero group at
least for the gap; networks take both. A reader yields what it found and the rest of the text.
-/
namespace PodTraffic

inductive Family where
  | v4
  | v6
  deriving DecidableEq, Repr

def Family.width : Family → Nat
  | v4 => 32
  | v6 => 128

def Family.rank : Family → Nat
  | v4 => 4
  | v6 => 6

/-- The usual length of a network of pods. -/
def Family.subnetLength : Family → Nat
  | v4 => 24
  | v6 => 64

theorem Family.subnetLength_le (f : Family) : f.subnetLength ≤ f.width := by
  cases f <;> decide

structure Address where
  family : Family
  bits : Nat
  bits_lt : bits < Nat.pow 2 family.width
  deriving DecidableEq

def Address.ofNat (family : Family) (n : Nat) : Address :=
  ⟨family, n % Nat.pow 2 family.width, Nat.mod_lt _ (Nat.two_pow_pos _)⟩

/-- The address whose parts of `size` bits are `parts`, most significant first. -/
def Address.ofParts (family : Family) (size : Nat) (parts : List Nat) : Address :=
  .ofNat family (parts.foldl (fun n part => n * Nat.pow 2 size + part) 0)

/-- The parts of `size` bits, most significant first. -/
def Address.parts (a : Address) (size : Nat) : List Nat :=
  (List.range (a.family.width / size)).reverse.map fun i =>
    a.bits / Nat.pow 2 (size * i) % Nat.pow 2 size

structure Network where
  family : Family
  length : Nat
  bits : Nat
  length_le : length ≤ family.width
  bits_lt : bits < Nat.pow 2 family.width
  /-- Host bits are clear. -/
  hosts_clear : bits % Nat.pow 2 (family.width - length) = 0
  deriving DecidableEq

namespace Network

/-- What the leading bits of an address are as a number. -/
def leading (length : Nat) (a : Address) : Nat := a.bits / Nat.pow 2 (a.family.width - length)

/-- The network of the given length that holds the address. -/
def ofAddress (a : Address) (length : Nat) (h : length ≤ a.family.width) : Network where
  family := a.family
  length := length
  bits := leading length a * Nat.pow 2 (a.family.width - length)
  length_le := h
  bits_lt := Nat.lt_of_le_of_lt (Nat.div_mul_le_self _ _) a.bits_lt
  hosts_clear := Nat.mul_mod_left _ _

/-- The network of pods around an address. -/
def subnet (a : Address) : Network := ofAddress a a.family.subnetLength a.family.subnetLength_le

/-- The network of one address. -/
def single (a : Address) : Network := ofAddress a a.family.width (Nat.le_refl _)

def base (n : Network) : Address := ⟨n.family, n.bits, n.bits_lt⟩

def contains (n : Network) (a : Address) : Bool :=
  a.family == n.family && leading n.length a == leading n.length n.base

/-- Four before six, then by base address, shorter lengths first. -/
instance : Ord Network :=
  ⟨compareLex (compareOn (·.family.rank))
    (compareLex (compareOn (·.bits)) (compareOn (·.length)))⟩

instance : Std.TransOrd Network :=
  inferInstanceAs (Std.TransCmp (compareLex (compareOn fun n : Network => n.family.rank)
    (compareLex (compareOn (·.bits)) (compareOn (·.length)))))

end Network

namespace Address

/-- All digits ahead, of which there may be at most `most`. -/
def readNumber (radix most limit : Nat) (zeros : Bool) (cs : List Char) :
    Option (Nat × List Char) := do
  let digits := cs.takeWhile fun c => (Text.digitValue? radix c).isSome
  let n ← Text.digits? radix digits
  if digits.length > most || n > limit then none
  else if !zeros && digits.length > 1 && digits.head? == some '0' then none
  else some (n, cs.drop digits.length)

def readChar (c : Char) (cs : List Char) : Option (List Char) :=
  if cs.head? == some c then some (cs.drop 1) else none

def readOctets (zeros : Bool) (cs : List Char) : Option (List Nat × List Char) := do
  let (a, cs) ← readNumber 10 3 255 zeros cs
  let (b, cs) ← readNumber 10 3 255 zeros (← readChar '.' cs)
  let (c, cs) ← readNumber 10 3 255 zeros (← readChar '.' cs)
  let (d, cs) ← readNumber 10 3 255 zeros (← readChar '.' cs)
  some ([a, b, c, d], cs)

/-- Up to `left` groups; the flag tells whether they ended in octets. -/
def readGroups (zeros first : Bool) (left : Nat) (cs : List Char) : List Nat × Bool × List Char :=
  match left with
  | 0 => ([], false, cs)
  | left + 1 =>
    let next := if first then some cs else readChar ':' cs
    let octets := if left = 0 then none else next >>= readOctets zeros
    match octets, next >>= readNumber 16 4 65535 true with
    | some ([a, b, c, d], rest), _ => ([a * 256 + b, c * 256 + d], true, rest)
    | _, some (group, rest) =>
      let (groups, mixed, rest) := readGroups zeros false left rest
      (group :: groups, mixed, rest)
    | _, none => ([], false, cs)

def readV6 (zeros : Bool) (gap : Nat) (cs : List Char) : Option (Address × List Char) := do
  let (head, mixed, rest) := readGroups zeros true 8 cs
  if head.length = 8 then some (.ofParts .v6 16 head, rest)
  else if mixed then none
  else
    let rest ← readChar ':' (← readChar ':' rest)
    let (tail, _, rest) := readGroups zeros true (8 - gap - head.length) rest
    let hidden := List.replicate (8 - head.length - tail.length) 0
    some (.ofParts .v6 16 (head ++ hidden ++ tail), rest)

def readV4 (zeros : Bool) (cs : List Char) : Option (Address × List Char) := do
  let (octets, rest) ← readOctets zeros cs
  some (.ofParts .v4 8 octets, rest)

def parse? (text : String) : Option Address :=
  match readV4 false text.toList with
  | some (a, rest) => if rest.isEmpty then some a else none
  | none => (readV6 false 1 text.toList).bind fun (a, rest) => if rest.isEmpty then some a else none

/-- Start and length of the first longest run of zeros. -/
def longestGap (groups : List Nat) : Nat × Nat :=
  let runs := (List.range groups.length).map fun i =>
    (i, ((groups.drop i).takeWhile (· == 0)).length)
  runs.foldl (fun best run => if run.2 > best.2 then run else best) (0, 0)

def hexText (n : Nat) : String := String.ofList (Nat.toDigits 16 n)

def groupsText (groups : List Nat) : String := ":".intercalate (groups.map hexText)

def octetsText (octets : List Nat) : String := ".".intercalate (octets.map toString)

def text (a : Address) : String :=
  match a.family with
  | .v4 => octetsText (a.parts 8)
  | .v6 =>
    if a.bits >>> 32 = 0xFFFF then "::ffff:" ++ octetsText ((a.parts 8).drop 12)
    else
      let groups := a.parts 16
      let (start, length) := longestGap groups
      if length > 1 then
        groupsText (groups.take start) ++ "::" ++ groupsText (groups.drop (start + length))
      else groupsText groups

end Address

namespace Network

open PodTraffic.Address (readV4 readV6 readNumber readChar)

def ofRead (digits limit : Nat) (a : Address) (cs : List Char) : Option Network := do
  let (length, rest) ← readNumber 10 digits limit true (← readChar '/' cs)
  if h : rest.isEmpty ∧ length ≤ a.family.width then some (ofAddress a length h.2) else none

def parse? (text : String) : Option Network :=
  let v4 := readV4 true text.toList >>= fun (a, rest) => ofRead 2 32 a rest
  v4 <|> (readV6 true 0 text.toList >>= fun (a, rest) => ofRead 3 128 a rest)

def text (n : Network) : String := n.base.text ++ "/" ++ toString n.length

end Network
end PodTraffic
