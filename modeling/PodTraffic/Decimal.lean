import PodTraffic.Text

/-!
# Decimals and double precision

Finite numbers `mantissa · 2 ^ exponent` with a mantissa of at most 53 binary places. A quotient is
rounded to the nearest of them, a tie to the even mantissa; products and quotients of two numbers
are rounded once. A number is written with the fewest digits that read back, and of several such
decimals as the nearest, or with a given count of decimal places, a tie to the even one. Numerals
are digits with a point among them, at least one digit in all, and maybe an exponent; formats differ
in which of them they allow and in how they round them.
-/
namespace PodTraffic.Decimal

/-- The quotient rounded to the nearest number, a tie to the even one. -/
def roundDiv (n d : Nat) : Nat :=
  let rest := 2 * (n % d)
  if d < rest || (rest == d && n / d % 2 == 1) then n / d + 1 else n / d

/-- The sign belongs to zero too. The exponent is the least one that the mantissa leaves. -/
structure Double where
  negative : Bool
  mantissa : Nat
  exponent : Int
  deriving DecidableEq, Repr

namespace Double

/-- The widths of the fields below the sign. -/
def exponentWidth : Nat := 11

def fractionWidth : Nat := 52

def leastExponent : Int := -1074

def greatestExponent : Int := 971

def ofBits (bits : Nat) : Double :=
  let fraction := bits % Nat.pow 2 fractionWidth
  let field : Nat := bits / Nat.pow 2 fractionWidth % Nat.pow 2 exponentWidth
  let negative := bits / Nat.pow 2 (fractionWidth + exponentWidth) % 2 == 1
  if field = 0 then ⟨negative, fraction, leastExponent⟩
  else ⟨negative, Nat.pow 2 fractionWidth + fraction, leastExponent - 1 + field⟩

def isZero (x : Double) : Bool := x.mantissa == 0

def isHalfOrMore (x : Double) : Bool :=
  !x.negative && !x.isZero && -1 ≤ x.mantissa.log2 + x.exponent

/-- The number raised by the power of two, if that power is a whole number. -/
def shifted (n : Nat) (e : Int) : Nat := n * Nat.pow 2 e.toNat

def zero : Double := ⟨false, 0, leastExponent⟩

def one : Double := ⟨false, Nat.pow 2 fractionWidth, -fractionWidth⟩

/-- The binary places that a random number between zero and one has. -/
def drawWidth : Nat := fractionWidth + 1

/-- The random number with these binary places lies below. -/
def isAbove (x : Double) (draw : Nat) : Bool :=
  let exponent := x.exponent + drawWidth
  !x.negative && shifted draw (-exponent) < shifted x.mantissa exponent

/-- The place of the first binary digit of `n / d`. -/
def magnitude (n d : Nat) : Int :=
  let apart : Int := n.log2 - d.log2
  if shifted d apart ≤ shifted n (-apart) then apart else apart - 1

/-- The number nearest to `n / d`; none where that is infinity. -/
def nearest? (negative : Bool) (n d : Nat) : Option Double :=
  let exponent := if n = 0 then leastExponent else max leastExponent (magnitude n d - fractionWidth)
  let mantissa := roundDiv (shifted n (-exponent)) (shifted d exponent)
  let x : Double :=
    if mantissa = Nat.pow 2 (fractionWidth + 1) then ⟨negative, mantissa / 2, exponent + 1⟩
    else ⟨negative, mantissa, exponent⟩
  if x.exponent ≤ greatestExponent then some x else none

def mul? (x y : Double) : Option Double :=
  let exponent := x.exponent + y.exponent
  nearest? (x.negative != y.negative) (shifted (x.mantissa * y.mantissa) exponent)
    (shifted 1 (-exponent))

def div? (x y : Double) : Option Double :=
  let exponent := x.exponent - y.exponent
  nearest? (x.negative != y.negative) (shifted x.mantissa exponent) (shifted y.mantissa (-exponent))

/-- The number nearest to `mantissa · 10 ^ exponent`. Far out, the digits alone tell that it is
infinity or zero. -/
def ofDecimal? (negative : Bool) (mantissa : Nat) (exponent : Int) : Option Double :=
  let digits : Int := (Nat.toDigits 10 mantissa).length
  if mantissa = 0 || digits + exponent < -330 then some ⟨negative, 0, leastExponent⟩
  else if 310 < digits + exponent then none
  else nearest? negative (mantissa * Nat.pow 10 exponent.toNat) (Nat.pow 10 (-exponent).toNat)

/-- Zeros are equal whatever their signs. -/
def same (x y : Double) : Bool := x == y || (x.isZero && y.isZero)

/-- The value without its sign as a quotient. -/
def quotient (x : Double) : Nat × Nat := (shifted x.mantissa x.exponent, shifted 1 (-x.exponent))

/-- The least `k` with a value below `10 ^ k`; the value is not zero. -/
def decimalPlaces (x : Double) : Int :=
  let (n, d) := x.quotient
  if d ≤ n then (Nat.toDigits 10 (n / d)).length else 1 - (Nat.toDigits 10 (d / n)).length

/-- The decimals of so many digits next to the value, below and above, the nearer one first. -/
def neighbours (x : Double) (digits : Nat) : List (Nat × Int) :=
  let (n, d) := x.quotient
  let exponent := x.decimalPlaces - digits
  let n := n * Nat.pow 10 (-exponent).toNat
  let d := d * Nat.pow 10 exponent.toNat
  let below := (n / d, exponent)
  let above := (n / d + 1, exponent)
  if 2 * (n % d) ≤ d then [below, above] else [above, below]

def readsBack (x : Double) (decimal : Nat × Int) : Bool :=
  ofDecimal? x.negative decimal.1 decimal.2 == some x

/-- Digits and exponent. Seventeen digits are always enough. -/
def shortest (x : Double) : Nat × Int :=
  if x.isZero then (0, 0)
  else
    (((List.range 17).flatMap fun i => x.neighbours (i + 1)).find? x.readsBack).getD
      (x.quotient.1, 0)

/-- The value in units of the last place. -/
def units (places : Nat) (x : Double) : Nat :=
  roundDiv (shifted (x.mantissa * Nat.pow 10 places) x.exponent) (shifted 1 (-x.exponent))

def fixedText (places : Nat) (x : Double) : String :=
  let units := x.units places
  (if x.negative then "-" else "") ++ toString (units / Nat.pow 10 places) ++ "." ++
    Text.padded '0' places (units % Nat.pow 10 places)

end Double

def fixed (places : Nat) (x : Float) : String := (Double.ofBits x.toBits.toNat).fixedText places

structure Numeral where
  whole : List Char
  /-- The digits after the point, if there is one. -/
  fraction : Option (List Char) := none
  exponent : Option Int := none

namespace Numeral

/-- Digits, and what is left. -/
def splitDigits (cs : List Char) : List Char × List Char :=
  (cs.takeWhile Char.isDigit, cs.dropWhile Char.isDigit)

/-- After the mark. -/
def exponent? (cs : List Char) : Option Int :=
  match cs with
  | '+' :: rest => (Text.digits? 10 rest).map Int.ofNat
  | '-' :: rest => (Text.digits? 10 rest).map fun n => -(n : Int)
  | _ => (Text.digits? 10 cs).map Int.ofNat

/-- Without a sign. -/
def read? (cs : List Char) : Option Numeral := do
  let (whole, rest) := splitDigits cs
  let (fraction, rest) := match rest with
    | '.' :: rest => (splitDigits rest).map some id
    | _ => (none, rest)
  if whole.isEmpty && (fraction.getD []).isEmpty then none
  match rest with
  | [] => return { whole, fraction }
  | e :: rest =>
    if e == 'e' || e == 'E' then return { whole, fraction, exponent := some (← exponent? rest) }
    else none

/-- Digits alone. -/
def isPlain (n : Numeral) : Bool := n.fraction.isNone && n.exponent.isNone

/-- Digits on both sides of the point, and no zero before other digits. -/
def isStrict (n : Numeral) : Bool :=
  !n.whole.isEmpty && (n.whole.length == 1 || n.whole.head? != some '0') &&
    n.fraction.all (!·.isEmpty)

/-- The number nearest to the value; none where that is infinity. -/
def nearest? (negative : Bool) (n : Numeral) : Option Double := do
  let fraction := n.fraction.getD []
  let mantissa ← Text.digits? 10 (n.whole ++ fraction)
  Double.ofDecimal? negative mantissa (n.exponent.getD 0 - fraction.length)

end Numeral
end PodTraffic.Decimal
