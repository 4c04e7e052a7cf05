/-!
The shortest decimal text of a double.

A finite double is `significand * 2 ^ power`. The reals that round to it form an interval, which
holds its ends exactly if the significand is even. Of the decimals with 1, 2, … 17 digits, the
first grid with a point in the interval gives the digits; of two such points the nearer one is
taken, and the even one in a tie. All of this is exact arithmetic on natural numbers.
-/
namespace Telemetry.Decimal

/-- A finite double above zero: `significand * 2 ^ power`. `wide` says that the gap below it is
half the gap above it. -/
structure Binary where
  significand : Nat
  power : Int
  wide : Bool
  deriving DecidableEq, Repr

/-- The weight of the sign bit. -/
def signWeight : Nat := 9223372036854775808

/-- The weight of the exponent's last bit. -/
def exponentWeight : Nat := 4503599627370496

def signBit (bits : UInt64) : Bool :=
  bits.toNat / signWeight = 1

/-- The size of a double, `none` for zero. -/
def Binary.ofBits? (bits : UInt64) : Option Binary :=
  let exponent := bits.toNat / exponentWeight % 2048
  let fraction := bits.toNat % exponentWeight
  if exponent = 0 then
    if fraction = 0 then none else some ⟨fraction, -1074, false⟩
  else
    some ⟨exponentWeight + fraction, Int.ofNat exponent - 1075,
      decide (fraction = 0 ∧ 1 < exponent)⟩

/-- Compares `a * 10 ^ i` with `b * 2 ^ j`. -/
def compareScaled (a : Nat) (i : Int) (b : Nat) (j : Int) : Ordering :=
  compare (a * Nat.pow 10 i.toNat * Nat.pow 2 (-j).toNat)
    (b * Nat.pow 2 j.toNat * Nat.pow 10 (-i).toNat)

namespace Binary

/-- Whether `digits * 10 ^ exponent` rounds to the double. -/
def holds (x : Binary) (digits : Nat) (exponent : Int) : Bool :=
  let low := compareScaled digits exponent (4 * x.significand - if x.wide then 1 else 2)
    (x.power - 2)
  let high := compareScaled digits exponent (4 * x.significand + 2) (x.power - 2)
  if x.significand % 2 = 0 then low != .lt && high != .gt else low == .gt && high == .lt

/-- The count of digits before the decimal point; zero or less for a double below one. -/
def magnitude (x : Binary) : Int :=
  let scaled :=
    x.significand * Nat.pow 10 400 * Nat.pow 2 x.power.toNat / Nat.pow 2 (-x.power).toNat
  Int.ofNat (Nat.toDigits 10 scaled).length - 400

/-- The double in units of `10 ^ exponent`, rounded down. -/
def floorAt (x : Binary) (exponent : Int) : Nat :=
  x.significand * Nat.pow 2 x.power.toNat * Nat.pow 10 (-exponent).toNat /
    (Nat.pow 2 (-x.power).toNat * Nat.pow 10 exponent.toNat)

/-- Whether the point above `floor` on the grid is nearer than `floor`. -/
def upper (x : Binary) (floor : Nat) (exponent : Int) : Bool :=
  match compareScaled (2 * floor + 1) exponent (2 * x.significand) x.power with
  | .lt => true
  | .eq => floor % 2 = 1
  | .gt => false

/-- The point of one grid that stands for the double, if there is one. -/
def onGrid (x : Binary) (exponent : Int) : Option Nat :=
  let floor := x.floorAt exponent
  match x.holds floor exponent, x.holds (floor + 1) exponent with
  | true, true => some (if x.upper floor exponent then floor + 1 else floor)
  | true, false => some floor
  | false, true => some (floor + 1)
  | false, false => none

/-- The first hit on the grids with `count`, `count + 1`, … digits. -/
def search (x : Binary) (magnitude : Int) (count : Nat) : Nat → Nat × Int
  | 0 => (x.floorAt (magnitude - 17), magnitude - 17)
  | fuel + 1 =>
    let exponent := magnitude - Int.ofNat count
    match x.onGrid exponent with
    | some digits => (digits, exponent)
    | none => search x magnitude (count + 1) fuel

/-- The shortest decimal `digits * 10 ^ exponent` that rounds to the double. -/
def shortest (x : Binary) : Nat × Int :=
  search x x.magnitude 1 17

end Binary

def dropZeros (digits : List Char) : List Char :=
  (digits.reverse.dropWhile (· = '0')).reverse

/-- How a decimal is laid out: the exponents that are written positionally. A whole number ends
in `.0`; any other exponent is written after `e` with its sign. -/
structure Layout where
  least : Int
  greatest : Int

/-- The text of `0.ddd * 10 ^ point` for digits `ddd`. -/
def Layout.render (layout : Layout) (digits : List Char) (point : Int) : List Char :=
  let exponent := point - 1
  if layout.least ≤ exponent ∧ exponent ≤ layout.greatest then
    if Int.ofNat digits.length ≤ point then
      digits ++ List.replicate (point.toNat - digits.length) '0' ++ ['.', '0']
    else if 0 < point then digits.take point.toNat ++ '.' :: digits.drop point.toNat
    else '0' :: '.' :: List.replicate (-point).toNat '0' ++ digits
  else
    let fraction := digits.drop 1
    digits.take 1 ++ (if fraction.isEmpty then [] else '.' :: fraction) ++
      ['e', if exponent < 0 then '-' else '+'] ++ Nat.toDigits 10 exponent.natAbs

def Layout.text (layout : Layout) (x : Float) : List Char :=
  let sign := if signBit x.toBits then ['-'] else []
  match Binary.ofBits? x.toBits with
  | none => sign ++ ['0', '.', '0']
  | some b =>
    let (value, exponent) := b.shortest
    let digits := Nat.toDigits 10 value
    sign ++ layout.render (dropZeros digits) (Int.ofNat digits.length + exponent)

end Telemetry.Decimal
