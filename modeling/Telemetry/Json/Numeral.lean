import Telemetry.Text.Utf8
import Telemetry.Text.Integer

/-!
Numbers as JSON writes them.

A numeral is read byte by byte through the states of its grammar. A numeral without point and
exponent is an integer as long as it fits 64 bits; `-0` and every other numeral is a double.
Doubles are read by one scaling of the leading 64-bit digits, so the last place may differ from
the nearest double.
-/
namespace Telemetry.Json

def isDigit (b : UInt8) : Bool :=
  0x30 ≤ b && b ≤ 0x39

def digitValue (b : UInt8) : Nat :=
  b.toNat - 0x30

namespace Numeral

/-- How far a numeral has been read. -/
inductive State where
  | minus
  | zero
  | whole
  | point
  | fraction
  | mark
  | sign
  | power
  deriving DecidableEq, Repr

/-- Whether a numeral may end in this state. -/
def State.isComplete : State → Bool
  | .zero | .whole | .fraction | .power => true
  | .minus | .point | .mark | .sign => false

/-- What one more byte does to a numeral. -/
inductive Step where
  | goesOn (state : State)
  | ends
  | breaks
  deriving DecidableEq, Repr

/-- The state after the first byte of a numeral, `none` for a byte that starts none. -/
def start? (b : UInt8) : Option State :=
  if b = 0x2D then some .minus
  else if b = 0x30 then some .zero
  else if isDigit b then some .whole
  else none

def isPoint (b : UInt8) : Bool := b == 0x2E

def isMark (b : UInt8) : Bool := b == 0x65 || b == 0x45

def isSign (b : UInt8) : Bool := b == 0x2B || b == 0x2D

def State.step (state : State) (b : UInt8) : Step :=
  match state with
  | .minus => if b = 0x30 then .goesOn .zero else if isDigit b then .goesOn .whole else .breaks
  | .zero =>
    if isDigit b then .breaks
    else if isPoint b then .goesOn .point
    else if isMark b then .goesOn .mark
    else .ends
  | .whole =>
    if isDigit b then .goesOn .whole
    else if isPoint b then .goesOn .point
    else if isMark b then .goesOn .mark
    else .ends
  | .point => if isDigit b then .goesOn .fraction else .breaks
  | .fraction =>
    if isDigit b then .goesOn .fraction else if isMark b then .goesOn .mark else .ends
  | .mark =>
    if isDigit b then .goesOn .power else if isSign b then .goesOn .sign else .breaks
  | .sign => if isDigit b then .goesOn .power else .breaks
  | .power => if isDigit b then .goesOn .power else .ends

/-- The parts of a numeral. -/
structure Parts where
  negative : Bool
  whole : Bytes
  fraction : Option Bytes
  power : Option (Bool × Bytes)
  deriving DecidableEq, Repr

/-- Cuts a complete numeral into its parts. -/
def parts (numeral : Bytes) : Parts :=
  let negative := numeral.head? == some 0x2D
  let rest := if negative then numeral.drop 1 else numeral
  let whole := rest.takeWhile isDigit
  let rest := rest.dropWhile isDigit
  let (fraction, rest) :=
    match rest with
    | b :: after =>
      if isPoint b then (some (after.takeWhile isDigit), after.dropWhile isDigit)
      else (none, rest)
    | [] => (none, [])
  let power :=
    match rest with
    | _ :: after =>
      match after with
      | b :: digits => if isSign b then some (b == 0x2D, digits) else some (false, after)
      | [] => some (false, [])
    | [] => none
  ⟨negative, whole, fraction, power⟩

/-- The greatest significand that is kept exactly. -/
def significandLimit : Nat := UInt64.size - 1

/-- Reads whole digits while they fit the limit; each digit beyond raises the exponent. -/
def scaleWhole (limit : Nat) (significand : Nat) : Bytes → Nat × Int
  | [] => (significand, 0)
  | b :: rest =>
    if significand * 10 + digitValue b ≤ limit then
      scaleWhole limit (significand * 10 + digitValue b) rest
    else (significand, Int.ofNat (rest.length + 1))

/-- Reads digits after the point while they fit the limit; the others are dropped. -/
def scaleFraction (limit : Nat) (significand : Nat) (exponent : Int) : Bytes → Nat × Int
  | [] => (significand, exponent)
  | b :: rest =>
    if significand * 10 + digitValue b ≤ limit then
      scaleFraction limit (significand * 10 + digitValue b) (exponent - 1) rest
    else (significand, exponent)

def natural (digits : Bytes) : Nat :=
  digits.foldl (fun n b => n * 10 + digitValue b) 0

def powerOfTen (n : Nat) : Float :=
  Float.ofScientific 1 false n

/-- Scales by a power of ten, in steps of at most `10 ^ 308`; `none` beyond the doubles. -/
def scale : Nat → Float → Int → Option Float
  | 0, _, _ => some 0.0
  | fuel + 1, x, exponent =>
    if exponent.natAbs ≤ 308 then
      if 0 ≤ exponent then
        let y := x * powerOfTen exponent.natAbs
        if y.isInf then none else some y
      else some (x / powerOfTen exponent.natAbs)
    else if x == 0.0 then some x
    else if 0 ≤ exponent then none
    else scale fuel (x / powerOfTen 308) (exponent + 308)

/-- Powers from this one on leave the doubles, whatever the digits before them. -/
def powerLimit : Nat := 2147483648

/-- The double of a numeral, `none` if it is too large. -/
def double? (p : Parts) : Option Float :=
  let (significand, exponent) := scaleWhole significandLimit 0 p.whole
  let (significand, exponent) :=
    scaleFraction significandLimit significand exponent (p.fraction.getD [])
  let (negativePower, digits) := p.power.getD (false, [])
  let power := natural digits
  let size :=
    if powerLimit ≤ power then
      if significand ≠ 0 ∧ negativePower = false then none else some 0.0
    else
      let exponent :=
        if negativePower then exponent - Int.ofNat power else exponent + Int.ofNat power
      scale 4 (UInt64.ofNat significand).toFloat exponent
  size.map fun x => if p.negative then -x else x

/-- The value of a numeral. -/
inductive Value where
  | natural (n : Nat)
  | negative (n : Nat)
  | double (x : Float)

/-- The value of a numeral, `none` if it is beyond the doubles. A negative integer is given by
its size, which lies between 1 and `2 ^ 63`. -/
def value? (numeral : Bytes) : Option Value :=
  let p := parts numeral
  let n := natural p.whole
  if p.fraction.isNone ∧ p.power.isNone then
    if p.negative then
      if 0 < n ∧ n ≤ Text.int64Half then some (.negative n) else (double? p).map .double
    else if n < UInt64.size then some (.natural n)
    else (double? p).map .double
  else (double? p).map .double

def ofInt (n : Int) : Bytes :=
  Text.Utf8.encode (Text.decimalInt n)

end Numeral

end Telemetry.Json
