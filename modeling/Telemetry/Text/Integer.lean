/-!
Integers in decimal text.

A text is an optional sign and at least one ASCII digit, with nothing before, between or
after. The first character that spoils the text decides the error: a character that is no
digit, or the digit with which the number leaves its range.
-/
namespace Telemetry.Text

/-- Why a text is no integer of the wanted range. -/
inductive IntegerError where
  | empty
  | invalidDigit
  | tooLarge
  | tooSmall
  deriving DecidableEq, Repr

def IntegerError.message : IntegerError → String
  | .empty => "cannot parse integer from empty string"
  | .invalidDigit => "invalid digit found in string"
  | .tooLarge => "number too large to fit in target type"
  | .tooSmall => "number too small to fit in target type"

def digit? (c : Char) : Option Nat :=
  if '0' ≤ c ∧ c ≤ '9' then some (c.toNat - '0'.toNat) else none

/-- Reads digits onto `value`; `excess` is the error for a value above `limit`. -/
def readDigits (limit : Nat) (excess : IntegerError) (value : Nat) :
    List Char → Except IntegerError Nat
  | [] => .ok value
  | c :: rest =>
    match digit? c with
    | none => .error .invalidDigit
    | some d =>
      if value * 10 + d ≤ limit then readDigits limit excess (value * 10 + d) rest
      else .error excess

/-- Reads one or more digits up to `limit`. A text that had a sign and nothing else fails
as an invalid digit. -/
def readMagnitude (limit : Nat) (excess : IntegerError) (text : List Char) :
    Except IntegerError Nat :=
  match text with
  | [] => .error .invalidDigit
  | _ :: _ => readDigits limit excess 0 text

/-- Reads a natural number up to `limit`, with an optional plus sign. -/
def readNat (limit : Nat) (text : List Char) : Except IntegerError Nat :=
  match text with
  | [] => .error .empty
  | '+' :: rest => readMagnitude limit .tooLarge rest
  | _ :: _ => readMagnitude limit .tooLarge text

/-- Reads an integer of a two's complement range with `bound` values on either side of zero,
the least being `-bound` and the greatest `bound - 1`. -/
def readInt (bound : Nat) (text : List Char) : Except IntegerError Int :=
  match text with
  | [] => .error .empty
  | '+' :: rest => (readMagnitude (bound - 1) .tooLarge rest).map Int.ofNat
  | '-' :: rest => (readMagnitude bound .tooSmall rest).map fun n => -Int.ofNat n
  | _ :: _ => (readMagnitude (bound - 1) .tooLarge text).map Int.ofNat

def readUInt16 (text : List Char) : Except IntegerError UInt16 :=
  (readNat (UInt16.size - 1) text).map UInt16.ofNat

def readUInt64 (text : List Char) : Except IntegerError UInt64 :=
  (readNat (UInt64.size - 1) text).map UInt64.ofNat

/-- The count of the 64-bit integers on either side of zero. -/
def int64Half : Nat := 9223372036854775808

def readInt64 (text : List Char) : Except IntegerError Int64 :=
  (readInt int64Half text).map Int64.ofInt

def decimal (n : Nat) : List Char :=
  Nat.toDigits 10 n

def decimalInt : Int → List Char
  | .ofNat n => decimal n
  | .negSucc n => '-' :: decimal (n + 1)

end Telemetry.Text
