import Telemetry.Text.Utf8

/-!
Base64 with the standard alphabet.

Written form: groups of four symbols for three bytes, the last one filled up with `=`. The
reader accepts exactly the written forms: padding must be complete and the bits that padding
stands for must be zero. Offsets in errors count symbols from the start of the text.
-/
namespace Telemetry.Text.Base64

/-- The symbol that fills up the last group. -/
def pad : UInt8 := 61

/-- The symbol of a six-bit number. -/
def symbol (n : Nat) : UInt8 :=
  if n < 26 then UInt8.ofNat (65 + n)
  else if n < 52 then UInt8.ofNat (97 + (n - 26))
  else if n < 62 then UInt8.ofNat (48 + (n - 52))
  else if n = 62 then 43
  else 47

/-- The six-bit number of a symbol. -/
def value? (b : UInt8) : Option Nat :=
  let n := b.toNat
  if 65 ≤ n ∧ n ≤ 90 then some (n - 65)
  else if 97 ≤ n ∧ n ≤ 122 then some (n - 97 + 26)
  else if 48 ≤ n ∧ n ≤ 57 then some (n - 48 + 52)
  else if n = 43 then some 62
  else if n = 47 then some 63
  else none

/-- The written form of bytes. -/
def encode : Bytes → Bytes
  | [] => []
  | [a] => [symbol (a.toNat / 4), symbol (a.toNat % 4 * 16), pad, pad]
  | [a, b] =>
    [symbol (a.toNat / 4), symbol (a.toNat % 4 * 16 + b.toNat / 16),
     symbol (b.toNat % 16 * 4), pad]
  | a :: b :: c :: rest =>
    symbol (a.toNat / 4) :: symbol (a.toNat % 4 * 16 + b.toNat / 16) ::
      symbol (b.toNat % 16 * 4 + c.toNat / 64) :: symbol (c.toNat % 64) :: encode rest

/-- Why a text is no written form. -/
inductive Error where
  | symbol (byte : UInt8) (offset : Nat)
  | lastSymbol (byte : UInt8) (offset : Nat)
  | length (size : Nat)
  | padding
  deriving DecidableEq, Repr

def Error.message : Error → String
  | .symbol byte offset => s!"Invalid symbol {byte.toNat}, offset {offset}."
  | .lastSymbol byte offset => s!"Invalid last symbol {byte.toNat}, offset {offset}."
  | .length size => s!"Invalid input length: {size}"
  | .padding => "Invalid padding"

def valueAt (offset : Nat) (b : UInt8) : Except Error Nat :=
  match value? b with
  | some n => .ok n
  | none => .error (.symbol b offset)

/-- The numbers of the symbols of the last group and the count of its padding. Padding may
not stand among the first two places, and no symbol may follow it. -/
def tailValues (start index : Nat) (padding : Nat) :
    Bytes → Except Error (List Nat × Nat)
  | [] => .ok ([], padding)
  | b :: rest =>
    if b = pad then
      if index < 2 then .error (.symbol b (start + index))
      else tailValues start (index + 1) (padding + 1) rest
    else if 0 < padding then .error (.symbol pad (start + index - padding))
    else do
      let n ← valueAt (start + index) b
      let (values, padding) ← tailValues start (index + 1) padding rest
      return (n :: values, padding)

/-- Reads the last group, of at most four symbols, starting at offset `start`. -/
def decodeTail (start : Nat) (group : Bytes) : Except Error Bytes := do
  let (values, padding) ← tailValues start 0 0 group
  match values with
  | [] => if group.isEmpty then .ok [] else .error (.length start)
  | [_] => .error (.length (start + 1))
  | [a, b] =>
    if padding ≠ 2 then .error .padding
    else if b % 16 ≠ 0 then .error (.lastSymbol (symbol b) (start + 1))
    else .ok [UInt8.ofNat (a * 4 + b / 16)]
  | [a, b, c] =>
    if padding ≠ 1 then .error .padding
    else if c % 4 ≠ 0 then .error (.lastSymbol (symbol c) (start + 2))
    else .ok [UInt8.ofNat (a * 4 + b / 16), UInt8.ofNat (b % 16 * 16 + c / 4)]
  | a :: b :: c :: d :: _ =>
    .ok [UInt8.ofNat (a * 4 + b / 16), UInt8.ofNat (b % 16 * 16 + c / 4),
      UInt8.ofNat (c % 4 * 64 + d)]

/-- Reads groups from offset `start` on; the last one may be padded. -/
def decodeFrom (start : Nat) : Bytes → Except Error Bytes
  | a :: b :: c :: d :: e :: rest => do
    let a ← valueAt start a
    let b ← valueAt (start + 1) b
    let c ← valueAt (start + 2) c
    let d ← valueAt (start + 3) d
    let bytes ← decodeFrom (start + 4) (e :: rest)
    return UInt8.ofNat (a * 4 + b / 16) :: UInt8.ofNat (b % 16 * 16 + c / 4) ::
      UInt8.ofNat (c % 4 * 64 + d) :: bytes
  | group => decodeTail start group

/-- The last byte of a text that has one symbol too many and ends in a byte outside the
alphabet, as a stray line end does. -/
def strayEnd? (text : Bytes) : Option UInt8 :=
  if text.length % 4 = 1 then
    text.getLast?.filter fun b => b != pad && (value? b).isNone
  else none

/-- The bytes of a written form. A stray last byte is reported before any other fault. -/
def decode (text : Bytes) : Except Error Bytes :=
  match strayEnd? text with
  | some b => .error (.symbol b (text.length - 1))
  | none => decodeFrom 0 text

end Telemetry.Text.Base64
