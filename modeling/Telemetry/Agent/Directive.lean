import Telemetry.Log
import Telemetry.Text.Integer
import Telemetry.Text.Pattern

/-!
Directives of a log filter.

A directive reads `target[span{field=value}]=level`. The target, the brackets with what is in
them, the field with its braces, the value and the level may each be missing; a text without
brackets and equals sign is a level if it names one and a target otherwise. The parts are counted
off from the first character that is no blank, but they are cut out of the whole text, so blanks
in front shift them.
-/
namespace Telemetry

/-- What a directive asks of the fields of a line. -/
structure FieldTest where
  name : List Char
  asksValue : Bool
  deriving DecidableEq, Repr

/-- A directive: which lines it is about, and the rank up to which it shows them. -/
structure Directive where
  target : Option (List Char)
  span : Option (List Char)
  field : Option FieldTest
  rank : Nat
  deriving DecidableEq, Repr

namespace Directive

/-! ### Levels and fields -/

def rankNames : List (String × Nat) :=
  [("off", 0), ("error", 1), ("warn", 2), ("info", 3), ("debug", 4), ("trace", 5)]

/-- The rank that a text names, in any letter case, or gives as a number. -/
def rank? (text : List Char) : Option Nat :=
  match Text.readNat (UInt64.size - 1) text with
  | .ok n => if n ≤ Level.trace.rank then some n else none
  | .error _ => rankNames.lookup (String.ofList (text.map Char.toLower))

/-- The rank after an equals sign, which is the greatest one if nothing is there. -/
def rankAfterSign? (text : List Char) : Option Nat :=
  if text = [] then some Level.trace.rank else rank? text

/-- Whether the text is empty or an exponent. -/
def isExponent : List Char → Bool
  | [] => true
  | c :: rest =>
    let digits :=
      match rest with
      | '+' :: digits => digits
      | '-' :: digits => digits
      | digits => digits
    (c = 'e' || c = 'E') && !digits.isEmpty && digits.all Char.isDigit

/-- Whether the text is a decimal number without a sign: digits, of which a point may separate
some, and an exponent. -/
def isDecimal (text : List Char) : Bool :=
  let whole := text.takeWhile Char.isDigit
  match text.drop whole.length with
  | '.' :: rest =>
    let part := rest.takeWhile Char.isDigit
    !(whole ++ part).isEmpty && isExponent (rest.drop part.length)
  | rest => !whole.isEmpty && isExponent rest

/-- Whether the text is a number: a decimal, an infinity or no number at all, with a sign or
without. -/
def isNumber (text : List Char) : Bool :=
  let magnitude :=
    match text with
    | '+' :: rest => rest
    | '-' :: rest => rest
    | rest => rest
  isDecimal magnitude ||
    ["inf", "infinity", "nan"].contains (String.ofList (magnitude.map Char.toLower))

/-- Whether the text can be asked of a value: a number or a pattern. -/
def isValue (text : List Char) : Bool :=
  isNumber text || Text.isPattern text

/-- Reads what stands in braces. What follows a second equals sign says nothing. -/
def field? (text : List Char) : Option FieldTest :=
  if text = [] then none
  else
    match text.splitOn '=' with
    | [] => none
    | [name] => some ⟨name, false⟩
    | name :: value :: _ => if isValue value then some ⟨name, true⟩ else none

/-! ### Cutting -/

/-- Drops so many bytes, `none` if that would cut a character. -/
def dropBytes? : Nat → List Char → Option (List Char)
  | 0, text => some text
  | _ + 1, [] => none
  | n + 1, c :: rest => if c.utf8Size ≤ n + 1 then dropBytes? (n + 1 - c.utf8Size) rest else none

/-- Takes so many bytes, `none` if that would cut a character. -/
def takeBytes? : Nat → List Char → Option (List Char)
  | 0, _ => some []
  | _ + 1, [] => none
  | n + 1, c :: rest =>
    if c.utf8Size ≤ n + 1 then (takeBytes? (n + 1 - c.utf8Size) rest).map (c :: ·) else none

/-- The part of a text between two places that are counted in bytes. -/
def cut? (text : List Char) (start stop : Nat) : Option (List Char) :=
  (dropBytes? start text).bind (takeBytes? (stop - start))

/-! ### Reading -/

/-- The part of a directive that is being read, with the place where it starts. -/
inductive Part where
  | start
  | name
  | span (start : Nat)
  | field (start : Nat)
  | afterField
  | afterSpan
  | level (start : Nat)
  deriving DecidableEq, Repr

/-- What has been read of a directive: the part that goes on, the place that has been reached,
and what earlier parts have given. -/
structure Scan where
  part : Part := .start
  place : Nat := 0
  target : Option (List Char) := none
  span : Option (List Char) := none
  field : Option FieldTest := none
  deriving DecidableEq, Repr

/-- Whether a directive without brackets in front may start with this character. -/
def isNameStart (c : Char) : Bool :=
  c = '-' || c = ':' || c = '_' || Text.isLetterOrNumber c

namespace Scan

/-- Goes on to a part after the next character. -/
def turn (part : Nat → Part) (s : Scan) : Scan :=
  { s with part := part (s.place + 1) }

/-- Takes the next character of a directive with the given text. -/
def take (text : List Char) (s : Scan) (c : Char) : Option Scan :=
  match s.part, c with
  | .start, '[' => some (s.turn .span)
  | .start, c => if isNameStart c then some { s with part := .name } else none
  | .name, '=' => do
    let target ← cut? text 0 s.place
    some { s.turn .level with target := some target }
  | .name, '[' => do
    let target ← cut? text 0 s.place
    some { s.turn .span with target := some target }
  | .span start, ']' => do
    let span ← cut? text start s.place
    some { s with part := .afterSpan, span := some span }
  | .span start, '\x7b' => do
    let span ← cut? text start s.place
    some { s.turn .field with span := if span = [] then none else some span }
  | .field start, '\x7d' => do
    let field ← field? (← cut? text start s.place)
    some { s with part := .afterField, field := some field }
  | .afterField, ']' => some { s with part := .afterSpan }
  | .afterSpan, '=' => some (s.turn .level)
  | .afterField, _ => none
  | .afterSpan, _ => none
  | _, _ => some s

def step (text : List Char) (s : Scan) (c : Char) : Option Scan :=
  (s.take text c).map fun s => { s with place := s.place + c.utf8Size }

def finish? (text : List Char) (s : Scan) : Option Directive :=
  match s.part with
  | .name =>
    match rank? text with
    | some rank => some ⟨none, none, none, rank⟩
    | none => some ⟨some text, none, none, Level.trace.rank⟩
  | .level start =>
    ((dropBytes? start text).bind rankAfterSign?).map (⟨s.target, s.span, s.field, ·⟩)
  | .afterSpan => some ⟨s.target, s.span, s.field, Level.trace.rank⟩
  | _ => none

end Scan

def parse? (text : List Char) : Option Directive :=
  ((Text.trim text).foldlM (Scan.step text) {}).bind (Scan.finish? text)

end Directive

end Telemetry
