import Telemetry.Json.Numeral

/-!
The tokens of a JSON text.

Bytes become tokens one by one, without look at what the tokens are for. A byte string that no
token matches ends the list with one faulty token; the reader of the list decides whether the
fault itself or the place where it stands is the error. Text tokens keep their pieces as
written, since a skipped text need not be well-formed Unicode.
-/
namespace Telemetry.Json

/-- One piece of a text between quotes: a byte as it stands, a backslash with a letter, or a
backslash with `u` and four hexadecimal digits. -/
inductive Piece where
  | byte (b : UInt8)
  | escape (letter : UInt8)
  | unit (a b c d : UInt8)
  deriving DecidableEq, Repr

/-- Where a text that has no closing quote breaks off. -/
inductive Cut where
  | ended (afterBackslash : Bool)
  | control
  | badEscape
  | badUnit
  deriving DecidableEq, Repr

/-- The three words of JSON. -/
inductive Word where
  | null
  | yes
  | no
  deriving DecidableEq, Repr

/-- Why no token could be read: a byte that starts none, or a token that breaks off, `atEnd`
saying that the input ended there. -/
inductive Fault where
  | stray
  | word (atEnd : Bool)
  | number (atEnd : Bool)
  | text (pieces : List Piece) (cut : Cut)
  deriving DecidableEq, Repr

/-- A token. -/
inductive Token where
  | openArray
  | closeArray
  | openObject
  | closeObject
  | comma
  | colon
  | word (w : Word)
  | number (numeral : Bytes)
  | text (pieces : List Piece)
  | faulty (fault : Fault)
  deriving DecidableEq, Repr

/-- Whether the byte is white space between tokens. -/
def isSpace (b : UInt8) : Bool :=
  b == 0x20 || b == 0x09 || b == 0x0A || b == 0x0D

def isHexDigit (b : UInt8) : Bool :=
  isDigit b || (0x41 ≤ b && b ≤ 0x46) || (0x61 ≤ b && b ≤ 0x66)

/-- Whether the byte may follow a backslash on its own. -/
def isEscapeLetter (b : UInt8) : Bool :=
  b == 0x22 || b == 0x5C || b == 0x2F || b == 0x62 || b == 0x66 || b == 0x6E || b == 0x72 ||
    b == 0x74

def Word.letters : Word → Bytes
  | .null => [0x6E, 0x75, 0x6C, 0x6C]
  | .yes => [0x74, 0x72, 0x75, 0x65]
  | .no => [0x66, 0x61, 0x6C, 0x73, 0x65]

namespace Lexer

/-- Where the lexer stands: between tokens, inside a word with the letters still to come, inside
a numeral, or inside a text. What has been read of a token is kept last byte first. -/
inductive Mode where
  | idle
  | word (w : Word) (left : Bytes)
  | number (read : Bytes) (state : Numeral.State)
  | text (read : List Piece)
  | backslash (read : List Piece)
  | unit (read : List Piece) (digits : Bytes)
  deriving DecidableEq, Repr

/-- Reads a byte between tokens: the tokens it completes and the next mode, if any. -/
def begin (b : UInt8) : List Token × Option Mode :=
  if isSpace b then ([], some .idle)
  else if b = 0x5B then ([.openArray], some .idle)
  else if b = 0x5D then ([.closeArray], some .idle)
  else if b = 0x7B then ([.openObject], some .idle)
  else if b = 0x7D then ([.closeObject], some .idle)
  else if b = 0x2C then ([.comma], some .idle)
  else if b = 0x3A then ([.colon], some .idle)
  else if b = 0x22 then ([], some (.text []))
  else if b = 0x6E then ([], some (.word .null [0x75, 0x6C, 0x6C]))
  else if b = 0x74 then ([], some (.word .yes [0x72, 0x75, 0x65]))
  else if b = 0x66 then ([], some (.word .no [0x61, 0x6C, 0x73, 0x65]))
  else
    match Numeral.start? b with
    | some state => ([], some (.number [b] state))
    | none => ([.faulty .stray], none)

def inText (read : List Piece) (b : UInt8) : List Token × Option Mode :=
  if b = 0x22 then ([.text read.reverse], some .idle)
  else if b = 0x5C then ([], some (.backslash read))
  else if b < 0x20 then ([.faulty (.text read.reverse .control)], none)
  else ([], some (.text (.byte b :: read)))

def afterBackslash (read : List Piece) (b : UInt8) : List Token × Option Mode :=
  if isEscapeLetter b then ([], some (.text (.escape b :: read)))
  else if b = 0x75 then ([], some (.unit read []))
  else ([.faulty (.text read.reverse .badEscape)], none)

/-- Reads a byte among the four digits after `\u`. Fewer than four bytes before the end of the
input count as its end, whatever they are. -/
def inUnit (read : List Piece) (digits : Bytes) (b : UInt8) (rest : Bytes) :
    List Token × Option Mode :=
  if isHexDigit b then
    match digits with
    | [z, y, x] => ([], some (.text (.unit x y z b :: read)))
    | _ => ([], some (.unit read (b :: digits)))
  else
    let cut := if digits.length + 1 + rest.length < 4 then .ended true else .badUnit
    ([.faulty (.text read.reverse cut)], none)

/-- Reads one byte, `rest` being the bytes after it: the tokens that it completes and the next
mode, `none` after a fault. -/
def step (mode : Mode) (b : UInt8) (rest : Bytes) : List Token × Option Mode :=
  match mode with
  | .idle => begin b
  | .word w left =>
    match left with
    | [] => begin b
    | letter :: left =>
      if b = letter then
        if left.isEmpty then ([.word w], some .idle) else ([], some (.word w left))
      else ([.faulty (.word false)], none)
  | .number read state =>
    match state.step b with
    | .goesOn state => ([], some (.number (b :: read) state))
    | .breaks => ([.faulty (.number false)], none)
    | .ends => (.number read.reverse :: (begin b).1, (begin b).2)
  | .text read => inText read b
  | .backslash read => afterBackslash read b
  | .unit read digits => inUnit read digits b rest

/-- The token that the end of the input leaves. -/
def finish : Mode → List Token
  | .idle => []
  | .word .. => [.faulty (.word true)]
  | .number read state =>
    if state.isComplete then [.number read.reverse] else [.faulty (.number true)]
  | .text read => [.faulty (.text read.reverse (.ended false))]
  | .backslash read => [.faulty (.text read.reverse (.ended true))]
  | .unit read _ => [.faulty (.text read.reverse (.ended true))]

/-- The tokens from a mode on. -/
def run (mode : Mode) : Bytes → List Token
  | [] => finish mode
  | b :: rest =>
    match step mode b rest with
    | (tokens, some mode) => tokens ++ run mode rest
    | (tokens, none) => tokens

end Lexer

def tokens (bytes : Bytes) : List Token :=
  Lexer.run .idle bytes

def Piece.bytes : Piece → Bytes
  | .byte b => [b]
  | .escape letter => [0x5C, letter]
  | .unit a b c d => [0x5C, 0x75, a, b, c, d]

/-- The bytes of a token that is not faulty. -/
def Token.bytes : Token → Bytes
  | .openArray => [0x5B]
  | .closeArray => [0x5D]
  | .openObject => [0x7B]
  | .closeObject => [0x7D]
  | .comma => [0x2C]
  | .colon => [0x3A]
  | .word w => w.letters
  | .number numeral => numeral
  | .text pieces => 0x22 :: pieces.flatMap Piece.bytes ++ [0x22]
  | .faulty _ => []

end Telemetry.Json
