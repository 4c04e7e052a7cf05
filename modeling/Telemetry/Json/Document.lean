import Telemetry.Json.Token

/-!
JSON documents.

A document is the concrete syntax of one value, as far as it could be read: where the text
breaks a rule of JSON, the containers that were open at that place end with the reason. A
reader of a typed value walks a document from left to right and so meets the first problem of
the text first, be it one of form or one of type. A document without such places is sound.
-/
namespace Telemetry.Json

/-- A text as far as it was read: `cut` is `none` if it has its closing quote. -/
structure Quotation where
  pieces : List Piece
  cut : Option Cut
  deriving DecidableEq, Repr

/-- How the items of an array end. -/
inductive ArrayStop where
  | closed
  | ended
  | noComma
  | commaThenClose
  | commaThenEnd
  deriving DecidableEq, Repr

/-- How the members of an object end. -/
inductive ObjectStop where
  | closed
  | ended
  | noComma
  | commaThenClose
  | commaThenEnd
  | noKey
  | badKey (key : Quotation)
  | noColon (key : Quotation) (atEnd : Bool)
  deriving DecidableEq, Repr

mutual

/-- A document. `absent` stands where the input ended before a value. -/
inductive Document where
  | word (w : Word)
  | number (numeral : Bytes)
  | text (pieces : List Piece)
  | array (items : Items)
  | object (members : Members)
  | absent
  | faulty (fault : Fault)

/-- The items of an array in order. -/
inductive Items where
  | stop (reason : ArrayStop)
  | next (item : Document) (rest : Items)

/-- The members of an object in order. -/
inductive Members where
  | stop (reason : ObjectStop)
  | next (key : List Piece) (value : Document) (rest : Members)

end

def Items.toList : Items → List Document
  | .stop _ => []
  | .next item rest => item :: rest.toList

def Items.ofList (reason : ArrayStop) : List Document → Items
  | [] => .stop reason
  | item :: rest => .next item (ofList reason rest)

def Members.toList : Members → List (List Piece × Document)
  | .stop _ => []
  | .next key value rest => (key, value) :: rest.toList

def Members.ofList (reason : ObjectStop) : List (List Piece × Document) → Members
  | [] => .stop reason
  | (key, value) :: rest => .next key value (ofList reason rest)

namespace Document

/-- A container that waits for the value that is being read: what it holds so far, the last
first. -/
inductive Frame where
  | items (read : List Document)
  | member (read : List (List Piece × Document)) (key : List Piece)

/-- Where the reader stands in the innermost container. -/
inductive Place where
  | value
  | firstItem
  | afterItem (read : List Document)
  | nextItem (read : List Document)
  | firstMember
  | afterMember (read : List (List Piece × Document))
  | nextMember (read : List (List Piece × Document))
  | colon (read : List (List Piece × Document)) (key : List Piece)

/-- What a token leads to: another place, the whole document, or a document that breaks off. -/
inductive Move where
  | goTo (outer : List Frame) (place : Place)
  | done (document : Document)
  | broken (document : Document)

/-- An array from its items, the last first. -/
def arrayOf (read : List Document) (reason : ArrayStop) : Document :=
  .array (Items.ofList reason read.reverse)

/-- An object from its members, the last first. -/
def objectOf (read : List (List Piece × Document)) (reason : ObjectStop) : Document :=
  .object (Members.ofList reason read.reverse)

/-- Puts a finished value where it belongs. -/
def settle (outer : List Frame) (d : Document) : Move :=
  match outer with
  | [] => .done d
  | .items read :: outer => .goTo outer (.afterItem (d :: read))
  | .member read key :: outer => .goTo outer (.afterMember ((key, d) :: read))

/-- Closes every open container around a value that breaks off. -/
def abandon (d : Document) : List Frame → Document
  | [] => d
  | .items read :: outer => abandon (arrayOf (d :: read) .ended) outer
  | .member read key :: outer => abandon (objectOf ((key, d) :: read) .ended) outer

/-- Reads the first token of a value. -/
def enter (outer : List Frame) (t : Token) : Move :=
  match t with
  | .word w => settle outer (.word w)
  | .number numeral => settle outer (.number numeral)
  | .text pieces => settle outer (.text pieces)
  | .openArray => .goTo outer .firstItem
  | .openObject => .goTo outer .firstMember
  | .faulty fault => .broken (abandon (.faulty fault) outer)
  | .closeArray | .closeObject | .comma | .colon => .broken (abandon (.faulty .stray) outer)

/-- Reads a token where a key should stand. -/
def enterKey (outer : List Frame) (read : List (List Piece × Document)) (t : Token) : Move :=
  match t with
  | .text key => .goTo outer (.colon read key)
  | .faulty (.text pieces cut) =>
    .broken (abandon (objectOf read (.badKey ⟨pieces, some cut⟩)) outer)
  | _ => .broken (abandon (objectOf read .noKey) outer)

def step (outer : List Frame) (place : Place) (t : Token) : Move :=
  match place with
  | .value => enter outer t
  | .firstItem =>
    match t with
    | .closeArray => settle outer (arrayOf [] .closed)
    | t => enter (.items [] :: outer) t
  | .afterItem read =>
    match t with
    | .closeArray => settle outer (arrayOf read .closed)
    | .comma => .goTo outer (.nextItem read)
    | _ => .broken (abandon (arrayOf read .noComma) outer)
  | .nextItem read =>
    match t with
    | .closeArray => .broken (abandon (arrayOf read .commaThenClose) outer)
    | t => enter (.items read :: outer) t
  | .firstMember =>
    match t with
    | .closeObject => settle outer (objectOf [] .closed)
    | t => enterKey outer [] t
  | .afterMember read =>
    match t with
    | .closeObject => settle outer (objectOf read .closed)
    | .comma => .goTo outer (.nextMember read)
    | _ => .broken (abandon (objectOf read .noComma) outer)
  | .nextMember read =>
    match t with
    | .closeObject => .broken (abandon (objectOf read .commaThenClose) outer)
    | t => enterKey outer read t
  | .colon read key =>
    match t with
    | .colon => .goTo (.member read key :: outer) .value
    | _ => .broken (abandon (objectOf read (.noColon ⟨key, none⟩ false)) outer)

/-- The document that the end of the input leaves. -/
def finish (outer : List Frame) (place : Place) : Document :=
  match place with
  | .value => abandon .absent outer
  | .firstItem => abandon (arrayOf [] .ended) outer
  | .afterItem read => abandon (arrayOf read .ended) outer
  | .nextItem read => abandon (arrayOf read .commaThenEnd) outer
  | .firstMember => abandon (objectOf [] .ended) outer
  | .afterMember read => abandon (objectOf read .ended) outer
  | .nextMember read => abandon (objectOf read .commaThenEnd) outer
  | .colon read key => abandon (objectOf read (.noColon ⟨key, none⟩ true)) outer

/-- The document from a place on, with the tokens after it. -/
def build (outer : List Frame) (place : Place) : List Token → Document × List Token
  | [] => (finish outer place, [])
  | t :: rest =>
    match step outer place t with
    | .goTo outer place => build outer place rest
    | .done d => (d, rest)
    | .broken d => (d, [])

/-- The document at the start of a token list, with the tokens after it. -/
def ofTokens (tokens : List Token) : Document × List Token :=
  build [] .value tokens

end Document

mutual

def Document.tokens : Document → List Token
  | .word w => [.word w]
  | .number numeral => [.number numeral]
  | .text pieces => [.text pieces]
  | .array items => .openArray :: items.tokens true
  | .object members => .openObject :: members.tokens true
  | .absent => []
  | .faulty fault => [.faulty fault]

/-- The tokens of the items that follow, with a comma before each but the first. -/
def Items.tokens (first : Bool) : Items → List Token
  | .stop _ => [.closeArray]
  | .next item rest =>
    (if first then [] else [.comma]) ++ item.tokens ++ rest.tokens false

/-- The tokens of the members that follow, with a comma before each but the first. -/
def Members.tokens (first : Bool) : Members → List Token
  | .stop _ => [.closeObject]
  | .next key value rest =>
    (if first then [] else [.comma]) ++ [.text key, .colon] ++ value.tokens ++ rest.tokens false

end

mutual

/-- Whether the document was read to its end. -/
def Document.isSound : Document → Bool
  | .word _ | .number _ | .text _ => true
  | .array items => items.isSound
  | .object members => members.isSound
  | .absent | .faulty _ => false

/-- Whether the items were read to the closing bracket. -/
def Items.isSound : Items → Bool
  | .stop reason => reason = .closed
  | .next item rest => item.isSound && rest.isSound

/-- Whether the members were read to the closing brace. -/
def Members.isSound : Members → Bool
  | .stop reason => reason = .closed
  | .next _ value rest => value.isSound && rest.isSound

end

/-- The bytes of a document without white space. -/
def Document.bytes (d : Document) : Bytes :=
  d.tokens.flatMap Token.bytes

/-! ### Documents of plain values -/

/-- The lower-case hexadecimal digit of a number below sixteen. -/
def hexDigit (n : Nat) : UInt8 :=
  if n < 10 then UInt8.ofNat (0x30 + n) else UInt8.ofNat (0x57 + n)

/-- The pieces that a character is written as: only a quote, a backslash and the characters
below U+0020 are escaped, by a letter where there is one. -/
def piecesOf (c : Char) : List Piece :=
  if c = '\"' then [.escape 0x22]
  else if c = '\\' then [.escape 0x5C]
  else if c.toNat = 0x08 then [.escape 0x62]
  else if c.toNat = 0x0C then [.escape 0x66]
  else if c = '\n' then [.escape 0x6E]
  else if c = '\r' then [.escape 0x72]
  else if c = '\t' then [.escape 0x74]
  else if c.toNat < 0x20 then
    [.unit 0x30 0x30 (hexDigit (c.toNat / 16)) (hexDigit (c.toNat % 16))]
  else (Text.Utf8.encodeChar c).map .byte

def pieces (s : String) : List Piece :=
  s.toList.flatMap piecesOf

namespace Document

def ofString (s : String) : Document :=
  .text (pieces s)

def ofInt (n : Int) : Document :=
  .number (Numeral.ofInt n)

def ofBool (b : Bool) : Document :=
  .word (if b then .yes else .no)

def ofList (items : List Document) : Document :=
  .array (Items.ofList .closed items)

def ofMembers (members : List (String × Document)) : Document :=
  .object (Members.ofList .closed (members.map fun (key, value) => (pieces key, value)))

end Document

end Telemetry.Json
