import Telemetry.Json.Document
import Telemetry.Json.Error
import Telemetry.Decimal.Shortest

/-!
Values read from JSON documents.

Every reader walks its document from left to right and stops at the first problem, so a wrong
type early in a text is reported before a broken rule later in it. A record may be written as
an object or as an array of its fields in order. Members with unknown names are passed over;
inside them only the form is checked, and neither Unicode nor the size of numbers.
-/
namespace Telemetry.Json

abbrev Result (α : Type) := Except DecodeError α

variable {α κ : Type}

/-- Doubles are written positionally from `1e-5` up to below `1e16`. -/
def doubleLayout : Decimal.Layout := ⟨-5, 15⟩

/-! ### Texts -/

def hexValue (b : UInt8) : Nat :=
  if b ≤ 0x39 then b.toNat - 0x30 else if b ≤ 0x46 then b.toNat - 0x37 else b.toNat - 0x57

def unitValue (a b c d : UInt8) : Nat :=
  ((hexValue a * 16 + hexValue b) * 16 + hexValue c) * 16 + hexValue d

def escapedByte (letter : UInt8) : UInt8 :=
  if letter = 0x62 then 0x08
  else if letter = 0x66 then 0x0C
  else if letter = 0x6E then 0x0A
  else if letter = 0x72 then 0x0D
  else if letter = 0x74 then 0x09
  else letter

/-- The error of a text that breaks off. -/
def Cut.error : Cut → DecodeError
  | .ended _ => .endInString
  | .control => .controlCharacter
  | .badEscape => .invalidEscape
  | .badUnit => .invalidEscape

/-- The error after a high surrogate that is the last piece of its text. -/
def unpairedError : Option Cut → DecodeError
  | some (.ended _) => .endInString
  | some .badUnit => .invalidEscape
  | _ => .unpairedSurrogate

namespace Quotation

/-- The bytes that pieces stand for; surrogates must come in pairs. -/
def pieceBytes (cut : Option Cut) : List Piece → Result Bytes
  | [] =>
    match cut with
    | none => .ok []
    | some cut => .error cut.error
  | .byte b :: rest => (pieceBytes cut rest).map (b :: ·)
  | .escape letter :: rest => (pieceBytes cut rest).map (escapedByte letter :: ·)
  | .unit a b c d :: rest =>
    let high := unitValue a b c d
    if 0xDC00 ≤ high ∧ high ≤ 0xDFFF then .error .loneSurrogate
    else if 0xD800 ≤ high ∧ high ≤ 0xDBFF then
      match rest with
      | .unit a b c d :: rest =>
        let low := unitValue a b c d
        if 0xDC00 ≤ low ∧ low ≤ 0xDFFF then
          let c := Char.ofNat (0x10000 + (high - 0xD800) * 0x400 + (low - 0xDC00))
          (pieceBytes cut rest).map (Text.Utf8.encodeChar c ++ ·)
        else .error .loneSurrogate
      | [] => .error (unpairedError cut)
      | _ :: _ => .error .unpairedSurrogate
    else (pieceBytes cut rest).map (Text.Utf8.encodeChar (Char.ofNat high) ++ ·)

/-- The string of a text, which must be well-formed Unicode. -/
def read (q : Quotation) : Result String := do
  let bytes ← pieceBytes q.cut q.pieces
  match Text.Utf8.toString? bytes with
  | some s => .ok s
  | none => .error .invalidCodePoint

end Quotation

/-! ### Values passed over -/

/-- The error of a faulty token inside a value that is passed over. -/
def Fault.error : Fault → DecodeError
  | .stray => .expectedValue
  | .word atEnd => if atEnd then .endInValue else .expectedWord
  | .number _ => .invalidNumber
  | .text _ cut => cut.error

/-- How the end of an array is judged inside a value that is passed over. -/
def ArrayStop.skip : ArrayStop → Result Unit
  | .closed => .ok ()
  | .ended => .error .endInList
  | .noComma => .error .expectedCommaOrBracket
  | .commaThenClose => .error .expectedValue
  | .commaThenEnd => .error .endInValue

/-- How the end of an object is judged inside a value that is passed over. -/
def ObjectStop.skip : ObjectStop → Result Unit
  | .closed => .ok ()
  | .ended => .error .endInObject
  | .noComma => .error .expectedCommaOrBrace
  | .commaThenClose => .error .keyMustBeString
  | .commaThenEnd => .error .endInObject
  | .noKey => .error .keyMustBeString
  | .badKey key => .error ((key.cut.map Cut.error).getD .keyMustBeString)
  | .noColon _ atEnd => .error (if atEnd then .endInObject else .expectedColon)

mutual

/-- Passes over a value of any type. -/
def Document.skip : Document → Result Unit
  | .word _ | .number _ | .text _ => .ok ()
  | .array items => items.skip
  | .object members => members.skip
  | .absent => .error .endInValue
  | .faulty fault => .error fault.error

def Items.skip : Items → Result Unit
  | .stop reason => reason.skip
  | .next item rest =>
    match item.skip with
    | .error e => .error e
    | .ok () => rest.skip

def Members.skip : Members → Result Unit
  | .stop reason => reason.skip
  | .next _ value rest =>
    match value.skip with
    | .error e => .error e
    | .ok () => rest.skip

end

/-! ### Scalars -/

def numeralValue (numeral : Bytes) : Result Numeral.Value :=
  match Numeral.value? numeral with
  | some v => .ok v
  | none => .error .numberOutOfRange

def Found.ofDouble (x : Float) : Found :=
  .floating (String.ofList (doubleLayout.text x))

def Found.ofValue : Numeral.Value → Found
  | .natural n => .integer (Int.ofNat n)
  | .negative n => .integer (-Int.ofNat n)
  | .double x => .ofDouble x

namespace Document

/-- What stands in the place of a value. A container is known by its first token, a scalar is
read to its end. -/
def found : Document → Result Found
  | .word .null => .ok .null
  | .word .yes => .ok (.boolean true)
  | .word .no => .ok (.boolean false)
  | .number numeral => (numeralValue numeral).map Found.ofValue
  | .text pieces => (Quotation.read ⟨pieces, none⟩).map Found.text
  | .array _ => .ok .sequence
  | .object _ => .ok .map
  | .absent => .error .endInValue
  | .faulty fault =>
    match fault with
    | .number true => .error .endInValue
    | .text pieces cut => (Quotation.read ⟨pieces, some cut⟩).map Found.text
    | fault => .error fault.error

/-- The error of a value that is not what was expected. -/
def mismatch (d : Document) (expected : String) : DecodeError :=
  match d.found with
  | .ok found => .invalidType found expected
  | .error e => e

def readString (d : Document) : Result String :=
  match d with
  | .text pieces => Quotation.read ⟨pieces, none⟩
  | d => .error (d.mismatch "a string")

def readBool (d : Document) : Result Bool :=
  match d with
  | .word .yes => .ok true
  | .word .no => .ok false
  | d => .error (d.mismatch "a boolean")

end Document

namespace Numeral

/-- The natural number of a value, at most `limit`. -/
def Value.toNat (limit : Nat) (expected : String) : Value → Result Nat
  | .natural n =>
    if n ≤ limit then .ok n else .error (.invalidValue (Int.ofNat n) expected)
  | .negative n => .error (.invalidValue (-Int.ofNat n) expected)
  | .double x => .error (.invalidType (.ofDouble x) expected)

def Value.toInt64 : Value → Result Int64
  | .natural n =>
    if n < Text.int64Half then .ok (Int64.ofInt (Int.ofNat n))
    else .error (.invalidValue (Int.ofNat n) "i64")
  | .negative n => .ok (Int64.ofInt (-Int.ofNat n))
  | .double x => .error (.invalidType (.ofDouble x) "i64")

def Value.toUInt64 (v : Value) : Result UInt64 :=
  (v.toNat (UInt64.size - 1) "u64").map UInt64.ofNat

def Value.toUInt16 (v : Value) : Result UInt16 :=
  (v.toNat (UInt16.size - 1) "u16").map UInt16.ofNat

end Numeral

namespace Document

/-- Reads a number through a conversion. -/
def readNumber (expected : String) (convert : Numeral.Value → Result α) (d : Document) :
    Result α :=
  match d with
  | .number numeral => do convert (← numeralValue numeral)
  | d => .error (d.mismatch expected)

def readInt64 : Document → Result Int64 :=
  readNumber "i64" Numeral.Value.toInt64

def readUInt64 : Document → Result UInt64 :=
  readNumber "u64" Numeral.Value.toUInt64

def readUInt16 : Document → Result UInt16 :=
  readNumber "u16" Numeral.Value.toUInt16

/-- Reads `null` as nothing and any other value as given. -/
def readOptional (read : Document → Result α) (d : Document) : Result (Option α) :=
  match d with
  | .word .null => .ok none
  | d => (read d).map some

end Document

/-! ### Lists and dictionaries -/

/-- How the end of an array is judged in a list. -/
def ArrayStop.list : ArrayStop → Result Unit
  | .closed => .ok ()
  | .ended => .error .endInList
  | .noComma => .error .expectedCommaOrBracket
  | .commaThenClose => .error .trailingComma
  | .commaThenEnd => .error .endInValue

def Items.readAll (read : Document → Result α) : Items → Result (List α)
  | .stop reason => reason.list.map fun _ => []
  | .next item rest => do
    let value ← read item
    let values ← rest.readAll read
    return value :: values

def Document.readList (read : Document → Result α) (d : Document) : Result (List α) :=
  match d with
  | .array items => items.readAll read
  | d => .error (d.mismatch "a sequence")

/-- How the end of an object is judged where `readKey` reads the keys. -/
def ObjectStop.read (readKey : Quotation → Result κ) : ObjectStop → Result Unit
  | .closed => .ok ()
  | .ended => .error .endInObject
  | .noComma => .error .expectedCommaOrBrace
  | .commaThenClose => .error .trailingComma
  | .commaThenEnd => .error .endInValue
  | .noKey => .error .keyMustBeString
  | .badKey key => (readKey key).bind fun _ => .error .expectedColon
  | .noColon key atEnd =>
    (readKey key).bind fun _ => .error (if atEnd then .endInObject else .expectedColon)

def Members.readAll (readKey : Quotation → Result κ) (readValue : Document → Result α) :
    Members → Result (List (κ × α))
  | .stop reason => (reason.read readKey).map fun _ => []
  | .next key value rest => do
    let key ← readKey ⟨key, none⟩
    let value ← readValue value
    let entries ← rest.readAll readKey readValue
    return (key, value) :: entries

/-- Reads the entries of a dictionary in the order in which they are written. -/
def Document.readEntries (readKey : Quotation → Result κ) (readValue : Document → Result α)
    (d : Document) : Result (List (κ × α)) :=
  match d with
  | .object members => members.readAll readKey readValue
  | d => .error (d.mismatch "a map")

namespace Quotation

/-- The bytes that stand for themselves at the start of a text. -/
def plainBytes : List Piece → Bytes
  | .byte b :: rest => b :: plainBytes rest
  | _ => []

/-- Reads a numeral byte by byte: the bytes it consists of and whether it is broken or may end
where it stopped. -/
def takeNumeral (state : Numeral.State) : Bytes → Bytes × Option Numeral.State
  | [] => ([], some state)
  | b :: rest =>
    match state.step b with
    | .goesOn state =>
      let (numeral, state) := takeNumeral state rest
      (b :: numeral, state)
    | .ends => ([], some state)
    | .breaks => ([], none)

/-- Reads a key that is a numeral in quotes and nothing else. -/
def readNumeral (convert : Numeral.Value → Result α) (q : Quotation) : Result α :=
  let plain := plainBytes q.pieces
  match plain with
  | [] => .error .expectedNumericKey
  | b :: rest =>
    match Numeral.start? b with
    | none => .error .expectedNumericKey
    | some state =>
      let (numeral, state) := takeNumeral state rest
      match state with
      | none => .error .invalidNumber
      | some state =>
        let atEnd := q.cut = some (.ended false) ∧ numeral.length + 1 = q.pieces.length
        if state.isComplete then do
          let value ← convert (← numeralValue (b :: numeral))
          if q.cut = none ∧ numeral.length + 1 = q.pieces.length then .ok value
          else .error .expectedQuote
        else if atEnd then .error .endInValue
        else .error .invalidNumber

end Quotation

/-! ### Records -/

/-- A field of a record: its name, whether it must be present, and the check of its value. -/
structure Field where
  name : String
  needed : Bool
  check : Document → Result Unit

/-- A field whose value is read by `read`. -/
def Field.of (name : String) (needed : Bool) (read : Document → Result α) : Field :=
  ⟨name, needed, fun d => (read d).map fun _ => ()⟩

/-- The fields of a record in their order, and the name of the record. -/
structure Shape where
  name : String
  fields : List Field

/-- The documents of a record's fields by name. -/
abbrev Row := List (String × Document)

namespace Shape

/-- Reads the rest of a record that is written as an array, `index` fields having been read. -/
def readItems (s : Shape) (index : Nat) : List Field → Items → Result Row
  | [], .stop reason =>
    match reason with
    | .closed => .ok []
    | .ended => .error .endInList
    | .commaThenClose => .error .trailingComma
    | .noComma | .commaThenEnd => .error .trailingCharacters
  | [], .next .. => .error .trailingCharacters
  | field :: fields, .stop reason => do
    reason.list
    if field.needed then
      let count := s.fields.length
      let plural := if count = 1 then "" else "s"
      .error (.invalidLength index s!"struct {s.name} with {count} element{plural}")
    else readItems s (index + 1) fields (.stop reason)
  | field :: fields, .next item rest => do
    field.check item
    let row ← readItems s (index + 1) fields rest
    return (field.name, item) :: row

/-- Reads a key of a record and looks for the field of that name, which must not be among the
names already `seen`. -/
def fieldOf (s : Shape) (seen : List String) (key : Quotation) : Result (String × Option Field) :=
  do
    let name ← key.read
    match s.fields.find? fun field => field.name = name with
    | none => return (name, none)
    | some field =>
      if name ∈ seen then .error (.duplicateField name) else return (name, some field)

/-- The first field that must be present and was not seen. -/
def missing? (s : Shape) (seen : List String) : Option String :=
  (s.fields.find? fun field => field.needed && !seen.contains field.name).map Field.name

/-- Reads the rest of a record that is written as an object. -/
def readMembers (s : Shape) (seen : List String) : Members → Result Row
  | .stop reason => do
    reason.read (s.fieldOf seen)
    match s.missing? seen with
    | some name => .error (.missingField name)
    | none => .ok []
  | .next key value rest => do
    let (name, field) ← s.fieldOf seen ⟨key, none⟩
    match field with
    | none =>
      value.skip
      readMembers s seen rest
    | some field =>
      field.check value
      let row ← readMembers s (name :: seen) rest
      return (name, value) :: row

def read (s : Shape) (d : Document) : Result Row :=
  match d with
  | .array items => s.readItems 0 s.fields items
  | .object members => s.readMembers [] members
  | d => .error (d.mismatch ("struct " ++ s.name))

end Shape

namespace Row

/-- The value of a field that must be present. -/
def need (row : Row) (name : String) (read : Document → Result α) : Result α :=
  match row.lookup name with
  | some d => read d
  | none => .error (.missingField name)

/-- The value of a field, or `absent` if the record does not have it. -/
def getD (row : Row) (name : String) (read : Document → Result α) (absent : α) : Result α :=
  match row.lookup name with
  | some d => read d
  | none => .ok absent

end Row

/-! ### Whole texts -/

/-- Decodes a byte string that holds one value and nothing after it but white space. -/
def decode (read : Document → Result α) (bytes : Bytes) : Result α := do
  let (document, rest) := Document.ofTokens (tokens bytes)
  let value ← read document
  if rest.isEmpty then .ok value else .error .trailingCharacters

end Telemetry.Json
