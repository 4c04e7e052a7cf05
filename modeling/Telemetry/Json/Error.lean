import Telemetry.Text.Quoted
import Telemetry.Text.Base64

/-!
What can be wrong with a JSON text.

An error is a cause. It is one of three kinds: the text breaks a rule of JSON, the text ends too
early, or a value is not of the type that is wanted. The wording stands in one place.
-/
namespace Telemetry.Json

/-- The kinds of decoding errors. -/
inductive ErrorKind where
  | malformed
  | truncated
  | unsuitable
  deriving DecidableEq, Repr

/-- What was found in the place of something else. -/
inductive Found where
  | null
  | boolean (b : Bool)
  | integer (n : Int)
  | floating (digits : String)
  | text (s : String)
  | sequence
  | map
  deriving DecidableEq, Repr

def Found.describe : Found → String
  | .null => "null"
  | .boolean b => s!"boolean `{b}`"
  | .integer n => s!"integer `{n}`"
  | .floating digits => s!"floating point `{digits}`"
  | .text s => "string " ++ Text.Quoted.quote s
  | .sequence => "sequence"
  | .map => "map"

/-- Why a text could not be decoded. -/
inductive DecodeError where
  | expectedValue
  | expectedWord
  | invalidNumber
  | numberOutOfRange
  | trailingCharacters
  | trailingComma
  | keyMustBeString
  | expectedColon
  | expectedCommaOrBrace
  | expectedCommaOrBracket
  | controlCharacter
  | invalidEscape
  | loneSurrogate
  | unpairedSurrogate
  | invalidCodePoint
  | expectedNumericKey
  | expectedQuote
  | endInValue
  | endInObject
  | endInList
  | endInString
  | invalidType (found : Found) (expected : String)
  | invalidValue (n : Int) (expected : String)
  | invalidLength (size : Nat) (expected : String)
  | missingField (name : String)
  | duplicateField (name : String)
  | invalidBase64 (cause : Text.Base64.Error)
  deriving DecidableEq, Repr

namespace DecodeError

def kind : DecodeError → ErrorKind
  | .endInValue | .endInObject | .endInList | .endInString => .truncated
  | .invalidType .. | .invalidValue .. | .invalidLength .. | .missingField _
  | .duplicateField _ | .invalidBase64 _ => .unsuitable
  | _ => .malformed

def message : DecodeError → String
  | .expectedValue => "expected value"
  | .expectedWord => "expected ident"
  | .invalidNumber => "invalid number"
  | .numberOutOfRange => "number out of range"
  | .trailingCharacters => "trailing characters"
  | .trailingComma => "trailing comma"
  | .keyMustBeString => "key must be a string"
  | .expectedColon => "expected `:`"
  | .expectedCommaOrBrace => "expected `,` or `\x7d`"
  | .expectedCommaOrBracket => "expected `,` or `]`"
  | .controlCharacter => "control character (\\u0000-\\u001F) found while parsing a string"
  | .invalidEscape => "invalid escape"
  | .loneSurrogate => "lone leading surrogate in hex escape"
  | .unpairedSurrogate => "unexpected end of hex escape"
  | .invalidCodePoint => "invalid unicode code point"
  | .expectedNumericKey => "invalid value: expected key to be a number in quotes"
  | .expectedQuote => "expected `\"`"
  | .endInValue => "EOF while parsing a value"
  | .endInObject => "EOF while parsing an object"
  | .endInList => "EOF while parsing a list"
  | .endInString => "EOF while parsing a string"
  | .invalidType found expected => "invalid type: " ++ found.describe ++ ", expected " ++ expected
  | .invalidValue n expected => s!"invalid value: integer `{n}`, expected " ++ expected
  | .invalidLength size expected => s!"invalid length {size}, expected " ++ expected
  | .missingField name => "missing field `" ++ name ++ "`"
  | .duplicateField name => "duplicate field `" ++ name ++ "`"
  | .invalidBase64 cause => cause.message

end DecodeError

end Telemetry.Json
