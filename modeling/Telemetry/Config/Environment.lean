import Telemetry.Text.Blank
import Telemetry.Text.Integer
import Telemetry.Text.Utf8
import Telemetry.Text.LetterCase

/-!
Environment variables.

A variable holds bytes. One whose bytes are not well-formed UTF-8 counts as unset.
-/
namespace Telemetry

/-- The environment of a process: names and values. -/
structure Environment where
  entries : List (String × Bytes)
  deriving DecidableEq, Repr, Inhabited

/-- Why a configuration is refused. -/
inductive ConfigError where
  | invalid (reason : String)
  | missingToken
  deriving DecidableEq, Repr

def ConfigError.message : ConfigError → String
  | .invalid reason => "Invalid configuration: " ++ reason
  | .missingToken => "Missing API token, set DEFERPANIC_TOKEN or enable no_post"

namespace Environment

/-- The text of a variable, `none` if it is unset. -/
def get? (env : Environment) (name : String) : Option String :=
  (env.entries.lookup name).bind Text.Utf8.toString?

/-- Whether a variable switches something on: it reads `true` in any letter case, or `1`. -/
def flag (env : Environment) (name : String) : Bool :=
  match env.get? name with
  | some text => Text.lowered text = "true" || Text.lowered text = "1"
  | none => false

/-- Reads a variable as a number with white space around it, `none` if it is unset. -/
def number (env : Environment) (name : String)
    (read : List Char → Except Text.IntegerError α) : Except ConfigError (Option α) :=
  match env.get? name with
  | none => .ok none
  | some text =>
    match read (Text.trim text.toList) with
    | .ok n => .ok (some n)
    | .error e => .error (.invalid (name ++ "=" ++ text ++ ": " ++ e.message))

end Environment

end Telemetry
