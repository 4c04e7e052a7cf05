import Telemetry.Response.Writer

/-!
A writer with a limit.

It takes at most so many bytes per write, or refuses every write with a broken pipe. It keeps
every status it is given.
-/
namespace Telemetry

/-- What a restricted writer does with a write. -/
inductive Restriction where
  | refuses (message : String)
  | takes (limit : Nat)
  | takesAll
  deriving DecidableEq, Repr

/-- What a restricted writer has been given. -/
structure RestrictedResponse where
  statuses : List Http.Status
  headers : Http.Headers
  body : Bytes
  deriving DecidableEq, Repr

namespace RestrictedResponse

def empty : RestrictedResponse := ⟨[], [], []⟩

/-- The bytes of a write that are taken. -/
def accepted (restriction : Restriction) (bytes : Bytes) : Except IoError Bytes :=
  match restriction with
  | .refuses message => .error ⟨"BrokenPipe", message⟩
  | .takes limit => .ok (bytes.take limit)
  | .takesAll => .ok bytes

def writer (restriction : Restriction) : Writer RestrictedResponse where
  headers r := r.headers
  setHeaders headers r := { r with headers }
  write bytes r :=
    match accepted restriction bytes with
    | .ok taken => ((.ok taken.length, { r with body := r.body ++ taken }), [])
    | .error e => ((.error e, r), [])
  writeHeader status r := ({ r with statuses := r.statuses ++ [status] }, [])

end RestrictedResponse

end Telemetry
