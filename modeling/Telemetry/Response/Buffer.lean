import Telemetry.Response.Writer

/-!
Responses kept in memory.

The first status wins, as on a connection where it has already been sent; a later one only leaves
a line in the log. A write without a status makes it 200.
-/
namespace Telemetry

/-- A response that is being written. -/
structure BufferedResponse where
  status : Option Http.Status
  headers : Http.Headers
  body : Bytes
  deriving DecidableEq, Repr

namespace BufferedResponse

def empty : BufferedResponse := ⟨none, [], []⟩

instance : Inhabited BufferedResponse := ⟨empty⟩

/-- The line about a status that comes too late. -/
def superfluous (status current : Http.Status) : LogLine :=
  .debug ("Superfluous write_header(" ++ status.describe ++ "), status already " ++
    current.describe)

def writer : Writer BufferedResponse where
  headers b := b.headers
  setHeaders headers b := { b with headers }
  write bytes b :=
    let status := b.status.getD .ok
    ((.ok bytes.length, { b with status := some status, body := b.body ++ bytes }), [])
  writeHeader status b :=
    match b.status with
    | none => ({ b with status := some status }, [])
    | some current => (b, [superfluous status current])

/-- The finished response; it is a 200 if no status was written. -/
def toResponse (b : BufferedResponse) : Http.Response :=
  ⟨b.status.getD .ok, b.headers, b.body⟩

end BufferedResponse

end Telemetry
