import Telemetry.Http.Status
import Telemetry.Http.Header
import Telemetry.Http.Target
import Telemetry.Text.Integer

/-!
HTTP requests and responses in memory.
-/
namespace Telemetry.Http

/-- Whether the string is a method: a token in any letter case. -/
def isMethod (s : String) : Bool :=
  !s.isEmpty && s.toList.all isTokenChar

/-- A request with its whole body. -/
structure Request where
  method : String
  target : Target
  headers : Headers
  body : Bytes
  deriving DecidableEq, Repr

/-- The path of a request, without its query. -/
def Request.path (r : Request) : String := r.target.path

/-- A response with its whole body. -/
structure Response where
  status : Status
  headers : Headers
  body : Bytes
  deriving DecidableEq, Repr

/-- A response that is nothing but a status and a text. -/
def Response.plain (status : Status) (text : String) : Response :=
  ⟨status, [], Text.Utf8.ofString text⟩

namespace Response

/-- A line of a response. -/
def line (bytes : Bytes) : Bytes := bytes ++ [0x0D, 0x0A]

/-- The bytes of a response whose body has a length. -/
def bytes (r : Response) : Bytes :=
  let colon := Text.Utf8.ofString ": "
  line (Text.Utf8.ofString ("HTTP/1.1 " ++ r.status.describe)) ++
    r.headers.flatMap (fun (name, value) =>
      line (Text.Utf8.ofString name.toString ++ colon ++ value.bytes)) ++
    line (Text.Utf8.ofString HeaderName.contentLength.toString ++ colon ++
      Text.Utf8.encode (Text.decimal r.body.length)) ++
    line [] ++ r.body

end Response

end Telemetry.Http
