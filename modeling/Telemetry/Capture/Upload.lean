import Telemetry.Json.Reader

/-!
Uploads of captures.

The captured bytes travel as base64. The package, the executable that a trace was taken from, is
left out when it is empty. `ignored` says that there was nothing to capture.
-/
namespace Telemetry

open Json

/-- The result of one capture. -/
structure CaptureUpload where
  commandId : Int64
  out : Bytes
  package : Bytes
  ignored : Bool
  deriving DecidableEq, Repr

namespace CaptureUpload

def bytesDocument (bytes : Bytes) : Document :=
  .text ((Text.Base64.encode bytes).map .byte)

def readBytes (d : Document) : Result Bytes := do
  let text ← d.readString
  match Text.Base64.decode (Text.Utf8.ofString text) with
  | .ok bytes => .ok bytes
  | .error cause => .error (.invalidBase64 cause)

def document (u : CaptureUpload) : Document :=
  .ofMembers ([("CommandId", .ofInt u.commandId.toInt), ("Out", bytesDocument u.out)] ++
    (if u.package.isEmpty then [] else [("Pkg", bytesDocument u.package)]) ++
    [("Ignored", .ofBool u.ignored)])

def shape : Shape :=
  ⟨"CaptureUpload", [.of "CommandId" true Document.readInt64, .of "Out" true readBytes,
    .of "Pkg" false readBytes, .of "Ignored" true Document.readBool]⟩

def read (d : Document) : Result CaptureUpload := do
  let row ← shape.read d
  let commandId ← row.need "CommandId" Document.readInt64
  let out ← row.need "Out" readBytes
  let package ← row.getD "Pkg" readBytes []
  let ignored ← row.need "Ignored" Document.readBool
  return ⟨commandId, out, package, ignored⟩

def encode (u : CaptureUpload) : Bytes :=
  u.document.bytes

def decode (bytes : Bytes) : Result CaptureUpload :=
  Json.decode read bytes

end CaptureUpload

end Telemetry
