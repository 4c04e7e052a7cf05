/-!
What a command asks for.

Three captures are known. Any other wire text is kept as it came, so the wire text of a kind is
always the text it was read from.
-/
namespace Telemetry

/-- The captures that can be asked for. -/
inductive CaptureKind where
  | trace
  | cpuProfile
  | memProfile
  deriving DecidableEq, Repr, Inhabited

def CaptureKind.name : CaptureKind → String
  | .trace => "trace"
  | .cpuProfile => "cpu-profile"
  | .memProfile => "mem-profile"

/-- The kind of a command. -/
inductive CommandKind where
  | known (capture : CaptureKind)
  | unknown (text : String)
  deriving DecidableEq, Repr

namespace CommandKind

def ofName (text : String) : CommandKind :=
  if text = "trace" then .known .trace
  else if text = "cpu-profile" then .known .cpuProfile
  else if text = "mem-profile" then .known .memProfile
  else .unknown text

def name : CommandKind → String
  | .known capture => capture.name
  | .unknown text => text

theorem ofName_known (capture : CaptureKind) : ofName capture.name = .known capture := by
  cases capture <;> decide

theorem name_ofName (text : String) : (ofName text).name = text := by
  unfold ofName
  split
  · next h => exact h ▸ rfl
  split
  · next h => exact h ▸ rfl
  split
  · next h => exact h ▸ rfl
  · rfl

theorem ofName_eq_known {text : String} {capture : CaptureKind} :
    ofName text = .known capture ↔ text = capture.name := by
  constructor
  · intro h
    rw [← name_ofName text, h]
    rfl
  · rintro rfl
    exact ofName_known capture

end CommandKind

end Telemetry
