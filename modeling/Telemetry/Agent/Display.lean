import Telemetry.Log
import Telemetry.Text.Quoted

/-!
How a process shows the lines of its log.

A line is shown as its level, the part of the process that wrote it, and its text. Characters of
the text that could steer a terminal are written out, but a line end is left as it is, so a text
may take several lines.
-/
namespace Telemetry.Agent

/-- A line together with the part of the agent that wrote it. -/
structure TargetedLine where
  target : String
  line : LogLine
  deriving DecidableEq, Repr

/-- The name of a level in a shown line, five characters wide. -/
def levelName : Level → String
  | .error => "ERROR"
  | .warn => " WARN"
  | .info => " INFO"
  | .debug => "DEBUG"
  | .trace => "TRACE"

/-- The ASCII controls that steer a terminal, and what is shown instead. -/
def steeringControls : List (Char × String) :=
  [('\x07', "\\x07"), ('\x08', "\\x08"), ('\x0c', "\\x0c"), ('\x1b', "\\x1b"),
   ('\x7f', "\\x7f")]

/-- A character as it is shown. The controls beyond ASCII are shown by number. -/
def shownChar (c : Char) : List Char :=
  match steeringControls.lookup c with
  | some shown => shown.toList
  | none =>
    if 0x80 ≤ c.toNat ∧ c.toNat ≤ 0x9F then
      ['\\', 'u', '\x7b'] ++ Text.Quoted.hex c.toNat ++ ['\x7d']
    else [c]

def TargetedLine.render (t : TargetedLine) : String :=
  levelName t.line.level ++ " " ++ t.target ++ ": " ++
    String.ofList (t.line.text.toList.flatMap shownChar)

end Telemetry.Agent
