import Telemetry.Client.Send
import Telemetry.Stats.Upload

/-!
Uploading the statistics.

A flush drains the outcomes and then the counts, and uploads them unless both are empty. The
collector's answer to an upload is where commands come from.
-/
namespace Telemetry.Client

/-- Takes the outcomes of the process. -/
def takeOutcomes (h : Host) : List RequestOutcome × Host :=
  let (requests, outcomes) := h.outcomes.drain
  (requests, { h with outcomes })

/-- Takes the counts of the process, to be uploaded with outcomes that have been taken before. -/
def takeCounts (requests : List RequestOutcome) (h : Host) : StatsUpload × Host :=
  let (counts, statusCodes) := h.statusCodes.drain
  (⟨requests, counts⟩, { h with statusCodes })

/-- Takes the outcomes and then the counts. Others may come in between. -/
def drainStats (h : Host) : StatsUpload × Host :=
  let (requests, h) := takeOutcomes h
  takeCounts requests h

def flushLine (u : StatsUpload) : LogLine :=
  .debug ("Flushing " ++ String.ofList (Text.decimal u.requests.length) ++
    " recorded requests and " ++ String.ofList (Text.decimal u.statusCodes.size) ++
    " status codes")

/-- Uploads statistics that are not empty. -/
def upload (c : Client) (u : StatsUpload) (h : Host) : Host :=
  c.post u.encode (c.config.url statsPath) true (h.write (flushLine u))

/-- Drains the statistics and uploads them; `false` if there was nothing to upload. -/
def flush (c : Client) (h : Host) : Bool × Host :=
  let (u, h) := drainStats h
  if u.isEmpty then (false, h) else (true, c.upload u h)

end Telemetry.Client
