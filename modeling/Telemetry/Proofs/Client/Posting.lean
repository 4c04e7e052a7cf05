import Telemetry.Proofs.Client.Headers
import Telemetry.Proofs.Commands.Replies
import Telemetry.Proofs.Commands.Selection

/-!
What becomes of a POST, case by case.

A POST is dropped, or it is handed to the transport once with the headers that the configuration
asks for. Then it fails, or its reply is passed over, or the reply is acted on as by a call of its
own. The status of the reply makes no difference to that.
-/
namespace Telemetry

theorem CommandRegistry.ext_ids {r s : CommandRegistry} (h : r.ids = s.ids) : r = s := by
  cases r
  cases s
  cases h
  rfl

namespace Client

variable (c : Client)

/-- A dispatch takes no notice of the POSTs and of the log. -/
theorem dispatch_unheeding (agent : Agent) (commands : List Command) (h : Host) (posts : List Post)
    (log : List LogLine) :
    ∃ after, (c.dispatch agent commands { h with posts := posts, log := log }).2 =
      { (c.dispatch agent commands h).2 with posts := posts, log := after } := by
  obtain ⟨registry, before, hids, hdispatch⟩ := c.dispatch_eq agent commands h
  obtain ⟨other, after, hother, hnoted⟩ :=
    c.dispatch_eq agent commands { h with posts := posts, log := log }
  refine ⟨after, ?_⟩
  rw [hdispatch, hnoted, CommandRegistry.ext_ids (hother.trans hids.symm)]

/-- An analysis takes no notice of the POSTs and of the log. -/
theorem analyse_unheeding (body : Bytes) (h : Host) (posts : List Post) (log : List LogLine) :
    ∃ after, (c.analyse body { h with posts := posts, log := log }).2 =
      { (c.analyse body h).2 with posts := posts, log := after } := by
  unfold analyse
  cases CollectorReply.decode body with
  | error e => exact ⟨_, rfl⟩
  | ok reply => exact c.dispatch_unheeding reply.agent reply.commands h posts log

/-- What a sender makes of the body of a reply. -/
def heed (seeks : Bool) (body : Bytes) (h : Host) : Host :=
  if seeks then (c.analyse body h).2 else h

theorem heed_unheeding (seeks : Bool) (body : Bytes) (h : Host) (posts : List Post)
    (log : List LogLine) :
    ∃ after, c.heed seeks body { h with posts := posts, log := log } =
      { c.heed seeks body h with posts := posts, log := after } := by
  cases seeks with
  | false => exact ⟨log, rfl⟩
  | true => exact c.analyse_unheeding body h posts log

/-- A client with another collector. -/
def withCollector (collector : Collector) (c : Client) : Client :=
  { c with collector }

/-- Which captures are launched does not depend on the client that launches them. -/
theorem exists_launched_heed (seeks : Bool) (body : Bytes) (h : Host) :
    ∃ launched : List (Int64 × CaptureKind), ∀ collector : Collector,
      ((c.withCollector collector).heed seeks body h).commands = (c.heed seeks body h).commands ∧
      ((c.withCollector collector).heed seeks body h).tasks =
        h.tasks ++ launched.map fun d => .capture (c.withCollector collector) d.1 d.2 := by
  cases seeks with
  | false => exact ⟨[], fun collector => ⟨rfl, (List.append_nil _).symm⟩⟩
  | true =>
    cases hdecode : CollectorReply.decode body with
    | error e =>
      refine ⟨[], fun collector => ?_⟩
      simp only [heed, analyse, hdecode, Host.write, if_true, List.map_nil, List.append_nil,
        and_self]
    | ok reply =>
      refine ⟨Command.due h.commands.ids reply.commands, fun collector => ?_⟩
      obtain ⟨registry, log, hids, hdispatch⟩ := c.dispatch_eq reply.agent reply.commands h
      obtain ⟨other, after, hother, hsame⟩ :=
        (c.withCollector collector).dispatch_eq reply.agent reply.commands h
      simp only [heed, analyse, hdecode, hdispatch, hsame, if_true,
        CommandRegistry.ext_ids (hother.trans hids.symm), and_self]

/-- The transport has brought a reply that can be read, and the sender looks for commands. -/
def Heeds (seeks : Bool) (answer : Except TransportError Reply) : Prop :=
  seeks = true ∧ ∃ reply decoded, answer = .ok reply ∧
    CollectorReply.decode reply.body = .ok decoded

section CanPost

variable {c} {headers : Http.Headers} (hc : c.CanPost headers) {body : Bytes} {url : String}
  {h : Host}
include hc

theorem post_of_canPost (seeks : Bool) :
    c.post body url seeks h = c.conclude url seeks (c.collector h.posts ⟨url, headers, body⟩)
      { h with posts := h.posts ++ [⟨url, headers, body⟩] } := by
  simp only [post, begin?_of_canPost hc]

theorem post_of_reply {reply : Reply} (seeks : Bool)
    (hanswer : c.collector h.posts ⟨url, headers, body⟩ = .ok reply) :
    ∃ log, c.post body url seeks h =
      { c.heed seeks reply.body h with
        posts := h.posts ++ [⟨url, headers, body⟩]
        log := log } := by
  rw [post_of_canPost hc, hanswer]
  exact c.heed_unheeding seeks reply.body h _ _

/-- Unless there is a reply to act on, only the log knows of what came back. -/
theorem post_of_not_heeds {seeks : Bool}
    (hnone : ¬ Heeds seeks (c.collector h.posts ⟨url, headers, body⟩)) :
    ∃ log, c.post body url seeks h =
      { h with posts := h.posts ++ [⟨url, headers, body⟩], log := log } := by
  cases hanswer : c.collector h.posts ⟨url, headers, body⟩ with
  | error e =>
    rw [post_of_canPost hc, hanswer]
    exact ⟨_, rfl⟩
  | ok reply =>
    obtain ⟨log, hpost⟩ := post_of_reply hc seeks hanswer
    refine ⟨log, hpost.trans ?_⟩
    cases seeks with
    | false => rfl
    | true =>
      cases hdecode : CollectorReply.decode reply.body with
      | ok decoded => exact absurd ⟨rfl, reply, decoded, hanswer, hdecode⟩ hnone
      | error e => simp only [heed, if_true, analyse, hdecode, Host.write]

end CanPost

theorem post_of_noPost (hpost : c.config.noPost = true) (body : Bytes) (url : String)
    (seeks : Bool) (h : Host) : c.post body url seeks h = h := by
  simp only [post, begin?, hpost, if_true]

variable {c}

theorem post_of_not_valid (hc : c.Made) (hpost : c.config.noPost = false)
    (hvalid : ¬ ∀ text ∈ c.config.headerTexts, Http.IsHeaderText text) (body : Bytes)
    (url : String) (seeks : Bool) (h : Host) :
    c.post body url seeks h = h.write (.error ("Invalid collector header value, request to " ++
      url ++ " dropped: failed to parse header value")) := by
  have hdropped : " dropped: failed to parse header value" =
      " dropped: " ++ Http.HeaderError.value.message := by decide
  simp only [post, begin?, hpost, headers_of_not_valid hc.accepted.2 hvalid, Bool.false_eq_true,
    if_false, hdropped, String.append_assoc]

/-- Acting on a reply leaves the statistics and the POSTs as they are. -/
theorem heed_eq (seeks : Bool) (body : Bytes) (h : Host) :
    ∃ commands tasks log,
      c.heed seeks body h = { h with commands := commands, tasks := tasks, log := log } := by
  cases seeks with
  | false => exact ⟨_, _, _, rfl⟩
  | true =>
    cases hdecode : CollectorReply.decode body with
    | error e => exact ⟨_, _, _, by simp only [heed, analyse, hdecode, Host.write, if_true]; rfl⟩
    | ok reply =>
      obtain ⟨registry, log, -, hdispatch⟩ := c.dispatch_eq reply.agent reply.commands h
      exact ⟨_, _, _, by simp only [heed, analyse, hdecode, hdispatch, if_true]; rfl⟩

/-- A POST that is handed to the transport leaves the statistics alone, whatever comes back. -/
theorem post_of_posts (hc : c.Made) (hposts : c.config.Posts) (body : Bytes) (url : String)
    (seeks : Bool) (h : Host) :
    ∃ headers commands tasks log, headers.row = c.config.headerRow ∧
      c.post body url seeks h =
        { h with
          commands := commands
          posts := h.posts ++ [⟨url, headers, body⟩]
          tasks := tasks
          log := log } := by
  obtain ⟨headers, hcan, hrow⟩ := hc.canPost hposts
  cases hanswer : c.collector h.posts ⟨url, headers, body⟩ with
  | ok reply =>
    obtain ⟨log, hpost⟩ := post_of_reply hcan seeks hanswer
    obtain ⟨commands, tasks, _, hheed⟩ := c.heed_eq seeks reply.body h
    exact ⟨headers, commands, tasks, log, hrow, by rw [hpost, hheed]⟩
  | error e =>
    have hnone : ¬ Heeds seeks (c.collector h.posts ⟨url, headers, body⟩) := by
      rintro ⟨-, reply, decoded, hok, -⟩
      cases hanswer.symm.trans hok
    obtain ⟨log, hpost⟩ := post_of_not_heeds hcan hnone
    exact ⟨headers, _, _, log, hrow, hpost⟩

/-- A POST with something in its way leaves a line in the log at most. -/
theorem post_of_not_posts (hc : c.Made) (hposts : ¬ c.config.Posts) (body : Bytes) (url : String)
    (seeks : Bool) (h : Host) : ∃ log, c.post body url seeks h = { h with log := log } := by
  obtain hcan | ⟨-, log, hbegin⟩ := c.begin?_cases body url h
  · exact absurd (hc.exists_canPost_iff.1 hcan) hposts
  · exact ⟨log, by simp only [post, hbegin]⟩

/-- A POST in every case. If posting is off, nothing happens. If a text of the configuration cannot
stand in a header, a line in the log says so. Otherwise the transport is called once, with the
address, the body and the six headers that the configuration asks for. A reply that can be read is
acted on if the sender looks for commands, as an analysis of its body would; unless there is one,
the log alone knows of what came back. A reply that differs in its status only leaves the same
registry and launches the same captures. -/
theorem post_in_every_case (hc : c.Made) (body : Bytes) (url : String) (seeks : Bool) (h : Host) :
    let after := c.post body url seeks h
    (c.config.noPost = true → after = h) ∧
    (c.config.noPost = false → ¬ c.config.Posts →
      after = h.write (.error ("Invalid collector header value, request to " ++ url ++
        " dropped: failed to parse header value"))) ∧
    (c.config.Posts → ∃ headers : Http.Headers, headers.row = c.config.headerRow ∧
      let post : Post := ⟨url, headers, body⟩
      let answer := c.collector h.posts post
      (¬ Heeds seeks answer →
        ∃ log, after = { h with posts := h.posts ++ [post], log := log }) ∧
      (∀ reply decoded, seeks = true → answer = .ok reply →
        CollectorReply.decode reply.body = .ok decoded →
          ∃ log, after =
            { (c.analyse reply.body h).2 with posts := h.posts ++ [post], log := log }) ∧
      ∀ reply, answer = .ok reply → ∃ launched : List (Int64 × CaptureKind),
        after.tasks = h.tasks ++ launched.map (fun d => .capture c d.1 d.2) ∧
        ∀ (collector : Collector) (status : Http.Status),
          collector h.posts post = .ok ⟨status, reply.body⟩ →
            let other := c.withCollector collector
            (other.post body url seeks h).commands = after.commands ∧
            (other.post body url seeks h).tasks =
              h.tasks ++ launched.map fun d => .capture other d.1 d.2) := by
  intro after
  refine ⟨fun hpost => c.post_of_noPost hpost body url seeks h, ?_, ?_⟩
  · intro hpost hposts
    exact post_of_not_valid hc hpost (fun hvalid => hposts ⟨hpost, hvalid⟩) body url seeks h
  · intro hposts
    obtain ⟨headers, hcan, hrow⟩ := hc.canPost hposts
    refine ⟨headers, hrow, post_of_not_heeds hcan, ?_, ?_⟩
    · rintro reply decoded rfl hanswer -
      exact post_of_reply hcan true hanswer
    · intro reply hanswer
      obtain ⟨log, hafter⟩ := post_of_reply hcan seeks hanswer
      obtain ⟨launched, hlaunched⟩ := c.exists_launched_heed seeks reply.body h
      refine ⟨launched, ?_, ?_⟩
      · rw [show after = _ from hafter]
        exact (hlaunched c.collector).2
      · intro collector status hother other
        have hcanOther : other.CanPost headers := ⟨hcan.posting, hcan.valid⟩
        obtain ⟨note, hpost⟩ := post_of_reply hcanOther seeks hother
        rw [hpost, show after = _ from hafter]
        exact hlaunched collector

/-- A collector that rejects the token and still asks for something new. -/
theorem post_in_every_case_unauthorized :
    let reply : CollectorReply := ⟨⟨"agent"⟩, [.ask 7 (.unknown "reboot"), .ask 7 (.known .trace)]⟩
    let c : Client := ⟨.withToken "token", ⟨"unknown"⟩,
      fun _ _ => .ok ⟨.unauthorized, reply.encode⟩, .unsupported, .running⟩
    let after := c.post [] "http://collector" true (.fresh "")
    c.Made ∧ c.config.Posts ∧ (∃ headers : Http.Headers, headers.row = c.config.headerRow ∧
      after.posts = [⟨"http://collector", headers, []⟩]) ∧
      after.commands.ids = [7] ∧ after.tasks = [.capture c 7 .trace] := by
  intro reply c after
  have hmade : Client.make (.withToken "token") c.collector true = .ok c := rfl
  have hc : c.Made := .make hmade
  have hposts : c.config.Posts := by decide +kernel
  obtain ⟨-, -, hcalls⟩ := post_in_every_case hc [] "http://collector" true (.fresh "")
  obtain ⟨headers, hrow, -, hheeded, -⟩ := hcalls hposts
  obtain ⟨log, hafter⟩ := hheeded _ reply rfl rfl reply.decode_encode
  have hlaunched : (c.analyse reply.encode (.fresh "")).2.commands.ids = [7] ∧
      (c.analyse reply.encode (.fresh "")).2.tasks = [.capture c 7 .trace] := by
    have hdue : Command.due (Host.fresh "").commands.ids reply.commands = [(7, .trace)] := by decide
    obtain ⟨registry, note, hids, hdispatch⟩ :=
      c.dispatch_eq reply.agent reply.commands (.fresh "")
    rw [hdue] at hids hdispatch
    simp only [analyse, reply.decode_encode, hdispatch]
    exact ⟨hids, rfl⟩
  obtain ⟨hids, htasks⟩ := hlaunched
  rw [show after = _ from hafter]
  dsimp only
  exact ⟨hc, hposts, ⟨headers, hrow, rfl⟩, hids, htasks⟩

end Client

end Telemetry
