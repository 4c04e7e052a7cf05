import Mathlib.Data.List.Perm.Basic
import Telemetry.Proofs.Stats.Conservation

/-!
The collector cannot make a client send without end.

Only a reply to a stats upload is searched for commands. A command costs one capture and one POST,
and the reply to that POST is not searched again, so what a collector can bring about is bounded
by what the client uploads of its own accord. `Accounted` keeps account of the POSTs that are
still owed, and `Fed` follows the commands in hand back to the POST whose reply brought them.
-/
namespace Telemetry

namespace Call

/-- A call made with the client, or without any. Replies are handled by flushes only. -/
def IsOwn (c : Client) : Call → Prop
  | .flush d | .report d _ _ _ => d = c
  | .account _ | .look _ => True
  | .dispatch .. => False

/-- Whether the call reports a panic. -/
def isReport : Call → Bool
  | .report .. => true
  | .account _ | .flush _ | .dispatch .. | .look _ => false

end Call

/-- A client whose collector asks for a new capture in every reply. -/
def Client.pestered : Client :=
  { Client.unreached with
    collector := fun seen _ => .ok ⟨.ok,
      (CollectorReply.mk ⟨"agent"⟩ [.ask (.ofNat seen.length) (.known .trace)]).encode⟩ }

theorem Client.exists_canPost_pestered : ∃ headers, pestered.CanPost headers :=
  ⟨_, rfl, rfl⟩

/-- Where captures are posted to, at any collector. -/
def Client.capturePaths : List String :=
  ["/uploads/trace/create", "/uploads/cpuprofile/create", "/uploads/memprofile/create"]

/-- Whether an address is one of the three for captures. -/
def Client.isCaptureUrl (c : Client) (url : String) : Bool :=
  capturePaths.any fun path => url == c.config.apiBase ++ path

theorem Client.isCaptureUrl_iff (c : Client) {path : String} :
    c.isCaptureUrl (c.config.url path) = true ↔ path ∈ capturePaths := by
  simp [isCaptureUrl, ClientConfig.url, String.append_right_inj]

theorem Client.isCaptureUrl_capturePath (c : Client) (kind : CaptureKind) :
    c.isCaptureUrl (c.config.url (capturePath kind)) = true := by
  rw [isCaptureUrl_iff]
  cases kind <;> decide

theorem Client.isCaptureUrl_of_not_mem (c : Client) {path : String}
    (hpath : path ∉ capturePaths) : c.isCaptureUrl (c.config.url path) = false := by
  rw [← Bool.not_eq_true, isCaptureUrl_iff]
  exact hpath

/-- The command stood in the reply to a stats upload, which is one of the given POSTs and came
after others that had been seen. -/
def Client.Heard (c : Client) (seen posts : List Post) (command : Command) : Prop :=
  ∃ before post after reply decoded, posts = before ++ post :: after ∧
    post.url = c.config.apiBase ++ "/uploads/stats/create" ∧
    c.collector (seen ++ before) post = .ok reply ∧
    CollectorReply.decode reply.body = .ok decoded ∧ command ∈ decoded.commands

theorem Client.Heard.append {c : Client} {seen posts : List Post} {command : Command}
    (hheard : c.Heard seen posts command) (more : List Post) :
    c.Heard seen (posts ++ more) command := by
  obtain ⟨before, post, after, reply, decoded, hposts, hrest⟩ := hheard
  refine ⟨before, post, after ++ more, reply, decoded, ?_, hrest⟩
  rw [hposts, List.append_assoc]
  rfl

/-- The address that a task posts to. -/
def Task.url : Task → String
  | .report c .. => c.config.url Client.panicsPath
  | .capture c _ kind => c.config.url (Client.capturePath kind)

namespace Activity

/-- One for an activity that has yet to post to an address of some sort. -/
def owes (p : String → Bool) : Activity → Nat
  | .capturing c _ kind => if p (c.config.url (Client.capturePath kind)) then 1 else 0
  | .sending c cargo => if p (c.config.url cargo.path) then 1 else 0
  | _ => 0

/-- An activity of one client. What it is about to act on came in reply to a stats upload. -/
def Fed (c : Client) (seen posts : List Post) : Activity → Prop
  | .counting _ | .recording _ | .looking _ | .ended => True
  | .takingOutcomes d | .takingCounts d _ | .capturing d _ _ | .sending d _ => d = c
  | .awaiting d cargo answer => d = c ∧ (cargo.seeksCommands = true →
    ∃ before post after, posts = before ++ post :: after ∧
      post.url = c.config.apiBase ++ "/uploads/stats/create" ∧
      c.collector (seen ++ before) post = answer)
  | .dispatching d _ commands _ => d = c ∧ ∀ command ∈ commands, c.Heard seen posts command

variable {c : Client} {headers : Http.Headers} {seen posts : List Post} {h after : Host}
  {a next : Activity} {deeds : List Deed}

theorem Fed.append (ha : a.Fed c seen posts) (more : List Post) :
    a.Fed c seen (posts ++ more) := by
  cases a with
  | counting r | recording r | looking l | ended => trivial
  | takingOutcomes d | takingCounts d requests | capturing d id kind | sending d cargo => exact ha
  | awaiting d cargo answer =>
    refine ⟨ha.1, fun hseeks => ?_⟩
    obtain ⟨before, post, after, hposts, hrest⟩ := ha.2 hseeks
    refine ⟨before, post, after ++ more, ?_, hrest⟩
    rw [hposts, List.append_assoc]
    rfl
  | dispatching d agent commands launched =>
    exact ⟨ha.1, fun command hcommand => (ha.2 command hcommand).append more⟩

theorem Fed.step (hc : c.CanPost headers) (ha : a.Fed c seen posts)
    (hposts : h.posts = seen ++ posts) (hs : Effect h a next deeds after) :
    next.Fed c seen (posts ++ deeds.filterMap Deed.post?) := by
  cases hs with
  | counts | records | ignores | takesNothing | drops | closes | looks | rests => trivial
  | takesOutcomes | takesCounts | captures => exact ha
  | posts d cargo others hothers =>
    change d = c at ha
    subst ha
    refine ⟨rfl, fun hseeks => ⟨posts, cargo.post d others, [], rfl, ?_, by rw [hposts]⟩⟩
    cases cargo with
    | stats upload => rfl
    | report r | capture kind upload => cases hseeks
  | hears d cargo reply decoded log hseeks hdecode =>
    obtain ⟨before, post, rest, hsplit, hurl, hreply⟩ := ha.2 hseeks
    refine ⟨ha.1, fun command hcommand => ?_⟩
    exact Client.Heard.append
      ⟨before, post, rest, reply, decoded, hsplit, hurl, hreply, hdecode, hcommand⟩ _
  | launches d agent command rest | passes d agent command rest =>
    refine ⟨ha.1, fun other hother => ?_⟩
    exact (ha.2 other (List.mem_cons_of_mem _ hother)).append _
  | halts => exact ha.append _

/-- Whatever is launched is the capture of a command that was heard. -/
theorem Fed.launched (ha : a.Fed c seen posts) (hs : Effect h a next deeds after) {task : Task}
    (htask : task ∈ deeds.filterMap Deed.task?) :
    ∃ command kind, command.capture? = some kind ∧ task = .capture c command.id kind ∧
      c.Heard seen posts command := by
  obtain ⟨d, agent, command, rest, launched, kind, rfl, hkind, rfl⟩ := hs.of_mem_tasks htask
  obtain ⟨rfl, hheard⟩ := ha
  exact ⟨command, kind, hkind, rfl, hheard command List.mem_cons_self⟩

/-- A POST that was owed is sent or still owed, and only an upload that is not empty brings a new
one, which the activity owes. -/
theorem Fed.owes_eq (hc : c.CanPost headers) (ha : a.Fed c seen posts)
    (hs : Effect h a next deeds after) (p : String → Bool) :
    (deeds.filterMap Deed.post?).countP (fun post => p post.url) + next.owes p =
      a.owes p + (deeds.filterMap Deed.upload?).countP
        fun u => decide (¬ u.HasNothing) && p (c.config.url Client.statsPath) := by
  cases hs with
  | takesNothing d requests hempty =>
    change 0 + 0 = 0 + [StatsUpload.mk requests h.statusCodes.counts].countP _
    simp [hempty]
  | takesCounts d requests log hfull =>
    change d = c at ha
    subst ha
    change 0 + (if p (d.config.url Client.statsPath) then 1 else 0) =
      0 + [StatsUpload.mk requests h.statusCodes.counts].countP _
    simp [hfull]
  | captures => exact Nat.zero_add _
  | posts d cargo others =>
    change [cargo.post d others].countP _ + 0 = _
    rw [List.countP_singleton]
    rfl
  | drops d cargo log hdrop =>
    change d = c at ha
    subst ha
    exact absurd hc (hdrop headers)
  | _ => rfl

end Activity

namespace Traffic

/-- What holds while one client is at work. The last line is the account: for every sort of
address, what has been sent, what is owed and what is queued make up what the reports, the uploads
and the launched tasks stand for. -/
structure Accounted (c : Client) (h : Host) (calls : List Call) (t : Traffic) : Prop where
  posts : t.host.posts = h.posts ++ t.sent
  fed : ∀ a ∈ t.activities, a.Fed c h.posts t.sent
  queued : ∀ task ∈ t.host.tasks, ∃ id kind, task = .capture c id kind
  launched : ∀ task ∈ t.launches, ∃ command kind, command.capture? = some kind ∧
    task = .capture c command.id kind ∧ c.Heard h.posts t.sent command
  balance : ∀ p : String → Bool,
    t.sent.countP (fun post => p post.url) + t.total (Activity.owes p) +
        t.host.tasks.countP (fun task => p task.url) =
      (ofCalls h calls).total (Activity.owes p) +
        t.uploads.countP (fun u => decide (¬ u.HasNothing) && p (c.config.url Client.statsPath)) +
        t.launches.countP (fun task => p task.url)

namespace Accounted

variable {c : Client} {headers : Http.Headers} {h : Host} {calls : List Call} {t : Traffic}
  {i : Nat}

theorem ofCalls (hidle : h.tasks = []) (hcalls : ∀ call ∈ calls, call.IsOwn c) :
    Accounted c h calls (ofCalls h calls) := by
  refine ⟨(List.append_nil _).symm, ?_, ?_, ?_, ?_⟩
  · intro a ha
    obtain ⟨call, hcall, rfl⟩ := List.mem_map.1 ha
    have hown := hcalls call hcall
    cases call with
    | account r | look l => trivial
    | flush d | report d trace message span => exact hown
    | dispatch d reply => exact hown.elim
  · intro task htask
    change task ∈ h.tasks at htask
    rw [hidle] at htask
    cases htask
  · intro task htask
    cases htask
  · intro p
    change 0 + _ + h.tasks.countP _ = _ + 0 + 0
    rw [hidle]
    exact Nat.zero_add _

theorem advance (hc : c.CanPost headers) (ht : Accounted c h calls t) {a : Activity}
    (ha : t.activities[i]? = some a) : Accounted c h calls (t.advance i a) := by
  have hfed := ht.fed a (List.mem_of_getElem? ha)
  have heffect := a.effect t.host
  refine ⟨?_, ?_, ?_, ?_, ?_⟩
  · change (a.step t.host).2.2.posts = _
    rw [heffect.posts_eq, ht.posts, sent_advance, List.append_assoc]
  · intro b hb
    rw [sent_advance]
    rcases List.mem_or_eq_of_mem_set hb with hold | hnow
    · exact (ht.fed b hold).append _
    · rw [hnow]
      exact hfed.step hc ht.posts heffect
  · intro task htask
    rw [tasks_advance] at htask
    rcases List.mem_append.1 htask with hold | hnow
    · exact ht.queued task hold
    · obtain ⟨command, kind, _, htask, _⟩ := hfed.launched heffect hnow
      exact ⟨command.id, kind, htask⟩
  · intro task htask
    rw [launches_advance] at htask
    rw [sent_advance]
    rcases List.mem_append.1 htask with hold | hnow
    · obtain ⟨command, kind, hkind, htask, hheard⟩ := ht.launched task hold
      exact ⟨command, kind, hkind, htask, hheard.append _⟩
    · obtain ⟨command, kind, hkind, htask, hheard⟩ := hfed.launched heffect hnow
      exact ⟨command, kind, hkind, htask, hheard.append _⟩
  · intro p
    have hbefore := ht.balance p
    have hstep := hfed.owes_eq hc heffect p
    have htotal := total_advance (Activity.owes p) ha
    rw [sent_advance, launches_advance, uploads_advance, tasks_advance, List.countP_append,
      List.countP_append, List.countP_append, List.countP_append]
    omega

theorem start (ht : Accounted c h calls t) {task : Task} (htask : t.host.tasks[i]? = some task) :
    Accounted c h calls (t.start i task) := by
  obtain ⟨hlt, hget⟩ := List.getElem?_eq_some_iff.1 htask
  obtain ⟨id, kind, hcapture⟩ := ht.queued task (List.mem_of_getElem? htask)
  refine ⟨ht.posts, ?_, ?_, ht.launched, ?_⟩
  · intro a ha
    rcases List.mem_append.1 ha with hold | hnow
    · exact ht.fed a hold
    · rw [List.mem_singleton.1 hnow, hcapture]
      rfl
  · intro other hother
    exact ht.queued other (List.mem_of_mem_eraseIdx hother)
  · intro p
    have hbefore := ht.balance p
    have htotal := total_start (Activity.owes p) t i task
    -- the POST that the queued task stood for is owed by the activity from now on
    have hqueue := (List.getElem_cons_eraseIdx_perm hlt).countP_eq fun task => p task.url
    rw [hget, List.countP_cons] at hqueue
    have howes : task.activity.owes p = if p task.url then 1 else 0 := by
      rw [hcapture]
      rfl
    change t.sent.countP _ + (t.start i task).total _ + (t.host.tasks.eraseIdx i).countP _ =
      _ + t.uploads.countP _ + t.launches.countP _
    omega

end Accounted

theorem accounted_run {c : Client} {headers : Http.Headers} (hc : c.CanPost headers) {h : Host}
    (hidle : h.tasks = []) {calls : List Call} (hcalls : ∀ call ∈ calls, call.IsOwn c)
    (moves : List Move) : Accounted c h calls ((ofCalls h calls).run moves) := by
  apply run_induction (.ofCalls hidle hcalls)
  · intro t i a ht ha
    exact ht.advance hc ha
  · intro t i task ht htask
    exact ht.start htask

/-- The POSTs owed at first are those of the reports. -/
theorem total_owes_ofCalls {c : Client} (h : Host) {calls : List Call}
    (hcalls : ∀ call ∈ calls, call.IsOwn c) (p : String → Bool) :
    (ofCalls h calls).total (Activity.owes p) =
      calls.countP fun call => call.isReport && p (c.config.url Client.panicsPath) := by
  change ((calls.map Call.activity).map (Activity.owes p)).sum = _
  induction calls with
  | nil => rfl
  | cons call rest ih =>
    have hrest := ih fun other hother => hcalls other (List.mem_cons_of_mem _ hother)
    have hown := hcalls call List.mem_cons_self
    have hfirst : call.activity.owes p =
        if call.isReport && p (c.config.url Client.panicsPath) then 1 else 0 := by
      cases call with
      | account r | flush d | look l => rfl
      | report d trace message span =>
        change d = c at hown
        subst hown
        rfl
      | dispatch d reply => exact hown.elim
    rw [List.map_cons, List.map_cons, List.sum_cons, List.countP_cons, hrest, hfirst]
    exact Nat.add_comm _ _

/-- Nobody but a flush launches anything. -/
theorem past_launches {c : Client} (h : Host) {calls : List Call}
    (hcalls : ∀ call ∈ calls, call.IsOwn c) (moves : List Move) {i : Nat}
    (hi : ∀ d, calls[i]? ≠ some (.flush d)) :
    (((ofCalls h calls).run moves).past i).filterMap Deed.task? = [] := by
  have hkeeps : Keeps (fun j a past => (∀ d, calls[j]? ≠ some (.flush d)) →
      a.mayLaunch = false ∧ past.filterMap Deed.task? = []) calls.length
      ((ofCalls h calls).run moves) := by
    apply run_local
    · intro j call hj hflush
      have hown := hcalls call (List.mem_of_getElem? hj)
      cases call with
      | account r | report d trace message span | look l => exact ⟨rfl, rfl⟩
      | flush d => exact absurd hj (hflush d)
      | dispatch d reply => exact hown.elim
    · intro j task _ _
      cases task <;> exact ⟨rfl, rfl⟩
    · intro j a past host next deeds after hs hold hflush
      obtain ⟨hmay, hpast⟩ := hold hflush
      obtain ⟨hnext, hlaunched, -⟩ := hs.of_not_mayLaunch hmay
      refine ⟨hnext, ?_⟩
      rw [List.filterMap_append, hpast, hlaunched]
      rfl
  exact hkeeps.of_past (Q := fun past => past.filterMap Deed.task? = []) rfl
    fun a ha => (ha hi).2

theorem Accounted.sent_of_isOver {c : Client} {h : Host} {calls : List Call} {t : Traffic}
    (ht : Accounted c h calls t) (hover : t.isOver = true)
    (hcalls : ∀ call ∈ calls, call.IsOwn c) (p : String → Bool) :
    t.sent.countP (fun post => p post.url) =
      calls.countP (fun call => call.isReport && p (c.config.url Client.panicsPath)) +
        t.uploads.countP (fun u => decide (¬ u.HasNothing) && p (c.config.url Client.statsPath)) +
        t.launches.countP (fun task => p task.url) := by
  obtain ⟨hall, htasks⟩ := Bool.and_eq_true_iff.1 hover
  have hbalance := ht.balance p
  have hnothing : t.total (Activity.owes p) = 0 := by
    apply total_eq_zero
    intro a ha
    have hended := List.all_eq_true.1 hall a ha
    cases a with
    | capturing d id kind | sending d cargo => cases hended
    | _ => rfl
  rw [hnothing, List.isEmpty_iff.1 htasks, total_owes_ofCalls h hcalls] at hbalance
  exact hbalance

/-- While one client uploads statistics and reports panics, its registry grows by exactly the ids
of the captures launched, each of which was asked for in the reply to a stats upload. Replies to
reports and to captures bring nothing about, whatever they say. Once everything has run to its end
there has been one POST per capture launched, and one per upload that was not empty, and one per
report, and no other. -/
theorem no_feedback {c : Client} {headers : Http.Headers} (hc : c.CanPost headers) (h : Host)
    (hidle : h.tasks = []) (calls : List Call) (hcalls : ∀ call ∈ calls, call.IsOwn c)
    (moves : List Move) :
    let t := (ofCalls h calls).run moves
    t.host.posts = h.posts ++ t.sent ∧
    t.host.commands.ids = h.commands.ids ++ t.launchedIds ∧
    (∀ id ∈ t.launchedIds, ∃ command kind, command.id = id ∧ command.capture? = some kind ∧
      c.Heard h.posts t.sent command) ∧
    (∀ i, (∀ d, calls[i]? ≠ some (.flush d)) → (t.past i).filterMap Deed.task? = []) ∧
    (∀ d cargo answer g, (∀ upload, cargo ≠ .stats upload) →
      let s := (Activity.awaiting d cargo answer).step g
      s.2.1.filterMap Deed.task? = [] ∧ s.2.2.commands = g.commands ∧ s.2.2.tasks = g.tasks) ∧
    (t.isOver = true →
      t.sent.countP (fun post => c.isCaptureUrl post.url) = t.launchedIds.length ∧
      t.sent.length =
        t.shipped.length + calls.countP Call.isReport + t.launchedIds.length) := by
  intro t
  have ht : Accounted c h calls t := accounted_run hc hidle hcalls moves
  have hregistered : Registered h t := registered_run h calls moves
  refine ⟨ht.posts, hregistered.ids, ?_, fun i hi => past_launches h hcalls moves hi, ?_, ?_⟩
  · intro id hid
    obtain ⟨task, htask, htaskId⟩ := List.mem_filterMap.1 hid
    obtain ⟨command, kind, hkind, rfl, hheard⟩ := ht.launched task htask
    exact ⟨command, kind, Option.some.inj htaskId, hkind, hheard⟩
  · intro d cargo answer g hcargo
    have hmay : (Activity.awaiting d cargo answer).mayLaunch = false := by
      cases cargo with
      | stats upload => exact absurd rfl (hcargo upload)
      | report r | capture kind upload => rfl
    exact ((Activity.awaiting d cargo answer).effect g).of_not_mayLaunch hmay |>.2
  · intro hover
    refine ⟨?_, ?_⟩
    · have hcaptures := ht.sent_of_isOver hover hcalls c.isCaptureUrl
      have hlaunched : t.launches.countP (fun task => c.isCaptureUrl task.url) =
          t.launches.length := by
        rw [List.countP_eq_length]
        intro task htask
        obtain ⟨command, kind, _, rfl, _⟩ := ht.launched task htask
        exact c.isCaptureUrl_capturePath kind
      have hpanics : c.isCaptureUrl (c.config.url Client.panicsPath) = false :=
        c.isCaptureUrl_of_not_mem (by decide)
      have hstats : c.isCaptureUrl (c.config.url Client.statsPath) = false :=
        c.isCaptureUrl_of_not_mem (by decide)
      simp only [hpanics, hstats, Bool.and_false, List.countP_false, hlaunched] at hcaptures
      rw [hcaptures, hregistered.captures]
      exact Nat.zero_add _
    · have hall := ht.sent_of_isOver hover hcalls fun _ => true
      simp only [Bool.and_true, List.countP_true] at hall
      rw [hall, hregistered.captures, shipped, ← List.countP_eq_length_filter,
        Nat.add_comm (t.uploads.countP _)]

theorem no_feedback_pestered :
    let calls : List Call := [.account .panicked, .flush .pestered, .report .pestered "" "" 0]
    let moves : List Move := [.advance 0, .advance 0, .advance 1, .advance 1, .advance 2,
      .advance 1, .advance 1, .advance 1, .start 0, .advance 3, .advance 3, .advance 3, .advance 2]
    let t := (ofCalls (.fresh "") calls).run moves
    t.launchedIds = [1] ∧ t.sent.countP (fun post => Client.pestered.isCaptureUrl post.url) = 1 ∧
      t.sent.length = 1 + 1 + 1 := by
  intro calls moves t
  obtain ⟨headers, hheaders⟩ := Client.exists_canPost_pestered
  have hcalls : ∀ call ∈ calls, call.IsOwn .pestered := by
    intro call hcall
    simp only [calls, List.mem_cons, List.not_mem_nil, or_false] at hcall
    rcases hcall with rfl | rfl | rfl
    · trivial
    · rfl
    · rfl
  obtain ⟨-, -, -, -, -, hover⟩ := no_feedback hheaders (.fresh "") rfl calls hcalls moves
  obtain ⟨hcaptures, hall⟩ := hover (by decide +kernel)
  have hids : t.launchedIds = [1] := by decide +kernel
  have hshipped : t.shipped.length = 1 := by decide +kernel
  change t.sent.countP _ = t.launchedIds.length at hcaptures
  change t.sent.length = t.shipped.length + 1 + t.launchedIds.length at hall
  rw [hids] at hcaptures hall
  rw [hshipped] at hall
  exact ⟨hids, hcaptures, hall⟩

end Traffic

end Telemetry
