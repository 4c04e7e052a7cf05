import Telemetry.Proofs.Client.Posting
import Telemetry.Proofs.Stats.RoundTrip
import Telemetry.Stats.Flusher

/-!
What a flush says and what it does.

A flush takes the statistics, and its answer is whether there were any. Whether they are handed to
the transport is for the configuration to say, and the answer knows nothing of it: with a client
that posts nothing the statistics are lost, and the flush says that they were sent.
-/
namespace Telemetry

namespace Host

/-- Something has been recorded or counted since the last upload. -/
def HasStats (h : Host) : Prop :=
  h.outcomes ≠ .empty ∨ h.statusCodes ≠ .empty

def withoutStats (h : Host) : Host :=
  { h with outcomes := .empty, statusCodes := .empty }

end Host

namespace Client

theorem isEmpty_drainStats {h : Host} :
    (drainStats h).1.isEmpty = true ↔ ¬ h.HasStats := by
  have houtcomes : h.outcomes = .empty ↔ h.outcomes.toList = [] :=
    ⟨congrArg OutcomeBuffer.outcomes, congrArg OutcomeBuffer.mk⟩
  have hcounts : h.statusCodes = .empty ↔ h.statusCodes.snapshot.entries = [] :=
    ⟨congrArg fun c : StatusCounter => c.counts.entries,
      fun hnil => congrArg StatusCounter.mk (Dictionary.ext_entries hnil)⟩
  rw [Host.HasStats, not_or, not_not, not_not, houtcomes, hcounts, StatsUpload.isEmpty_iff]
  exact Iff.rfl

theorem flush_eq (c : Client) (h : Host) :
    c.flush h = if (drainStats h).1.isEmpty then (false, h.withoutStats)
      else (true, c.upload (drainStats h).1 h.withoutStats) :=
  rfl

variable {c : Client}

/-- There was nothing to upload, or the upload was dropped on the way, or it was handed over. The
statistics are gone in each case. -/
theorem flush_cases (hc : c.Made) (h : Host) :
    (¬ h.HasStats ∧ c.flush h = (false, h.withoutStats)) ∨
    (h.HasStats ∧ ¬ c.config.Posts ∧
      ∃ log, c.flush h = (true, { h.withoutStats with log := log })) ∨
    (h.HasStats ∧ c.config.Posts ∧
      ∃ headers commands tasks log, headers.row = c.config.headerRow ∧
        c.flush h = (true,
          { h.withoutStats with
            commands := commands
            posts := h.posts ++ [⟨c.config.url statsPath, headers, (drainStats h).1.encode⟩]
            tasks := tasks
            log := log })) := by
  by_cases hstats : h.HasStats
  case neg =>
    refine .inl ⟨hstats, ?_⟩
    rw [flush_eq, if_pos (isEmpty_drainStats.2 hstats)]
  have hflush : c.flush h = (true, c.upload (drainStats h).1 h.withoutStats) := by
    rw [flush_eq, if_neg fun hempty => isEmpty_drainStats.1 hempty hstats]
  rw [upload] at hflush
  by_cases hposts : c.config.Posts
  case neg =>
    obtain ⟨log, hpost⟩ := post_of_not_posts hc hposts (drainStats h).1.encode
      (c.config.url statsPath) true (h.withoutStats.write (flushLine (drainStats h).1))
    exact .inr (.inl ⟨hstats, hposts, log, hflush.trans (congrArg (Prod.mk true) hpost)⟩)
  obtain ⟨headers, commands, tasks, log, hrow, hpost⟩ := post_of_posts hc hposts
    (drainStats h).1.encode (c.config.url statsPath) true
    (h.withoutStats.write (flushLine (drainStats h).1))
  exact .inr (.inr ⟨hstats, hposts, headers, commands, tasks, log, hrow,
    hflush.trans (congrArg (Prod.mk true) hpost)⟩)

/-- The answer of a flush is whether it handed a POST to the stats address of its client to the
transport. -/
def TellsTruth (c : Client) (h : Host) : Prop :=
  (c.flush h).1 = true ↔
    ∃ post ∈ (c.flush h).2.posts.drop h.posts.length,
      post.url = c.config.apiBase ++ "/uploads/stats/create"

/-- A flush answers whether there were statistics, and takes them. It hands one POST with them to
the transport if there were any and nothing in the configuration stands in the way, and none
otherwise. So its answer tells the truth exactly if nothing stands in the way of what there was. -/
theorem flush_answer (hc : c.Made) (h : Host) :
    let after := (c.flush h).2
    ((c.flush h).1 = true ↔ h.HasStats) ∧
    after.outcomes = .empty ∧ after.statusCodes = .empty ∧
    (h.HasStats ∧ c.config.Posts → ∃ headers : Http.Headers, headers.row = c.config.headerRow ∧
      after.posts = h.posts ++ [⟨c.config.apiBase ++ "/uploads/stats/create", headers,
        (drainStats h).1.encode⟩] ∧
      StatsUpload.decode (drainStats h).1.encode =
        .ok ⟨h.outcomes.toList, h.statusCodes.snapshot⟩) ∧
    (¬ (h.HasStats ∧ c.config.Posts) → after.posts = h.posts) ∧
    (c.TellsTruth h ↔ (h.HasStats → c.config.Posts)) := by
  intro after
  have hdecode : StatsUpload.decode (drainStats h).1.encode =
      .ok ⟨h.outcomes.toList, h.statusCodes.snapshot⟩ := (drainStats h).1.decode_encode
  obtain ⟨hstats, hflush⟩ | ⟨hstats, hposts, log, hflush⟩ |
      ⟨hstats, hposts, headers, commands, tasks, log, hrow, hflush⟩ := flush_cases hc h
  · simp [after, TellsTruth, hflush, hstats, Host.withoutStats]
  · simp [after, TellsTruth, hflush, hstats, hposts, Host.withoutStats]
  · simpa [after, TellsTruth, hflush, hstats, hposts, hdecode, Host.withoutStats,
      ClientConfig.url, statsPath] using hrow

/-- The client of a configuration, with a collector that is out of reach. -/
def outOfReach (config : ClientConfig) : Client :=
  ⟨config, ⟨config.agentName⟩, unreached.collector, .unsupported, .running⟩

theorem made_outOfReach {config : ClientConfig} (h : config.validate = .ok ()) :
    (outOfReach config).Made := by
  have hmade : make config unreached.collector true = .ok (outOfReach config) := by
    rw [make, h]
    rfl
  exact .make hmade

/-- One request has been counted. -/
def counting : Host :=
  { Host.fresh "" with statusCodes := StatusCounter.empty.inc 200 }

theorem flush_answer_counted :
    let c := outOfReach (.withToken "token")
    c.Made ∧ (c.flush counting).1 = true ∧ (c.flush counting).2.statusCodes = .empty ∧
      (c.flush counting).2.posts.length = 1 ∧ c.TellsTruth counting := by
  intro c
  have hc : c.Made := made_outOfReach rfl
  have hstats : counting.HasStats := .inr (by decide)
  have hposts : c.config.Posts := by decide +kernel
  obtain ⟨hanswer, -, hcounts, hsent, -, htruth⟩ := flush_answer hc counting
  obtain ⟨headers, -, hposted, -⟩ := hsent ⟨hstats, hposts⟩
  exact ⟨hc, hanswer.2 hstats, hcounts, congrArg List.length hposted, htruth.2 fun _ => hposts⟩

/-- Whoever has something to flush and something in its way is told that it was sent. -/
theorem flush_of_not_posts {config : ClientConfig} (hvalid : config.validate = .ok ())
    (hposts : ¬ config.Posts) {h : Host} (hstats : h.HasStats) :
    (outOfReach config).Made ∧ ((outOfReach config).flush h).1 = true ∧
      ((outOfReach config).flush h).2.posts = h.posts ∧ ¬ (outOfReach config).TellsTruth h := by
  have hc : (outOfReach config).Made := made_outOfReach hvalid
  obtain ⟨hnone, -⟩ | ⟨-, -, log, hflush⟩ | ⟨-, hsends, -⟩ := flush_cases hc h
  · exact absurd hstats hnone
  · have hanswer : ((outOfReach config).flush h).1 = true := congrArg Prod.fst hflush
    have hposted : ((outOfReach config).flush h).2.posts = h.posts :=
      congrArg (fun r => r.2.posts) hflush
    refine ⟨hc, hanswer, hposted, fun htruth => ?_⟩
    obtain ⟨post, hmem, -⟩ := htruth.1 hanswer
    rw [hposted, List.drop_length] at hmem
    exact List.not_mem_nil hmem
  · exact absurd hsends hposts

/-- A client that posts nothing. -/
def mute : Client :=
  outOfReach { ClientConfig.withToken "token" with noPost := true }

/-- A client with a line break in the name of its environment. -/
def garbled : Client :=
  outOfReach { ClientConfig.withToken "token" with environment := "production\n" }

/-- Both are made of configurations that are accepted, and hear that a count was sent which is
lost. -/
theorem not_tellsTruth :
    (mute.Made ∧ (mute.flush counting).1 = true ∧ (mute.flush counting).2.posts = [] ∧
      ¬ mute.TellsTruth counting) ∧
    garbled.Made ∧ (garbled.flush counting).1 = true ∧ (garbled.flush counting).2.posts = [] ∧
      ¬ garbled.TellsTruth counting := by
  have hstats : counting.HasStats := .inr (by decide)
  exact ⟨flush_of_not_posts rfl (by decide +kernel) hstats,
    flush_of_not_posts rfl (by decide +kernel) hstats⟩

end Client

end Telemetry
