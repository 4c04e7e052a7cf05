import Telemetry.Proofs.Client.Sending
import Telemetry.Proofs.Json.Number
import Telemetry.Proofs.Json.Record

/-!
Replies that differ from what an agent expects.

A collector of a later version may add members, reorder them, leave out defaults and lay out its
texts as it likes: the reply is the same, and so are the commands that are started. But a reply that
was cut or that something was added to starts nothing, however many complete commands it holds.
-/
namespace Telemetry

open Json

namespace Agent

/-- The members of an agent. -/
def entries (a : Agent) : List Entry := [⟨"Name", .ofString a.name, a.name = ""⟩]

/-- A document that stands for the agent. -/
def Variant (a : Agent) (d : Document) : Prop := shape.Variant a.entries d

theorem nodup_names : shape.names.Nodup := by decide

theorem fits_entries (a : Agent) : shape.Fits a.entries :=
  .cons ⟨rfl, Field.check_of (Document.readString_ofString a.name), by rintro ⟨⟩⟩ .nil

theorem isValid_of_variant {a : Agent} {d : Document} (h : a.Variant d) : d.IsValid := by
  refine Shape.isValid_of_variant (fun e he => ?_) h
  cases List.mem_singleton.1 he
  exact Document.isValid_ofString a.name

theorem read_of_variant {a : Agent} {d : Document} (h : a.Variant d) : read d = .ok a := by
  obtain ⟨row, hrow, hhas⟩ := Shape.read_variant nodup_names a.fits_entries h
  simp only [entries, List.forall_mem_cons] at hhas
  have hname := Row.getD_of_has hhas.1 (Document.readString_ofString a.name) of_decide_eq_true
  simp only [read, hrow, hname, bind, Except.bind, pure, Except.pure]

theorem variant_document (a : Agent) : a.Variant a.document :=
  shape.variant_self _

end Agent

namespace Command

/-- The members of a command. -/
def entries (c : Command) : List Entry :=
  [⟨"id", .ofInt c.id.toInt, false⟩, ⟨"type", .ofString c.type, c.type = ""⟩,
    ⟨"requested", .ofBool c.requested, c.requested = false⟩,
    ⟨"executed", .ofBool c.executed, c.executed = false⟩]

/-- A document that stands for the command. -/
def Variant (c : Command) (d : Document) : Prop := shape.Variant c.entries d

theorem nodup_names : shape.names.Nodup := by decide

theorem fits_entries (c : Command) : shape.Fits c.entries :=
  .cons ⟨rfl, Field.check_of (Document.readInt64_ofInt c.id), fun _ => rfl⟩ <|
  .cons ⟨rfl, Field.check_of (Document.readString_ofString c.type), by rintro ⟨⟩⟩ <|
  .cons ⟨rfl, Field.check_of (Document.readBool_ofBool c.requested), by rintro ⟨⟩⟩ <|
  .cons ⟨rfl, Field.check_of (Document.readBool_ofBool c.executed), by rintro ⟨⟩⟩ .nil

theorem isValid_of_variant {c : Command} {d : Document} (h : c.Variant d) : d.IsValid := by
  refine Shape.isValid_of_variant (fun e he => ?_) h
  simp only [entries, List.mem_cons, List.not_mem_nil, or_false] at he
  rcases he with rfl | rfl | rfl | rfl
  · exact Document.isValid_ofInt _
  · exact Document.isValid_ofString _
  · exact Document.isValid_ofBool _
  · exact Document.isValid_ofBool _

theorem read_of_variant {c : Command} {d : Document} (h : c.Variant d) : read d = .ok c := by
  obtain ⟨row, hrow, hhas⟩ := Shape.read_variant nodup_names c.fits_entries h
  simp only [entries, List.forall_mem_cons] at hhas
  obtain ⟨hid, htype, hrequested, hexecuted, -⟩ := hhas
  have hid := Row.need_of_has hid (Document.readInt64_ofInt c.id)
  have htype := Row.getD_of_has htype (Document.readString_ofString c.type) of_decide_eq_true
  have hrequested := Row.getD_of_has hrequested (Document.readBool_ofBool c.requested)
    of_decide_eq_true
  have hexecuted := Row.getD_of_has hexecuted (Document.readBool_ofBool c.executed)
    of_decide_eq_true
  simp only [read, hrow, hid, htype, hrequested, hexecuted, bind, Except.bind, pure, Except.pure]

theorem variant_document (c : Command) : c.Variant c.document :=
  shape.variant_self _

end Command

namespace CollectorReply

/-- A document that stands for the commands: a list, or `null` for none. -/
def CommandsVariant (commands : List Command) (d : Document) : Prop :=
  (∃ docs, List.Forall₂ Command.Variant commands docs ∧ d = .ofList docs) ∨
    commands = [] ∧ d = .word .null

theorem isValid_of_commandsVariant {commands : List Command} {d : Document}
    (h : CommandsVariant commands d) : d.IsValid := by
  rcases h with ⟨docs, hdocs, rfl⟩ | ⟨-, rfl⟩
  · exact isValid_ofList (fun _ _ => Command.isValid_of_variant) hdocs
  · trivial

theorem readCommands_of_variant {commands : List Command} {d : Document}
    (h : CommandsVariant commands d) : readCommands d = .ok commands := by
  rcases h with ⟨docs, hdocs, rfl⟩ | ⟨rfl, rfl⟩
  · have hlist := readList_ofList (hdocs.imp fun _ _ => Command.read_of_variant)
    show ((Document.readList Command.read (.ofList docs)).map some).map _ = _
    rw [hlist]
    rfl
  · rfl

/-- The members of a reply, given the documents of the agent and the commands. -/
def entries (r : CollectorReply) (agent commands : Document) : List Entry :=
  [⟨"AgentID", agent, r.agent = .unnamed⟩, ⟨"Commands", commands, r.commands.isEmpty⟩]

/-- A document that stands for the reply. -/
def Variant (r : CollectorReply) (d : Document) : Prop :=
  ∃ agent commands, r.agent.Variant agent ∧ CommandsVariant r.commands commands ∧
    shape.Variant (r.entries agent commands) d

theorem nodup_names : shape.names.Nodup := by decide

theorem isValid_of_variant {r : CollectorReply} {d : Document} (h : r.Variant d) : d.IsValid := by
  obtain ⟨agent, commands, hagent, hcommands, h⟩ := h
  refine Shape.isValid_of_variant (fun e he => ?_) h
  simp only [entries, List.mem_cons, List.not_mem_nil, or_false] at he
  rcases he with rfl | rfl
  · exact Agent.isValid_of_variant hagent
  · exact isValid_of_commandsVariant hcommands

theorem read_of_variant {r : CollectorReply} {d : Document} (h : r.Variant d) :
    read d = .ok r := by
  obtain ⟨agent, commands, hagent, hcommands, h⟩ := h
  have hagent := Agent.read_of_variant hagent
  have hcommands := readCommands_of_variant hcommands
  have hfits : shape.Fits (r.entries agent commands) :=
    .cons ⟨rfl, Field.check_of hagent, by rintro ⟨⟩⟩ <|
    .cons ⟨rfl, Field.check_of hcommands, by rintro ⟨⟩⟩ .nil
  obtain ⟨row, hrow, hhas⟩ := Shape.read_variant nodup_names hfits h
  simp only [entries, List.forall_mem_cons] at hhas
  have hagent := Row.getD_of_has hhas.1 hagent of_decide_eq_true
  have hcommands := Row.getD_of_has hhas.2.1 hcommands List.isEmpty_iff.1
  simp only [read, hrow, hagent, hcommands, bind, Except.bind, pure, Except.pure]

theorem variant_document (r : CollectorReply) : r.Variant r.document := by
  obtain ⟨agent, commands⟩ := r
  have hcommands : CommandsVariant commands (.ofList (commands.map Command.document)) := by
    refine Or.inl ⟨_, ?_, rfl⟩
    rw [List.forall₂_map_right_iff, List.forall₂_same]
    exact fun c _ => c.variant_document
  refine ⟨_, _, agent.variant_document, hcommands, ?_⟩
  cases commands with
  | nil =>
    exact shape.variant_ofMembers [⟨"AgentID", agent.document, agent = .unnamed⟩]
      (by simp [entries]) (by simp [entries])
  | cons c commands => exact shape.variant_self _

theorem decode_of_variant {r : CollectorReply} {d : Document} (h : r.Variant d) {text : Bytes}
    (htext : Spells d.tokens text) : decode text = .ok r := by
  rw [decode, decode_of_spells (isValid_of_variant h) htext, read_of_variant h]

theorem decode_encode (r : CollectorReply) : decode r.encode = .ok r :=
  decode_of_variant r.variant_document (spells_flatMap _)

/-- A reply is read from every text that its members can be spelled in, so that the commands are
started as for the plain text. -/
theorem forward_compatible {r : CollectorReply} {d : Document} (h : r.Variant d) {text : Bytes}
    (htext : Spells d.tokens text) :
    decode text = .ok r ∧ ∀ (c : Client) (host : Host),
      c.analyse text host = c.dispatch r.agent r.commands host ∧
      c.analyse text host = c.analyse r.encode host := by
  have hdecode := decode_of_variant h htext
  refine ⟨hdecode, fun c host => ?_⟩
  simp only [Client.analyse, hdecode, r.decode_encode, and_self]

theorem forward_compatible_scrambled :
    let r : CollectorReply := ⟨.unnamed, [⟨-5, "trace", true, false⟩, ⟨7, "", false, false⟩]⟩
    let text := Text.Utf8.ofString (" \x7b \"later\" : [ 100000000000000000000 , " ++
      "\"\\ud800\" ] , \"Commands\" : [ \x7b \"by\" : null , \"requested\" : true , " ++
      "\"type\" : \"trace\" , \"id\" : -5 \x7d , \x7b \"id\" : 7 \x7d ] , " ++
      "\"AgentID\" : \x7b \"id\" : 9 \x7d \x7d")
    decode text = .ok r ∧ ∀ (c : Client) (host : Host),
      c.analyse text host = c.dispatch r.agent r.commands host ∧
      c.analyse text host = c.analyse r.encode host := by
  intro r text
  let later : Document :=
    .ofList [.ofInt 100000000000000000000, .text [.unit 0x64 0x38 0x30 0x30]]
  let first : Document := .ofMembers [("by", .word .null), ("requested", .ofBool true),
    ("type", .ofString "trace"), ("id", .ofInt (-5))]
  let second : Document := .ofMembers [("id", .ofInt 7)]
  let agent : Document := .ofMembers [("id", .ofInt 9)]
  let d : Document := .ofMembers [("later", later), ("Commands", .ofList [first, second]),
    ("AgentID", agent)]
  have hfirst : Command.Variant ⟨-5, "trace", true, false⟩ first := by
    refine ⟨[⟨"id", .ofInt (-5), false⟩, ⟨"type", .ofString "trace", false⟩,
      ⟨"requested", .ofBool true, false⟩], [(pieces "by", .word .null)], _, ?_, ?_, ?_,
      List.reverse_perm _, rfl⟩
    · simp [Command.entries]
    · simp [Command.entries]
    · intro m hm
      rw [List.mem_singleton.1 hm]
      exact Shape.unknown_pieces (by decide) trivial
  have hsecond : Command.Variant ⟨7, "", false, false⟩ second := by
    refine Shape.variant_ofMembers _ [⟨"id", .ofInt 7, false⟩] ?_ ?_
    · simp [Command.entries]
    · simp [Command.entries]
  have hagent : Agent.Variant .unnamed agent := by
    refine ⟨[], [(pieces "id", .ofInt 9)], _, List.nil_sublist _, ?_, ?_, .refl _, rfl⟩
    · simp [Agent.entries, Agent.unnamed]
    · intro m hm
      rw [List.mem_singleton.1 hm]
      exact Shape.unknown_pieces (by decide) (Document.isValid_ofInt 9)
  have hlater : later.IsValid := by
    refine ⟨Document.isValid_ofInt _, fun p hp => ?_, rfl⟩
    rw [List.mem_singleton.1 hp]
    exact ⟨rfl, rfl, rfl, rfl⟩
  have hd : r.Variant d := by
    refine ⟨agent, .ofList [first, second], hagent,
      Or.inl ⟨_, .cons hfirst (.cons hsecond .nil), rfl⟩, r.entries agent (.ofList [first, second]),
      [(pieces "later", later)], _, .refl _, fun e he => Or.inl he, ?_, List.reverse_perm _, rfl⟩
    intro m hm
    rw [List.mem_singleton.1 hm]
    exact Shape.unknown_pieces (by decide) hlater
  have hspaced : ∀ ts : List Token, Spells ts (ts.flatMap fun t => 0x20 :: t.bytes) := by
    intro ts
    induction ts with
    | nil => exact .nil
    | cons t ts ih => exact .space rfl (.token t ih)
  have htext : text = d.tokens.flatMap fun t => 0x20 :: t.bytes := by decide +kernel
  exact forward_compatible hd (htext ▸ hspaced d.tokens)

/-! ### Replies that are not whole -/

theorem isContainer_of_read {d : Document} {r : CollectorReply} (h : read d = .ok r) :
    d.isSound = true ∧ d.IsContainer := by
  have hagent : Vouches Agent.read := by
    refine Vouches.bind (Vouches.shape fun f hf => ?_) _
    rw [List.mem_singleton.1 hf]
    exact vouches_readString.map _
  have hcommand : Vouches Command.read := by
    refine Vouches.bind (Vouches.shape fun f hf => ?_) _
    simp only [Command.shape, List.mem_cons, List.not_mem_nil, or_false] at hf
    rcases hf with rfl | rfl | rfl | rfl
    · exact vouches_readInt64.map _
    · exact vouches_readString.map _
    · exact vouches_readBool.map _
    · exact vouches_readBool.map _
  have hcommands : Vouches readCommands := hcommand.readList.readOptional.map _
  obtain ⟨row, hrow, -⟩ := bind_eq_ok.1 h
  refine Shape.isContainer_of_read (fun f hf => ?_) hrow
  simp only [shape, List.mem_cons, List.not_mem_nil, or_false] at hf
  rcases hf with rfl | rfl
  · exact hagent.map _
  · exact hcommands.map _

theorem getLast?_encode (r : CollectorReply) : r.encode.getLast? = some 0x7D :=
  Document.getLast?_bytes _

/-- The start of a reply, or a reply with something after it. -/
def Breaks (r : CollectorReply) (body : Bytes) : Prop :=
  (body <+: r.encode ∧ body ≠ r.encode) ∨
    ∃ more, body = r.encode ++ more ∧ ∃ b ∈ more, b ∉ ([0x20, 0x09, 0x0A, 0x0D] : Bytes)

theorem decode_of_breaks {r : CollectorReply} {body : Bytes} (h : r.Breaks body) :
    ∃ e, decode body = .error e := by
  cases hdecode : decode body with
  | error e => exact ⟨e, rfl⟩
  | ok r' =>
    exfalso
    rcases h with ⟨⟨more, hmore⟩, hne⟩ | ⟨more, rfl, b, hb, hspace⟩
    -- what was cut off would be white space, but it ends in the closing brace
    · have hspaces := isSpace_of_decode_append (fun _ _ => isContainer_of_read) hdecode
        (hmore ▸ r.decode_encode)
      have hlast := r.getLast?_encode
      cases more using List.reverseRecOn with
      | nil => exact hne (by rw [← hmore, List.append_nil])
      | append_singleton more last =>
        rw [← hmore, ← List.append_assoc, List.getLast?_concat] at hlast
        cases hlast
        cases hspaces 0x7D (by simp)
    · have hspaces := isSpace_of_decode_append (fun _ _ => isContainer_of_read) r.decode_encode
        hdecode
      have hb := hspaces b hb
      exact hspace (by simpa [isSpace, or_assoc] using hb)

/-- A reply that was cut or that something was added to starts nothing. -/
theorem broken_reply {r : CollectorReply} {body : Bytes} (h : r.Breaks body) (c : Client)
    (host : Host) :
    (c.analyse body host).1 = 0 ∧ (c.analyse body host).2.tasks = host.tasks ∧
      (c.analyse body host).2.commands = host.commands ∧
      ∃ line, (c.analyse body host).2 = host.write line := by
  obtain ⟨e, he⟩ := decode_of_breaks h
  rw [Client.analyse, he]
  exact ⟨rfl, rfl, rfl, _, rfl⟩

theorem broken_reply_after_commands :
    let r : CollectorReply := ⟨⟨"agent"⟩, [.ask 1 (.known .trace), .ask 2 (.known .cpuProfile)]⟩
    (r.Breaks r.encode.dropLast ∧
      (Client.unreached.analyse r.encode.dropLast (.fresh "")).2.tasks.length = 0) ∧
    (r.Breaks (r.encode ++ [0x0A, 0x5D]) ∧
      (Client.unreached.analyse (r.encode ++ [0x0A, 0x5D]) (.fresh "")).2.tasks.length = 0) ∧
    (Client.unreached.analyse (r.encode ++ [0x0A]) (.fresh "")).2.tasks.length = 2 := by
  intro r
  have hcut : r.Breaks r.encode.dropLast :=
    Or.inl ⟨List.dropLast_prefix _, by decide +kernel⟩
  have hmore : r.Breaks (r.encode ++ [0x0A, 0x5D]) :=
    Or.inr ⟨_, rfl, 0x5D, by decide, by decide⟩
  refine ⟨⟨hcut, ?_⟩, ⟨hmore, ?_⟩, by decide +kernel⟩
  · rw [(broken_reply hcut Client.unreached (.fresh "")).2.1]
    rfl
  · rw [(broken_reply hmore Client.unreached (.fresh "")).2.1]
    rfl

end CollectorReply

end Telemetry
