import Mathlib.Data.List.Basic
import Telemetry.Client.Transport
import Telemetry.Proofs.Client.Sending
import Telemetry.Proofs.Text.Utf8

/-!
The headers of a POST and what stands in their way.

A text can be the value of a header unless it has a control other than the tab in it, and the value
is its UTF-8. The clients that there are can post exactly if posting is on and each of the five
texts of their configuration can be a value (`Made.exists_canPost_iff`), and then they have the
headers that the configuration asks for (`Made.canPost`). That a configuration is accepted says
nothing about this.
-/
namespace Telemetry

namespace Http

/-- A text that can be the value of a header: of the controls of ASCII it has none but the tab. -/
def IsHeaderText (s : String) : Prop :=
  ∀ c ∈ s.toList, c = '\t' ∨ 0x20 ≤ c.toNat ∧ c.toNat ≠ 0x7F

instance (s : String) : Decidable (IsHeaderText s) :=
  List.decidableBAll (fun c => c = '\t' ∨ 0x20 ≤ c.toNat ∧ c.toNat ≠ 0x7F) s.toList

theorem isValueByte_iff {b : UInt8} :
    isValueByte b = true ↔ b.toNat = 0x09 ∨ 0x20 ≤ b.toNat ∧ b.toNat ≠ 0x7F := by
  simp only [isValueByte, Bool.or_eq_true, beq_iff_eq, Bool.and_eq_true, decide_eq_true_eq,
    bne_iff_ne, UInt8.le_iff_toNat_le, ne_eq, ← UInt8.toNat_inj]
  rfl

/-- Bytes of other characters than those of ASCII may stand in a value. -/
theorem all_isValueByte_iff {s : String} :
    (Text.Utf8.ofString s).all isValueByte = true ↔ IsHeaderText s := by
  have htab : ∀ c : Char, c = '\t' ↔ c.toNat = 0x09 := fun c => Char.toNat_inj.symm
  simp only [List.all_eq_true, isValueByte_iff, IsHeaderText, htab]
  constructor
  · intro hbytes c hc
    by_cases hascii : c.toNat < 0x80
    · have hbyte : (UInt8.ofNat c.toNat).toNat = c.toNat := Text.Utf8.toNat_ofNat (by omega)
      have hmem : UInt8.ofNat c.toNat ∈ Text.Utf8.ofString s := by
        refine List.mem_flatMap.2 ⟨c, hc, ?_⟩
        rw [Text.Utf8.encodeChar_of_lt hascii]
        exact List.mem_singleton.2 rfl
      have hvalue := hbytes _ hmem
      rwa [hbyte] at hvalue
    · omega
  · intro hchars b hb
    obtain ⟨c, hc, hmem⟩ := List.mem_flatMap.1 hb
    have hvalue := hchars c hc
    have hbyte := Text.Utf8.mem_encodeChar hmem
    omega

namespace HeaderValue

theorem ofString_of_isHeaderText {s : String} (hs : IsHeaderText s) :
    ∃ v, ofString s = .ok v ∧ v.bytes = Text.Utf8.ofString s := by
  have hvalid := all_isValueByte_iff.2 hs
  exact ⟨⟨_, hvalid⟩, by rw [ofString, ofBytes, dif_pos hvalid], rfl⟩

theorem ofString_of_not_isHeaderText {s : String} (hs : ¬ IsHeaderText s) :
    ofString s = .error .value := by
  rw [ofString, ofBytes, dif_neg fun hvalid => hs (all_isValueByte_iff.1 hvalid)]

end HeaderValue

end Http

namespace ClientConfig

/-- The texts of a configuration that stand in headers. -/
def headerTexts (c : ClientConfig) : List String :=
  [c.token, c.userAgent, c.environment, c.appGroup, c.agentName]

/-- Nothing in a configuration stands in the way of a POST. -/
structure Posts (c : ClientConfig) : Prop where
  posting : c.noPost = false
  valid : ∀ text ∈ c.headerTexts, Http.IsHeaderText text

instance (c : ClientConfig) : Decidable c.Posts :=
  decidable_of_iff (c.noPost = false ∧ ∀ text ∈ c.headerTexts, Http.IsHeaderText text)
    ⟨fun h => ⟨h.1, h.2⟩, fun h => ⟨h.posting, h.valid⟩⟩

/-- The headers that a configuration asks for: names and values. -/
def headerRow (c : ClientConfig) : List (String × Bytes) :=
  [("x-deferid", Text.Utf8.ofString c.token),
    ("content-type", Text.Utf8.ofString "application/json"),
    ("user-agent", Text.Utf8.ofString c.userAgent),
    ("x-dpenv", Text.Utf8.ofString c.environment),
    ("x-dpgroup", Text.Utf8.ofString c.appGroup),
    ("x-dpagentid", Text.Utf8.ofString c.agentName)]

end ClientConfig

/-- Headers as names and values. -/
def Http.Headers.row (headers : Http.Headers) : List (String × Bytes) :=
  headers.map fun h => (h.1.toString, h.2.bytes)

namespace Client

/-- The clients that there are. One that has been made may have got another profiler since then, and
its background may have changed. -/
inductive Made : Client → Prop where
  | make {config : ClientConfig} {collector : Collector} {hasBackground : Bool} {c : Client}
    (h : Client.make config collector hasBackground = .ok c) : Made c
  | connect {config : ClientConfig} {collector : Collector} {hasBackground : Bool} {c : Client}
    (h : Client.connect config collector hasBackground = .ok c) : Made c
  | withProfiler (profiler : Profiler) {c : Client} (hc : Made c) : Made (c.withProfiler profiler)
  | onBackground (background : Background) {c : Client} (hc : Made c) : Made { c with background }

theorem of_make {config : ClientConfig} {collector : Collector} {hasBackground : Bool} {c : Client}
    (h : make config collector hasBackground = .ok c) :
    c.config.validate = .ok () ∧ c.agent.name = c.config.agentName := by
  unfold make at h
  cases hvalidate : config.validate with
  | error e =>
    rw [hvalidate] at h
    cases h
  | ok accepted =>
    rw [hvalidate] at h
    cases hasBackground with
    | false => cases h
    | true =>
      cases h
      exact ⟨hvalidate, rfl⟩

/-- The configuration has been accepted, and the agent has its name from there. -/
theorem Made.accepted {c : Client} (hc : c.Made) :
    c.config.validate = .ok () ∧ c.agent.name = c.config.agentName := by
  induction hc with
  | make h => exact of_make h
  | @connect config collector hasBackground c h =>
    unfold Client.connect at h
    cases hbuild : Transport.build config.httpsProxy with
    | error e =>
      rw [hbuild] at h
      cases h
    | ok built =>
      rw [hbuild] at h
      exact of_make h
  | withProfiler _ _ ih | onBackground _ _ ih => exact ih

variable {c : Client}

theorem toString_names :
    tokenHeader.toString = "x-deferid" ∧ Http.HeaderName.contentType.toString = "content-type" ∧
    userAgentHeader.toString = "user-agent" ∧ environmentHeader.toString = "x-dpenv" ∧
    appGroupHeader.toString = "x-dpgroup" ∧ agentHeader.toString = "x-dpagentid" :=
  ⟨String.ofList_toList, String.ofList_toList, String.ofList_toList, String.ofList_toList,
    String.ofList_toList, String.ofList_toList⟩

/-- The headers are the six that the configuration asks for, if their texts allow it. -/
theorem headers_of_valid (hname : c.agent.name = c.config.agentName)
    (hvalid : ∀ text ∈ c.config.headerTexts, Http.IsHeaderText text) :
    ∃ headers, c.headers = .ok headers ∧ headers.row = c.config.headerRow := by
  simp only [ClientConfig.headerTexts, List.forall_mem_cons] at hvalid
  obtain ⟨htoken, huser, henvironment, hgroup, hagent, -⟩ := hvalid
  rw [← hname] at hagent
  obtain ⟨token, htoken, hfirst⟩ := Http.HeaderValue.ofString_of_isHeaderText htoken
  obtain ⟨user, huser, hsecond⟩ := Http.HeaderValue.ofString_of_isHeaderText huser
  obtain ⟨environment, henvironment, hthird⟩ :=
    Http.HeaderValue.ofString_of_isHeaderText henvironment
  obtain ⟨group, hgroup, hfourth⟩ := Http.HeaderValue.ofString_of_isHeaderText hgroup
  obtain ⟨agent, hagent, hfifth⟩ := Http.HeaderValue.ofString_of_isHeaderText hagent
  refine ⟨[(tokenHeader, token), (.contentType, .json), (userAgentHeader, user),
    (environmentHeader, environment), (appGroupHeader, group), (agentHeader, agent)], ?_, ?_⟩
  · rw [headers, htoken, huser, henvironment, hgroup, hagent]
    rfl
  have hjson : Http.HeaderValue.json.bytes = Text.Utf8.ofString "application/json" := by
    decide +kernel
  obtain ⟨hdeferid, hcontent, huserAgent, hdpenv, hdpgroup, hdpagentid⟩ := toString_names
  simp only [Http.Headers.row, ClientConfig.headerRow, List.map_cons, List.map_nil, hdeferid,
    hcontent, huserAgent, hdpenv, hdpgroup, hdpagentid, hfirst, hsecond, hthird, hfourth, hfifth,
    hjson, hname]

/-- The first text that cannot be a value is the reason to have no headers. -/
theorem headers_of_not_valid (hname : c.agent.name = c.config.agentName)
    (hvalid : ¬ ∀ text ∈ c.config.headerTexts, Http.IsHeaderText text) :
    c.headers = .error .value := by
  by_cases htoken : Http.IsHeaderText c.config.token
  case neg =>
    rw [headers, Http.HeaderValue.ofString_of_not_isHeaderText htoken]
    rfl
  obtain ⟨token, hfirst, -⟩ := Http.HeaderValue.ofString_of_isHeaderText htoken
  by_cases huser : Http.IsHeaderText c.config.userAgent
  case neg =>
    rw [headers, hfirst, Http.HeaderValue.ofString_of_not_isHeaderText huser]
    rfl
  obtain ⟨user, hsecond, -⟩ := Http.HeaderValue.ofString_of_isHeaderText huser
  by_cases henvironment : Http.IsHeaderText c.config.environment
  case neg =>
    rw [headers, hfirst, hsecond, Http.HeaderValue.ofString_of_not_isHeaderText henvironment]
    rfl
  obtain ⟨environment, hthird, -⟩ := Http.HeaderValue.ofString_of_isHeaderText henvironment
  by_cases hgroup : Http.IsHeaderText c.config.appGroup
  case neg =>
    rw [headers, hfirst, hsecond, hthird, Http.HeaderValue.ofString_of_not_isHeaderText hgroup]
    rfl
  obtain ⟨group, hfourth, -⟩ := Http.HeaderValue.ofString_of_isHeaderText hgroup
  by_cases hagent : Http.IsHeaderText c.agent.name
  case neg =>
    rw [headers, hfirst, hsecond, hthird, hfourth,
      Http.HeaderValue.ofString_of_not_isHeaderText hagent]
    rfl
  rw [hname] at hagent
  refine absurd ?_ hvalid
  simp only [ClientConfig.headerTexts, List.forall_mem_cons]
  exact ⟨htoken, huser, henvironment, hgroup, hagent, fun _ hnil => absurd hnil List.not_mem_nil⟩

/-- A client can post if nothing in its configuration stands in the way, and then with the headers
that the configuration asks for. -/
theorem Made.canPost (hc : c.Made) (hposts : c.config.Posts) :
    ∃ headers, c.CanPost headers ∧ headers.row = c.config.headerRow := by
  obtain ⟨headers, hheaders, hrow⟩ := headers_of_valid hc.accepted.2 hposts.valid
  exact ⟨headers, ⟨hposts.posting, hheaders⟩, hrow⟩

theorem Made.exists_canPost_iff (hc : c.Made) :
    (∃ headers, c.CanPost headers) ↔ c.config.Posts := by
  constructor
  · rintro ⟨headers, hposting, hheaders⟩
    refine ⟨hposting, ?_⟩
    by_contra hvalid
    cases (headers_of_not_valid hc.accepted.2 hvalid).symm.trans hheaders
  · intro hposts
    obtain ⟨headers, hcan, -⟩ := hc.canPost hposts
    exact ⟨headers, hcan⟩

end Client

end Telemetry
