import Mathlib
import Telemetry.Config.Agent
import Telemetry.Proofs.Config.Variables

/-!
Which environments the agent accepts.

Seven things can be wrong with an environment. They are looked for one after the other, and the
first that is found is reported. An environment with which nothing is wrong gives a configuration,
and the client and the statistics find nothing wrong with it either.
-/
namespace Telemetry

/-- What can be wrong with an environment. -/
inductive Mistake where
  | port
  | token
  | address
  | timeout
  | threshold
  | interval
  | noInterval
  deriving DecidableEq, Repr

namespace Mistake

/-- The mistakes that the client looks for. -/
def ofClient : List Mistake := [token, address, timeout]

/-- The mistakes that the statistics look for. -/
def ofStats : List Mistake := [threshold, interval, noInterval]

/-- The mistakes in the order in which they are looked for. -/
def all : List Mistake := port :: (ofClient ++ ofStats)

end Mistake

/-- What is left of an address without the slashes at its end. -/
structure IsBase (address base : List Char) : Prop where
  slashes : ∃ count, address = base ++ List.replicate count '/'
  last : base.getLast? ≠ some '/'

/-- The environment has a mistake, and this is the error that reports it. -/
inductive Reported (env : Environment) : Mistake → ConfigError → Prop where
  | port {e : ConfigError} (h : env.HoldsNoNumber "DEFERPANIC_PORT" (2 ^ 16 - 1) e) :
    Reported env .port e
  | token
    (hblank : ∀ text, env.Holds "DEFERPANIC_TOKEN" text → ∀ c ∈ text.toList, Text.isBlank c = true)
    (hposts : ∀ text, env.Holds "DEFERPANIC_NO_POST" text → ¬ Environment.SwitchesOn text) :
    Reported env .token .missingToken
  | address {text : String} {base : List Char} (hset : env.Holds "DEFERPANIC_API_URL" text)
    (hbase : IsBase text.toList base) (hblank : ∀ c ∈ base, Text.isBlank c = true) :
    Reported env .address (.invalid "api_base cannot be empty")
  | timeout {text : String} (hset : env.Holds "DEFERPANIC_TIMEOUT_SECS" text)
    (hzero : Text.WritesNat text.toList 0) :
    Reported env .timeout (.invalid "timeout must be greater than 0")
  | threshold {e : ConfigError}
    (h : env.HoldsNoNumber "DEFERPANIC_LATENCY_THRESHOLD_MS" (2 ^ 64 - 1) e) :
    Reported env .threshold e
  | interval {e : ConfigError}
    (h : env.HoldsNoNumber "DEFERPANIC_FLUSH_INTERVAL_SECS" (2 ^ 64 - 1) e) :
    Reported env .interval e
  | noInterval (h : env.HoldsNumber "DEFERPANIC_FLUSH_INTERVAL_SECS" 0) :
    Reported env .noInterval (.invalid "flush_interval_secs must be greater than 0")

/-- The first mistake that the environment has is reported with the error. -/
def FirstReported (env : Environment) (e : ConfigError) : Prop :=
  ∃ before mistake after, Mistake.all = before ++ mistake :: after ∧ Reported env mistake e ∧
    ∀ earlier ∈ before, ∀ e', ¬ Reported env earlier e'

/-! ### The checks -/

theorem findSome?_cons_eq_or {α β : Type} {f : α → Option β} {a : α} {rest : List α} :
    (a :: rest).findSome? f = (f a).or (rest.findSome? f) := by
  rw [List.findSome?_cons]
  cases f a <;> rfl

namespace Environment

/-- What a check finds. -/
def errorOf (env : Environment) : Mistake → Option ConfigError
  | .port => failure? (env.number "DEFERPANIC_PORT" Text.readUInt16)
  | .token =>
    let config := ClientConfig.draft env
    if !config.noPost && Text.isBlankText config.token then some .missingToken else none
  | .address =>
    if Text.isBlankText (ClientConfig.draft env).apiBase then
      some (.invalid "api_base cannot be empty")
    else none
  | .timeout =>
    if (ClientConfig.draft env).timeout.isZero then
      some (.invalid "timeout must be greater than 0")
    else none
  | .threshold => failure? (env.number "DEFERPANIC_LATENCY_THRESHOLD_MS" Text.readUInt64)
  | .interval => failure? (env.number "DEFERPANIC_FLUSH_INTERVAL_SECS" Text.readUInt64)
  | .noInterval =>
    if env.number "DEFERPANIC_FLUSH_INTERVAL_SECS" Text.readUInt64 = .ok (some 0) then
      some (.invalid "flush_interval_secs must be greater than 0")
    else none

theorem failure?_client (env : Environment) :
    failure? (ClientConfig.fromEnvironment env) = Mistake.ofClient.findSome? env.errorOf := by
  rw [ClientConfig.fromEnvironment, failure?_bind_of_none fun _ => rfl]
  simp only [Mistake.ofClient, List.findSome?, errorOf, ClientConfig.validate]
  split_ifs <;> rfl

theorem failure?_stats (env : Environment) :
    failure? (StatsConfig.fromEnvironment env) = Mistake.ofStats.findSome? env.errorOf := by
  rw [Mistake.ofStats, findSome?_cons_eq_or, findSome?_cons_eq_or, findSome?_cons_eq_or,
    List.findSome?_nil, Option.or_none, StatsConfig.fromEnvironment]
  -- the last check is about the number that the one before has read; an unset one is not zero
  refine failure?_bind fun threshold _ => failure?_bind fun interval hinterval => ?_
  rw [failure?_bind_of_none fun _ => rfl, errorOf, hinterval, StatsConfig.validate]
  cases interval with
  | none => rfl
  | some w => by_cases hw : w = 0 <;> simp [hw, failure?]

theorem failure?_agent (env : Environment) :
    failure? (AgentConfig.fromEnvironment env) = Mistake.all.findSome? env.errorOf := by
  rw [Mistake.all, findSome?_cons_eq_or, List.findSome?_append, AgentConfig.fromEnvironment,
    ← failure?_client, ← failure?_stats]
  -- no part looks at what another one gave
  refine failure?_bind fun port _ => failure?_bind fun client _ => ?_
  exact failure?_bind_of_none fun stats => rfl

end Environment

/-! ### Addresses -/

theorem isBase_dropSlashes (address : String) :
    IsBase address.toList (ClientConfig.dropSlashes address).toList := by
  rw [ClientConfig.dropSlashes, String.toList_ofList]
  refine ⟨⟨(address.toList.rtakeWhile (· = '/')).length, ?_⟩, fun hlast => ?_⟩
  · have hslashes : address.toList.rtakeWhile (· = '/') =
        List.replicate (address.toList.rtakeWhile (· = '/')).length '/' :=
      List.eq_replicate_length.2 fun c hc => by simpa using List.mem_rtakeWhile_imp hc
    rw [← hslashes]
    exact List.rdropWhile_append_rtakeWhile.symm
  · rw [List.getLast?_reverse] at hlast
    exact absurd (Text.eq_false_of_mem_head?_dropWhile hlast) (by simp)

theorem IsBase.dropSlashes_eq {address : String} {base : List Char}
    (h : IsBase address.toList base) : (ClientConfig.dropSlashes address).toList = base := by
  obtain ⟨⟨count, haddress⟩, hlast⟩ := h
  rw [ClientConfig.dropSlashes, String.toList_ofList, haddress, List.reverse_append,
    List.reverse_replicate, List.dropWhile_append_of_pos (by simp), Text.dropWhile_of_head?,
    List.reverse_reverse]
  intro c hc
  rw [List.head?_reverse] at hc
  exact decide_eq_false fun hslash => hlast (hslash ▸ hc)

theorem Duration.nanoseconds_ofSeconds_eq_zero_iff {n : Nat} :
    (ofSeconds n).nanoseconds = 0 ↔ n = 0 := by
  change n * 1000000000 = 0 ↔ n = 0
  omega

namespace ClientConfig

variable {env : Environment}

theorem isBlankText_token_draft_iff : Text.isBlankText (draft env).token = true ↔
    ∀ text, env.Holds "DEFERPANIC_TOKEN" text → ∀ c ∈ text.toList, Text.isBlank c = true := by
  simp only [draft, ← Environment.get?_eq_some_iff, Text.isBlankText]
  cases env.get? "DEFERPANIC_TOKEN" <;> simp

theorem noPost_draft_eq_false_iff : (draft env).noPost = false ↔
    ∀ text, env.Holds "DEFERPANIC_NO_POST" text → ¬ Environment.SwitchesOn text := by
  rw [← Bool.not_eq_true, draft, Environment.flag_eq_true_iff]
  simp only [not_exists, not_and]

theorem isBlankText_apiBase_draft_iff : Text.isBlankText (draft env).apiBase = true ↔
    ∃ text base, env.Holds "DEFERPANIC_API_URL" text ∧ IsBase text.toList base ∧
      ∀ c ∈ base, Text.isBlank c = true := by
  constructor
  · intro hblank
    cases hget : env.get? "DEFERPANIC_API_URL" with
    | none =>
      simp only [draft, hget, Option.map_none, Option.getD_none] at hblank
      exact absurd hblank (by decide +kernel)
    | some text =>
      simp only [draft, hget, Option.map_some, Option.getD_some] at hblank
      exact ⟨text, _, Environment.get?_eq_some_iff.1 hget, isBase_dropSlashes text,
        List.all_eq_true.1 hblank⟩
  · rintro ⟨text, base, hset, hbase, hblank⟩
    simp only [draft, Environment.get?_eq_some_iff.2 hset, Option.map_some, Option.getD_some,
      Text.isBlankText, hbase.dropSlashes_eq]
    exact List.all_eq_true.2 hblank

theorem isZero_timeout_draft_iff : (draft env).timeout.isZero = true ↔
    ∃ text, env.Holds "DEFERPANIC_TIMEOUT_SECS" text ∧ Text.WritesNat text.toList 0 := by
  have hdefault : default.timeout.isZero = false := by decide
  change (timeoutOf env).isZero = true ↔ _
  constructor
  · intro hzero
    unfold timeoutOf at hzero
    split at hzero
    · next text hget =>
      split at hzero
      · next seconds hread =>
        have hwrites := Text.readUInt64_eq_ok_iff.1 hread
        rw [Duration.nanoseconds_ofSeconds_eq_zero_iff.1 (of_decide_eq_true hzero)] at hwrites
        exact ⟨text, Environment.get?_eq_some_iff.1 hget, hwrites⟩
      · cases hdefault.symm.trans hzero
    · cases hdefault.symm.trans hzero
  · rintro ⟨text, hset, hwrites⟩
    have hread : Text.readUInt64 text.toList = .ok 0 := Text.readUInt64_eq_ok_iff.2 hwrites
    rw [timeoutOf, Environment.get?_eq_some_iff.2 hset]
    dsimp only
    rw [hread]
    rfl

end ClientConfig

/-! ### What the checks find -/

theorem Environment.errorOf_eq_some_iff {env : Environment} {mistake : Mistake} {e : ConfigError} :
    env.errorOf mistake = some e ↔ Reported env mistake e := by
  cases mistake with
  | port =>
    rw [errorOf, failure?_number_eq_some_iff readsUpTo_readUInt16]
    exact ⟨.port, fun (.port h) => h⟩
  | token =>
    simp only [errorOf, Option.ite_none_right_eq_some, Bool.and_eq_true, Bool.not_eq_true',
      ClientConfig.isBlankText_token_draft_iff, ClientConfig.noPost_draft_eq_false_iff]
    constructor
    · rintro ⟨⟨hposts, hblank⟩, ⟨⟩⟩
      exact .token hblank hposts
    · rintro ⟨⟩
      next hblank hposts => exact ⟨⟨hposts, hblank⟩, rfl⟩
  | address =>
    simp only [errorOf, Option.ite_none_right_eq_some, ClientConfig.isBlankText_apiBase_draft_iff]
    constructor
    · rintro ⟨⟨text, base, hset, hbase, hblank⟩, ⟨⟩⟩
      exact .address hset hbase hblank
    · rintro ⟨⟩
      next hset hbase hblank => exact ⟨⟨_, _, hset, hbase, hblank⟩, rfl⟩
  | timeout =>
    simp only [errorOf, Option.ite_none_right_eq_some, ClientConfig.isZero_timeout_draft_iff]
    constructor
    · rintro ⟨⟨text, hset, hzero⟩, ⟨⟩⟩
      exact .timeout hset hzero
    · rintro ⟨⟩
      next hset hzero => exact ⟨⟨_, hset, hzero⟩, rfl⟩
  | threshold =>
    rw [errorOf, failure?_number_eq_some_iff readsUpTo_readUInt64]
    exact ⟨.threshold, fun (.threshold h) => h⟩
  | interval =>
    rw [errorOf, failure?_number_eq_some_iff readsUpTo_readUInt64]
    exact ⟨.interval, fun (.interval h) => h⟩
  | noInterval =>
    simp only [errorOf, Option.ite_none_right_eq_some, number_eq_some_iff readsUpTo_readUInt64]
    constructor
    · rintro ⟨hzero, ⟨⟩⟩
      exact .noInterval hzero
    · rintro ⟨⟩
      next hzero => exact ⟨hzero, rfl⟩

namespace AgentConfig

variable {env : Environment}

theorem fromEnvironment_eq_error_iff {e : ConfigError} :
    fromEnvironment env = .error e ↔ FirstReported env e := by
  have hnone : ∀ mistake, env.errorOf mistake = none ↔ ∀ e, ¬ Reported env mistake e := by
    intro mistake
    simp only [← Environment.errorOf_eq_some_iff, Option.eq_none_iff_forall_ne_some, ne_eq]
  rw [← failure?_eq_some_iff, Environment.failure?_agent, List.findSome?_eq_some_iff]
  simp only [FirstReported, Environment.errorOf_eq_some_iff, hnone]

/-- What an environment that is accepted gives. -/
theorem of_fromEnvironment_eq_ok {config : AgentConfig} (h : fromEnvironment env = .ok config) :
    config.client = ClientConfig.draft env ∧ config.client.validate = .ok () ∧
      config.stats.validate = .ok () := by
  obtain ⟨port, -, h⟩ := bind_eq_ok.1 h
  obtain ⟨client, hclient, h⟩ := bind_eq_ok.1 h
  obtain ⟨stats, hstats, ⟨⟩⟩ := bind_eq_ok.1 h
  obtain ⟨⟨⟩, hvalid, ⟨⟩⟩ := bind_eq_ok.1 hclient
  obtain ⟨threshold, -, hstats⟩ := bind_eq_ok.1 hstats
  obtain ⟨interval, -, hstats⟩ := bind_eq_ok.1 hstats
  obtain ⟨⟨⟩, haccepted, ⟨⟩⟩ := bind_eq_ok.1 hstats
  exact ⟨rfl, hvalid, haccepted⟩

theorem exists_fromEnvironment_eq_ok (h : ∀ mistake e, ¬ Reported env mistake e) :
    ∃ config, fromEnvironment env = .ok config := by
  cases hresult : fromEnvironment env with
  | ok config => exact ⟨config, rfl⟩
  | error e =>
    obtain ⟨before, mistake, after, -, hreported, -⟩ := fromEnvironment_eq_error_iff.1 hresult
    exact absurd hreported (h mistake e)

end AgentConfig

theorem ClientConfig.isZero_timeout_of_validate {config : ClientConfig}
    (h : config.validate = .ok ()) : config.timeout.isZero = false := by
  unfold validate at h
  split_ifs at h with _ _ hzero
  exact Bool.eq_false_iff.2 hzero

theorem StatsConfig.flushIntervalSecs_ne_zero_of_validate {config : StatsConfig}
    (h : config.validate = .ok ()) : config.flushIntervalSecs ≠ 0 := by
  unfold validate at h
  split_ifs at h with hzero
  exact hzero

theorem ClientConfig.getLast?_apiBase_draft (env : Environment) :
    (draft env).apiBase.toList.getLast? ≠ some '/' := by
  cases hget : env.get? "DEFERPANIC_API_URL" with
  | none =>
    simp only [draft, hget, Option.map_none, Option.getD_none]
    decide +kernel
  | some text =>
    simp only [draft, hget, Option.map_some, Option.getD_some]
    exact (isBase_dropSlashes text).last

/-- The joined text has just one slash where the two texts meet. -/
structure MeetsInOneSlash (joined before after : List Char) : Prop where
  eq : joined = before ++ '/' :: after
  before : before.getLast? ≠ some '/'
  after : after.head? ≠ some '/'

/-- An environment is refused with the error of the first mistake that it has, in the order of
`Mistake.all`, and it is accepted if it has none. The configuration of an accepted one is valid for
the client and for the statistics, waits and flushes for some time, and has an address that does
not end in a slash, so the address and a path that begins with one slash meet in one. -/
theorem fromEnvironment_complete :
    (∀ env e, AgentConfig.fromEnvironment env = .error e ↔ FirstReported env e) ∧
    (∀ env, (∀ mistake e, ¬ Reported env mistake e) →
      ∃ config, AgentConfig.fromEnvironment env = .ok config) ∧
    ∀ env config, AgentConfig.fromEnvironment env = .ok config →
      config.client.validate = .ok () ∧ config.stats.validate = .ok () ∧
      config.client.timeout.nanoseconds ≠ 0 ∧ config.stats.flushInterval.nanoseconds ≠ 0 ∧
      config.client.apiBase.toList.getLast? ≠ some '/' ∧
      ∀ (path : String) (rest : List Char), path.toList = '/' :: rest → rest.head? ≠ some '/' →
        MeetsInOneSlash (config.client.url path).toList config.client.apiBase.toList rest := by
  refine ⟨fun env e => AgentConfig.fromEnvironment_eq_error_iff,
    fun env => AgentConfig.exists_fromEnvironment_eq_ok, fun env config h => ?_⟩
  obtain ⟨hdraft, hclient, hstats⟩ := AgentConfig.of_fromEnvironment_eq_ok h
  have hinterval := StatsConfig.flushIntervalSecs_ne_zero_of_validate hstats
  have hlast : config.client.apiBase.toList.getLast? ≠ some '/' := by
    rw [hdraft]
    exact ClientConfig.getLast?_apiBase_draft env
  refine ⟨hclient, hstats, of_decide_eq_false (ClientConfig.isZero_timeout_of_validate hclient),
    fun hzero => hinterval ?_, hlast, fun path rest hpath hrest => ⟨?_, hlast, hrest⟩⟩
  · exact UInt64.toNat_inj.1 (Duration.nanoseconds_ofSeconds_eq_zero_iff.1 hzero)
  · rw [ClientConfig.url, String.toList_append, hpath]

/-- An address with slashes at its end, for a client that sends nothing. -/
theorem fromEnvironment_complete_slashes :
    ∃ config, AgentConfig.fromEnvironment
        ⟨[("DEFERPANIC_API_URL", Text.Utf8.ofString "https://collector//"),
          ("DEFERPANIC_NO_POST", Text.Utf8.ofString "TRUE")]⟩ = .ok config ∧
      config.client.timeout.nanoseconds ≠ 0 ∧
      MeetsInOneSlash (config.client.url "/uploads").toList config.client.apiBase.toList
        "uploads".toList := by
  generalize henv : (⟨[("DEFERPANIC_API_URL", Text.Utf8.ofString "https://collector//"),
    ("DEFERPANIC_NO_POST", Text.Utf8.ofString "TRUE")]⟩ : Environment) = env
  have hnone : ∀ mistake e, ¬ Reported env mistake e := by
    intro mistake e hreported
    have herror := Environment.errorOf_eq_some_iff.2 hreported
    have hnothing : env.errorOf mistake = none := by
      rw [← henv]
      cases mistake <;> decide +kernel
    cases hnothing.symm.trans herror
  obtain ⟨-, haccepts, hvalid⟩ := fromEnvironment_complete
  obtain ⟨config, hconfig⟩ := haccepts env hnone
  obtain ⟨-, -, htimeout, -, -, hjoin⟩ := hvalid env config hconfig
  exact ⟨config, hconfig, htimeout, hjoin "/uploads" _ (by decide +kernel) (by decide +kernel)⟩

/-- The port comes before the token that is missing as well. -/
example : AgentConfig.fromEnvironment ⟨[("DEFERPANIC_PORT", Text.Utf8.ofString " 65536 ")]⟩ =
    .error (.invalid "DEFERPANIC_PORT= 65536 : number too large to fit in target type") := by
  decide +kernel

end Telemetry
