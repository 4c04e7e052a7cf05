import Telemetry.Proofs.Json.Grammar

/-!
The lexer reads what the grammar writes.

A token that ends between tokens leaves the lexer where it began, so a byte string is lexed piece
by piece: `tokens_of_spells` for the tokens that a text spells, `tokens_append` for any text that is
cut after a token. Only a numeral does not show its own end.
-/
namespace Telemetry.Json

/-! ### Numerals -/

namespace Numeral

/-- The state after further bytes of a numeral, if they all belong to it. -/
def State.after (state : State) : Bytes → Option State
  | [] => some state
  | b :: rest =>
    match state.step b with
    | .goesOn state => state.after rest
    | _ => none

theorem State.after_append (state : State) (xs ys : Bytes) :
    state.after (xs ++ ys) = (state.after xs).bind (·.after ys) := by
  induction xs generalizing state with
  | nil => rfl
  | cons b xs ih =>
    simp only [List.cons_append, State.after]
    cases state.step b with
    | goesOn next => exact ih next
    | ends => rfl
    | breaks => rfl

/-- A state that digits do not change. -/
def State.TakesDigits (state : State) : Prop := ∀ b, isDigit b = true → state.step b = .goesOn state

theorem State.after_digits {state : State} (h : state.TakesDigits) {ds : Bytes}
    (hds : ∀ b ∈ ds, isDigit b = true) : state.after ds = some state := by
  induction ds with
  | nil => rfl
  | cons b ds ih =>
    rw [State.after, h b (hds b List.mem_cons_self)]
    exact ih fun d hd => hds d (List.mem_cons_of_mem _ hd)

theorem takesDigits_whole : State.whole.TakesDigits := fun b hb => by simp [State.step, hb]

theorem takesDigits_fraction : State.fraction.TakesDigits := fun b hb => by simp [State.step, hb]

theorem takesDigits_power : State.power.TakesDigits := fun b hb => by simp [State.step, hb]

/-- One digit leads to a state that the others do not change. -/
theorem after_isDigits {state next : State} {ds : Bytes} (hds : IsDigits ds)
    (hfirst : ∀ b, isDigit b = true → state.step b = .goesOn next) (hnext : next.TakesDigits) :
    state.after ds = some next := by
  obtain ⟨hne, hdigits⟩ := hds
  cases ds with
  | nil => exact absurd rfl hne
  | cons b ds =>
    rw [State.after, hfirst b (hdigits b List.mem_cons_self)]
    exact State.after_digits hnext fun d hd => hdigits d (List.mem_cons_of_mem _ hd)

theorem isDigit_ne {b c : UInt8} (hb : isDigit b = true) (hc : isDigit c = false) : b ≠ c := by
  rintro rfl
  rw [hb] at hc
  cases hc

/-- Whole digits are read in the same way at the start and after a minus sign. -/
theorem after_isWhole {ds : Bytes} (h : IsWhole ds) :
    ∃ b rest first last, ds = b :: rest ∧ start? b = some first ∧
      State.minus.step b = .goesOn first ∧ first.after rest = some last ∧
      (last = .zero ∨ last = .whole) := by
  rcases h with rfl | ⟨⟨hne, hdigits⟩, hzero⟩
  · exact ⟨0x30, [], .zero, .zero, rfl, rfl, rfl, rfl, Or.inl rfl⟩
  · cases ds with
    | nil => exact absurd rfl hne
    | cons b rest =>
      have hb := hdigits b List.mem_cons_self
      have hminus : b ≠ 0x2D := isDigit_ne hb rfl
      have hb0 : b ≠ 0x30 := fun h => hzero (by rw [h]; rfl)
      refine ⟨b, rest, .whole, .whole, rfl, ?_, ?_, ?_, Or.inr rfl⟩
      · simp [start?, hminus, hb0, hb]
      · simp [State.step, hb0, hb]
      · exact State.after_digits takesDigits_whole fun d hd => hdigits d (List.mem_cons_of_mem _ hd)

theorem after_isFraction {state : State} (hstate : state = .zero ∨ state = .whole) {bs : Bytes}
    (h : IsFraction bs) : ∃ last, state.after bs = some last ∧
      (last = .zero ∨ last = .whole ∨ last = .fraction) := by
  rcases h with rfl | ⟨ds, rfl, hds⟩
  · exact ⟨state, rfl, hstate.elim Or.inl fun h => Or.inr (Or.inl h)⟩
  · have hpoint : state.step 0x2E = .goesOn .point := by rcases hstate with rfl | rfl <;> rfl
    refine ⟨.fraction, ?_, Or.inr (Or.inr rfl)⟩
    rw [State.after, hpoint]
    exact after_isDigits hds (fun b hb => by simp [State.step, hb]) takesDigits_fraction

theorem after_isPower {state : State}
    (hstate : state = .zero ∨ state = .whole ∨ state = .fraction) {bs : Bytes} (h : IsPower bs) :
    ∃ last, state.after bs = some last ∧ last.isComplete = true := by
  rcases h with rfl | ⟨mark, sign, ds, rfl, hmark, hsign, hds⟩
  · exact ⟨state, rfl, by rcases hstate with rfl | rfl | rfl <;> rfl⟩
  · have hstep : state.step mark = .goesOn .mark := by
      rcases hstate with rfl | rfl | rfl <;> rcases hmark with rfl | rfl <;> rfl
    refine ⟨.power, ?_, rfl⟩
    rw [State.after, hstep]
    show State.mark.after (sign ++ ds) = _
    rw [State.after_append]
    have hpower : ∀ b, isDigit b = true → State.sign.step b = .goesOn .power :=
      fun b hb => by simp [State.step, hb]
    rcases hsign with rfl | rfl | rfl
    · exact after_isDigits hds (fun b hb => by simp [State.step, hb]) takesDigits_power
    · exact after_isDigits hds hpower takesDigits_power
    · exact after_isDigits hds hpower takesDigits_power

/-- A numeral leads through the states of its grammar to one in which it may end. -/
theorem after_isNumeral {n : Bytes} (h : IsNumeral n) :
    ∃ b rest first last, n = b :: rest ∧ start? b = some first ∧ first.after rest = some last ∧
      last.isComplete = true := by
  obtain ⟨sign, whole, fraction, power, rfl, hsign, hwhole, hfraction, hpower⟩ := h
  obtain ⟨b, rest, first, last, rfl, hstart, hminus, hlast, hstate⟩ := after_isWhole hwhole
  obtain ⟨last', hlast', hstate'⟩ := after_isFraction hstate hfraction
  obtain ⟨last'', hlast'', hcomplete⟩ := after_isPower hstate' hpower
  have hafter : first.after (rest ++ (fraction ++ power)) = some last'' := by
    rw [State.after_append, hlast, Option.bind_some, State.after_append, hlast', Option.bind_some,
      hlast'']
  rcases hsign with rfl | rfl
  · exact ⟨b, rest ++ (fraction ++ power), first, last'', rfl, hstart, hafter, hcomplete⟩
  · refine ⟨0x2D, b :: (rest ++ (fraction ++ power)), .minus, last'', rfl, rfl, ?_, hcomplete⟩
    rw [State.after, hminus]
    exact hafter

/-- Bytes that cannot go on with a numeral. -/
def Stops (bytes : Bytes) : Prop :=
  ∀ b ∈ bytes.head?, isDigit b = false ∧ isPoint b = false ∧ isMark b = false

theorem State.step_of_stops {state : State} (hcomplete : state.isComplete = true) {b : UInt8}
    (hdigit : isDigit b = false) (hpoint : isPoint b = false) (hmark : isMark b = false) :
    state.step b = .ends := by
  cases state with
  | zero | whole | fraction | power => simp [State.step, hdigit, hpoint, hmark]
  | minus | point | mark | sign => cases hcomplete

end Numeral

/-! ### One token -/

namespace Lexer

theorem begin_of_start? {b : UInt8} {state : Numeral.State} (h : Numeral.start? b = some state) :
    begin b = ([], some (.number [b] state)) := by
  have hb : b = 0x2D ∨ isDigit b = true := by
    by_cases hminus : b = 0x2D
    · exact Or.inl hminus
    · refine Or.inr ?_
      by_cases hzero : b = 0x30
      · rw [hzero]
        rfl
      · by_contra hdigit
        simp [Numeral.start?, hminus, hzero, hdigit] at h
  have hne : ∀ c, c ≠ 0x2D → isDigit c = false → b ≠ c := fun c hc hdigit => by
    rcases hb with rfl | hb
    · exact Ne.symm hc
    · exact Numeral.isDigit_ne hb hdigit
  have hspace : isSpace b = false := by
    simp only [isSpace, Bool.or_eq_false_iff, beq_eq_false_iff_ne]
    exact ⟨⟨⟨hne _ (by decide) rfl, hne _ (by decide) rfl⟩, hne _ (by decide) rfl⟩,
      hne _ (by decide) rfl⟩
  simp only [begin, hspace, hne 0x5B (by decide) rfl, hne 0x5D (by decide) rfl,
    hne 0x7B (by decide) rfl, hne 0x7D (by decide) rfl, hne 0x2C (by decide) rfl,
    hne 0x3A (by decide) rfl, hne 0x22 (by decide) rfl, hne 0x6E (by decide) rfl,
    hne 0x74 (by decide) rfl, hne 0x66 (by decide) rfl, h, Bool.false_eq_true, if_false]

theorem run_idle_cons (b : UInt8) (rest : Bytes) :
    run .idle (b :: rest) =
      match begin b with
      | (tokens, some mode) => tokens ++ run mode rest
      | (tokens, none) => tokens := rfl

theorem run_number {state last : Numeral.State} {more : Bytes} (h : state.after more = some last)
    (hcomplete : last.isComplete = true) {rest : Bytes} (hrest : Numeral.Stops rest)
    (read : Bytes) :
    run (.number read state) (more ++ rest) =
      .number (read.reverse ++ more) :: run .idle rest := by
  induction more generalizing state read with
  | nil =>
    obtain rfl : state = last := Option.some.inj h
    cases rest with
    | nil =>
      show (if state.isComplete then _ else _) = _
      rw [if_pos hcomplete, List.append_nil]
      rfl
    | cons b rest =>
      obtain ⟨hdigit, hpoint, hmark⟩ := hrest b rfl
      have hends := Numeral.State.step_of_stops hcomplete hdigit hpoint hmark
      rw [List.nil_append, List.append_nil, run_idle_cons]
      simp only [run, step, hends]
      rcases begin b with ⟨ts, _ | mode⟩ <;> rfl
  | cons b more ih =>
    rw [Numeral.State.after] at h
    cases hstep : state.step b with
    | goesOn next =>
      rw [hstep] at h
      simp only [List.cons_append, run, step, hstep]
      rw [List.nil_append, ih h, List.reverse_cons, List.append_assoc]
      rfl
    | ends => rw [hstep] at h; cases h
    | breaks => rw [hstep] at h; cases h

theorem run_text_piece {p : Piece} (hp : p.IsValid) (read : List Piece) (rest : Bytes) :
    run (.text read) (p.bytes ++ rest) = run (.text (p :: read)) rest := by
  cases p with
  | byte b =>
    obtain ⟨hcontrol, hquote, hbackslash⟩ := hp
    have hb : ¬ b < 0x20 := by
      rw [UInt8.not_lt]
      exact hcontrol
    simp only [Piece.bytes, List.cons_append, List.nil_append, run, step, inText, hquote,
      hbackslash, hb, if_false]
  | escape letter =>
    have hletter : isEscapeLetter letter = true := hp
    show run (.backslash read) (letter :: rest) = _
    simp only [run, step, afterBackslash, hletter, if_true, List.nil_append]
  | unit a b c d =>
    obtain ⟨ha, hb, hc, hd⟩ := hp
    show run (.unit read []) (a :: b :: c :: d :: rest) = _
    simp only [run, step, inUnit, ha, hb, hc, hd, if_true, List.nil_append]

theorem run_text {ps : List Piece} (hps : ∀ p ∈ ps, p.IsValid) (read : List Piece) (rest : Bytes) :
    run (.text read) (ps.flatMap Piece.bytes ++ 0x22 :: rest) =
      .text (read.reverse ++ ps) :: run .idle rest := by
  induction ps generalizing read with
  | nil =>
    rw [List.append_nil]
    rfl
  | cons p ps ih =>
    rw [List.flatMap_cons, List.append_assoc, run_text_piece (hps p List.mem_cons_self),
      ih (fun q hq => hps q (List.mem_cons_of_mem _ hq)), List.reverse_cons, List.append_assoc]
    rfl

end Lexer

theorem tokens_space {b : UInt8} (h : isSpace b = true) (rest : Bytes) :
    tokens (b :: rest) = tokens rest := by
  rw [tokens, Lexer.run_idle_cons, Lexer.begin, if_pos h]
  rfl

/-- A token is read up to its end. What follows a numeral must not go on with it. -/
theorem tokens_token {t : Token} (ht : t.IsValid) {rest : Bytes}
    (hrest : t.IsNumber → Numeral.Stops rest) : tokens (t.bytes ++ rest) = t :: tokens rest := by
  cases t with
  | openArray | closeArray | openObject | closeObject | comma | colon => rfl
  | word w => cases w <;> rfl
  | number n =>
    obtain ⟨b, more, first, last, rfl, hstart, hafter, hcomplete⟩ := Numeral.after_isNumeral ht
    have hbegin := Lexer.begin_of_start? hstart
    rw [tokens, Token.bytes, List.cons_append, Lexer.run_idle_cons, hbegin]
    exact Lexer.run_number hafter hcomplete (hrest ⟨_, rfl⟩) [b]
  | text pieces =>
    show Lexer.run (.text []) (pieces.flatMap Piece.bytes ++ [0x22] ++ rest) = _
    rw [List.append_assoc]
    exact Lexer.run_text ht [] rest
  | faulty fault => exact ht.elim

/-! ### Texts -/

theorem stops_space {b : UInt8} (h : isSpace b = true) (rest : Bytes) :
    Numeral.Stops (b :: rest) := by
  rintro c ⟨⟩
  simp only [isSpace, Bool.or_eq_true, beq_iff_eq] at h
  rcases h with ((rfl | rfl) | rfl) | rfl <;> exact ⟨rfl, rfl, rfl⟩

theorem stops_token {t : Token} (hvalid : t.IsValid) (ht : ¬ t.IsNumber) (rest : Bytes) :
    Numeral.Stops (t.bytes ++ rest) := by
  cases t with
  | number n => exact absurd ⟨n, rfl⟩ ht
  | faulty fault => exact hvalid.elim
  | word w => cases w <;> rintro b ⟨⟩ <;> exact ⟨rfl, rfl, rfl⟩
  | openArray | closeArray | openObject | closeObject | comma | colon | text =>
    rintro b ⟨⟩
    exact ⟨rfl, rfl, rfl⟩

theorem stops_of_spells {ts : List Token} {bytes : Bytes} (h : Spells ts bytes)
    (hvalid : ∀ t ∈ ts, t.IsValid) (hstart : StartsApart ts) : Numeral.Stops bytes := by
  cases h with
  | nil => rintro b ⟨⟩
  | space hb _ => exact stops_space hb _
  | token t _ => exact stops_token (hvalid t List.mem_cons_self) (hstart t rfl) _

/-- The lexer gives back the tokens that a text spells. -/
theorem tokens_of_spells {ts : List Token} {bytes : Bytes} (h : Spells ts bytes)
    (hvalid : ∀ t ∈ ts, t.IsValid) (hapart : ts.IsChain Token.Apart) : tokens bytes = ts := by
  induction h with
  | nil => rfl
  | space hb _ ih => rw [tokens_space hb, ih hvalid hapart]
  | @token t ts bytes hts ih =>
    have hvalid' : ∀ u ∈ ts, u.IsValid := fun u hu => hvalid u (List.mem_cons_of_mem _ hu)
    rw [tokens_token (hvalid t List.mem_cons_self), ih hvalid' hapart.tail]
    intro ht
    refine stops_of_spells hts hvalid' fun u hu => ?_
    cases ts with
    | nil => cases hu
    | cons v ts =>
      cases hu
      exact (List.isChain_cons_cons.1 hapart).1 ht

theorem Document.tokens_of_spells {d : Document} (hd : d.IsValid) {text : Bytes}
    (h : Spells d.tokens text) : Json.tokens text = d.tokens := by
  refine Json.tokens_of_spells h (d.isValid_of_mem_tokens hd) ?_
  have hchain : (d.tokens ++ []).IsChain Token.Apart := d.isChain_tokens (by rintro t ⟨⟩) .nil
  rwa [List.append_nil] at hchain

/-! ### Texts that are cut -/

namespace Lexer

/-- The lexer is inside a token. -/
def Mode.IsOpen : Mode → Prop
  | .idle => False
  | .word _ left => left ≠ []
  | _ => True

/-- A byte between tokens is white space, a token of its own, the beginning of one, or stray. -/
inductive Begins (b : UInt8) : List Token × Option Mode → Prop
  | space : isSpace b = true → Begins b ([], some .idle)
  | token (t : Token) : Begins b ([t], some .idle)
  | opens (mode : Mode) : mode.IsOpen → Begins b ([], some mode)
  | stray : Begins b ([.faulty .stray], none)

theorem begins (b : UInt8) : Begins b (begin b) := by
  unfold begin
  refine iteInduction (fun hspace => .space hspace) fun _ => ?_
  iterate 6 refine iteInduction (fun _ => .token _) fun _ => ?_
  refine iteInduction (fun _ => .opens _ trivial) fun _ => ?_
  iterate 3 refine iteInduction (fun _ => .opens _ (List.cons_ne_nil _ _)) fun _ => ?_
  cases Numeral.start? b with
  | some state => exact .opens _ trivial
  | none => exact .stray

theorem begin_none {b : UInt8} (h : (begin b).2 = none) : (begin b).1 = [.faulty .stray] := by
  have hb := begins b
  generalize begin b = r at h hb
  cases hb with
  | space | token | opens => cases h
  | stray => rfl

/-- A step that does not fail does not look ahead. -/
theorem step_rest {mode next : Mode} {b : UInt8} {rest : Bytes} {ts : List Token}
    (h : step mode b rest = (ts, some next)) (rest' : Bytes) :
    step mode b rest' = (ts, some next) := by
  cases mode with
  | unit read digits =>
    simp only [step, inUnit] at h ⊢
    split at h
    · next hdigit => rw [if_pos hdigit]; exact h
    · cases h
  | idle | word | number | text | backslash => exact h

/-- A step that fails leaves a fault. -/
theorem step_none {mode : Mode} {b : UInt8} {rest : Bytes} {ts : List Token}
    (h : step mode b rest = (ts, none)) : ∃ before fault, ts = before ++ [.faulty fault] := by
  cases mode with
  | idle =>
    have hbegin : begin b = (ts, none) := h
    exact ⟨[], .stray, by rw [← begin_none (by rw [hbegin]), hbegin]; rfl⟩
  | word w left =>
    cases left with
    | nil =>
      have hbegin : begin b = (ts, none) := h
      exact ⟨[], .stray, by rw [← begin_none (by rw [hbegin]), hbegin]; rfl⟩
    | cons letter left =>
      simp only [step] at h
      split at h
      · split at h <;> cases h
      · cases h
        exact ⟨[], _, rfl⟩
  | number read state =>
    simp only [step] at h
    split at h
    · cases h
    · cases h
      exact ⟨[], _, rfl⟩
    · obtain ⟨hts, hnone⟩ := Prod.mk.inj h
      exact ⟨[.number read.reverse], .stray, by rw [← hts, begin_none hnone]; rfl⟩
  | text read =>
    simp only [step, inText] at h
    split at h
    · cases h
    split at h
    · cases h
    split at h
    · cases h
      exact ⟨[], _, rfl⟩
    · cases h
  | backslash read =>
    simp only [step, afterBackslash] at h
    split at h
    · cases h
    split at h
    · cases h
    · cases h
      exact ⟨[], _, rfl⟩
  | unit read digits =>
    simp only [step, inUnit] at h
    split at h
    · split at h <;> cases h
    · cases h
      exact ⟨[], _, rfl⟩

/-- Bytes are read to their end, whatever follows them, or a fault stops the lexer among them. -/
theorem run_cases (bytes : Bytes) (mode : Mode) :
    (∃ before last, ∀ rest, run mode (bytes ++ rest) = before ++ run last rest) ∨
      ∃ before fault, run mode bytes = before ++ [.faulty fault] := by
  induction bytes generalizing mode with
  | nil => exact Or.inl ⟨[], mode, fun _ => rfl⟩
  | cons b bytes ih =>
    rcases hstep : step mode b bytes with ⟨ts, _ | next⟩
    · obtain ⟨before, fault, rfl⟩ := step_none hstep
      exact Or.inr ⟨before, fault, by rw [run, hstep]⟩
    · rcases ih next with ⟨before, last, hrun⟩ | ⟨before, fault, hrun⟩
      · refine Or.inl ⟨ts ++ before, last, fun rest => ?_⟩
        rw [List.cons_append, run, step_rest hstep (bytes ++ rest), List.append_assoc, ← hrun]
      · refine Or.inr ⟨ts ++ before, fault, ?_⟩
        rw [run, hstep, List.append_assoc, ← hrun]

/-- The end of the input leaves nothing only between tokens. -/
theorem finish_cases (mode : Mode) :
    mode = .idle ∨ (∃ n, finish mode = [.number n]) ∨ ∃ fault, finish mode = [.faulty fault] := by
  cases mode with
  | idle => exact Or.inl rfl
  | number read state =>
    refine Or.inr ?_
    simp only [finish]
    split
    · exact Or.inl ⟨_, rfl⟩
    · exact Or.inr ⟨_, rfl⟩
  | word | text | backslash | unit => exact Or.inr (Or.inr ⟨_, rfl⟩)

end Lexer

/-- A text whose last token shows its own end is lexed apart from what follows it. -/
theorem tokens_append {bytes : Bytes} {t : Token} (hlast : t ∈ (tokens bytes).getLast?)
    (hnumber : ¬ t.IsNumber) (hfault : ∀ fault, t ≠ .faulty fault) (rest : Bytes) :
    tokens (bytes ++ rest) = tokens bytes ++ tokens rest := by
  rcases Lexer.run_cases bytes .idle with ⟨before, last, hrun⟩ | ⟨before, fault, hrun⟩
  · have hbytes : tokens bytes = before ++ Lexer.finish last := by
      have h := hrun []
      rw [List.append_nil] at h
      cases last <;> exact h
    -- only a numeral or a fault is left by the end of the input; any other token was complete
    rcases Lexer.finish_cases last with rfl | ⟨n, hfinish⟩ | ⟨fault, hfinish⟩
    · rw [hbytes, tokens, hrun, Lexer.finish, List.append_nil]
      rfl
    · rw [hbytes, hfinish, List.getLast?_concat] at hlast
      exact absurd ⟨n, (Option.some.inj hlast).symm⟩ hnumber
    · rw [hbytes, hfinish, List.getLast?_concat] at hlast
      exact absurd (Option.some.inj hlast).symm (hfault fault)
  · rw [tokens, hrun, List.getLast?_concat] at hlast
    exact absurd (Option.some.inj hlast).symm (hfault fault)

namespace Lexer

theorem step_open {mode : Mode} (hmode : mode.IsOpen) (b : UInt8) (rest : Bytes) :
    (step mode b rest).1 ≠ [] ∨ ∃ next, (step mode b rest).2 = some next ∧ next.IsOpen := by
  cases mode with
  | idle => exact hmode.elim
  | word w left =>
    cases left with
    | nil => exact absurd rfl hmode
    | cons letter left =>
      simp only [step]
      split
      · cases left with
        | nil => exact Or.inl (List.cons_ne_nil _ _)
        | cons next left => exact Or.inr ⟨_, rfl, List.cons_ne_nil _ _⟩
      · exact Or.inl (List.cons_ne_nil _ _)
  | number read state =>
    simp only [step]
    split
    · exact Or.inr ⟨_, rfl, trivial⟩
    · exact Or.inl (List.cons_ne_nil _ _)
    · exact Or.inl (List.cons_ne_nil _ _)
  | text read =>
    simp only [step, inText]
    split
    · exact Or.inl (List.cons_ne_nil _ _)
    split
    · exact Or.inr ⟨_, rfl, trivial⟩
    split
    · exact Or.inl (List.cons_ne_nil _ _)
    · exact Or.inr ⟨_, rfl, trivial⟩
  | backslash read =>
    simp only [step, afterBackslash]
    split
    · exact Or.inr ⟨_, rfl, trivial⟩
    split
    · exact Or.inr ⟨_, rfl, trivial⟩
    · exact Or.inl (List.cons_ne_nil _ _)
  | unit read digits =>
    simp only [step, inUnit]
    split
    · split <;> exact Or.inr ⟨_, rfl, trivial⟩
    · exact Or.inl (List.cons_ne_nil _ _)

/-- A token that has been begun is a token in the end, be it a faulty one. -/
theorem run_ne_nil {mode : Mode} (hmode : mode.IsOpen) (bytes : Bytes) : run mode bytes ≠ [] := by
  induction bytes generalizing mode with
  | nil =>
    rcases finish_cases mode with rfl | ⟨n, h⟩ | ⟨fault, h⟩
    · exact hmode.elim
    · rw [run, h]
      exact List.cons_ne_nil _ _
    · rw [run, h]
      exact List.cons_ne_nil _ _
  | cons b rest ih =>
    have hstep := step_open hmode b rest
    rw [run]
    -- a step gives a token or stays inside one
    rcases hresult : step mode b rest with ⟨ts, _ | next⟩ <;> rw [hresult] at hstep
    · rcases hstep with hts | ⟨next, ⟨⟩, -⟩
      exact hts
    · rcases hstep with hts | ⟨_, hnext, hopen⟩
      · exact fun h => hts (List.append_eq_nil_iff.1 h).1
      · obtain rfl := Option.some.inj hnext
        exact fun h => ih hopen (List.append_eq_nil_iff.1 h).2

end Lexer

/-- Only white space has no tokens. -/
theorem isSpace_of_tokens_eq_nil {bytes : Bytes} (h : tokens bytes = []) :
    ∀ b ∈ bytes, isSpace b = true := by
  induction bytes with
  | nil =>
    intro b hb
    cases hb
  | cons c bytes ih =>
    have hc := Lexer.begins c
    rw [tokens, Lexer.run_idle_cons] at h
    generalize Lexer.begin c = r at h hc
    cases hc with
    | space hspace =>
      intro b hb
      rcases List.mem_cons.1 hb with rfl | hb
      · exact hspace
      · exact ih h b hb
    | token t => cases h
    | opens mode hopen => exact absurd h (Lexer.run_ne_nil hopen bytes)
    | stray => cases h

end Telemetry.Json
