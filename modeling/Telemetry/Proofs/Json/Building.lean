import Telemetry.Proofs.Json.Lexing

/-!
Documents are built from their own tokens.

A sound document comes back from its tokens, whatever follows them (`ofTokens_tokens`). Conversely,
where a sound container has been built, the last token that was taken closes it, and none of the
tokens behind that one had a say in it (`taken_of_build`).
-/
namespace Telemetry.Json

theorem Items.ofList_toList : ∀ items : Items, items.isSound = true →
    Items.ofList .closed items.toList = items
  | .stop reason, h => by rw [of_decide_eq_true h]; rfl
  | .next item rest, h => by
    rw [Items.isSound, Bool.and_eq_true] at h
    rw [Items.toList, Items.ofList, rest.ofList_toList h.2]

theorem Members.ofList_toList : ∀ members : Members, members.isSound = true →
    Members.ofList .closed members.toList = members
  | .stop reason, h => by rw [of_decide_eq_true h]; rfl
  | .next key value rest, h => by
    rw [Members.isSound, Bool.and_eq_true] at h
    rw [Members.toList, Members.ofList, rest.ofList_toList h.2]

theorem Members.toList_ofList (reason : ObjectStop) (members : List (List Piece × Document)) :
    (Members.ofList reason members).toList = members := by
  induction members with
  | nil => rfl
  | cons m members ih => rw [Members.ofList, Members.toList, ih]

namespace Document

/-- What a move leads to in the end. -/
def Move.follow (rest : List Token) : Move → Document × List Token
  | .goTo outer place => build outer place rest
  | .done d => (d, rest)
  | .broken d => (d, [])

theorem build_cons (outer : List Frame) (place : Place) (t : Token) (rest : List Token) :
    build outer place (t :: rest) = (step outer place t).follow rest := by
  rw [build]
  cases step outer place t <;> rfl

/-- A value does not begin like the end of the array it stands in. -/
theorem build_item {d : Document} (hd : d.isSound = true) (outer : List Frame)
    (more : List Token) :
    build outer .firstItem (d.tokens ++ more) =
      build (.items [] :: outer) .value (d.tokens ++ more) ∧
    ∀ read, build outer (.nextItem read) (d.tokens ++ more) =
      build (.items read :: outer) .value (d.tokens ++ more) := by
  cases d with
  | absent | faulty => cases hd
  | word | number | text | array | object => exact ⟨rfl, fun _ => rfl⟩

end Document

open Document

mutual

theorem Document.build_tokens : ∀ (d : Document), d.isSound = true →
    ∀ (outer : List Frame) (more : List Token),
      build outer .value (d.tokens ++ more) = (settle outer d).follow more
  | .word _, _, _, _ | .number _, _, _, _ | .text _, _, _, _ => build_cons _ _ _ _
  | .array items, h, outer, more => by
    rw [Document.tokens, List.cons_append, build_cons]
    exact items.build_first h outer more
  | .object members, h, outer, more => by
    rw [Document.tokens, List.cons_append, build_cons]
    exact members.build_first h outer more
  | .absent, h, _, _ | .faulty _, h, _, _ => by cases h

theorem Items.build_first : ∀ (items : Items), items.isSound = true →
    ∀ (outer : List Frame) (more : List Token),
      build outer .firstItem (items.tokens true ++ more) = (settle outer (.array items)).follow more
  | .stop reason, h, outer, more => by
    rw [of_decide_eq_true h]
    exact build_cons _ _ _ _
  | .next item rest, h, outer, more => by
    have hsound := Bool.and_eq_true_iff.1 h
    rw [Items.tokens, if_pos rfl, List.nil_append, List.append_assoc,
      (build_item hsound.1 outer _).1, item.build_tokens hsound.1]
    show build outer (.afterItem [item]) (rest.tokens false ++ more) = _
    rw [rest.build_rest hsound.2, List.reverse_singleton, List.singleton_append, Items.ofList,
      rest.ofList_toList hsound.2]

/-- The items that follow others. -/
theorem Items.build_rest : ∀ (items : Items), items.isSound = true →
    ∀ (outer : List Frame) (read : List Document) (more : List Token),
      build outer (.afterItem read) (items.tokens false ++ more) =
        (settle outer (.array (Items.ofList .closed (read.reverse ++ items.toList)))).follow more
  | .stop reason, h, outer, read, more => by
    rw [Items.toList, List.append_nil]
    exact build_cons _ _ _ _
  | .next item rest, h, outer, read, more => by
    have hsound := Bool.and_eq_true_iff.1 h
    rw [Items.tokens, if_neg Bool.false_ne_true, List.append_assoc, List.append_assoc]
    show build outer (.nextItem read) (item.tokens ++ (rest.tokens false ++ more)) = _
    rw [(build_item hsound.1 outer _).2, item.build_tokens hsound.1]
    show build outer (.afterItem (item :: read)) (rest.tokens false ++ more) = _
    rw [rest.build_rest hsound.2, List.reverse_cons, List.append_assoc, Items.toList]
    rfl

theorem Members.build_first : ∀ (members : Members), members.isSound = true →
    ∀ (outer : List Frame) (more : List Token),
      build outer .firstMember (members.tokens true ++ more) =
        (settle outer (.object members)).follow more
  | .stop reason, h, outer, more => by
    rw [of_decide_eq_true h]
    exact build_cons _ _ _ _
  | .next key value rest, h, outer, more => by
    have hsound := Bool.and_eq_true_iff.1 h
    rw [Members.tokens, if_pos rfl, List.nil_append, List.append_assoc, List.append_assoc]
    show build (.member [] key :: outer) .value (value.tokens ++ (rest.tokens false ++ more)) = _
    rw [value.build_tokens hsound.1]
    show build outer (.afterMember [(key, value)]) (rest.tokens false ++ more) = _
    rw [rest.build_rest hsound.2, List.reverse_singleton, List.singleton_append, Members.ofList,
      rest.ofList_toList hsound.2]

/-- The members that follow others. -/
theorem Members.build_rest : ∀ (members : Members), members.isSound = true →
    ∀ (outer : List Frame) (read : List (List Piece × Document)) (more : List Token),
      build outer (.afterMember read) (members.tokens false ++ more) =
        (settle outer (.object (Members.ofList .closed
          (read.reverse ++ members.toList)))).follow more
  | .stop reason, h, outer, read, more => by
    rw [Members.toList, List.append_nil]
    exact build_cons _ _ _ _
  | .next key value rest, h, outer, read, more => by
    have hsound := Bool.and_eq_true_iff.1 h
    rw [Members.tokens, if_neg Bool.false_ne_true, List.append_assoc, List.append_assoc,
      List.append_assoc]
    show build (.member read key :: outer) .value (value.tokens ++ (rest.tokens false ++ more)) = _
    rw [value.build_tokens hsound.1]
    show build outer (.afterMember ((key, value) :: read)) (rest.tokens false ++ more) = _
    rw [rest.build_rest hsound.2, List.reverse_cons, List.append_assoc, Members.toList]
    rfl

end

namespace Document

/-- A sound document is read from its tokens and leaves those after them. -/
theorem ofTokens_tokens {d : Document} (hd : d.isSound = true) (more : List Token) :
    ofTokens (d.tokens ++ more) = (d, more) :=
  d.build_tokens hd [] more

/-- A valid document is read from any text that spells it. -/
theorem ofTokens_of_spells {d : Document} (hd : d.IsValid) {text : Bytes}
    (h : Spells d.tokens text) : ofTokens (Json.tokens text) = (d, []) := by
  rw [d.tokens_of_spells hd h]
  have hbuild := d.ofTokens_tokens (d.isSound_of_isValid hd) []
  rwa [List.append_nil] at hbuild

end Document

theorem Members.exists_tokens : ∀ (members : Members) (first : Bool),
    ∃ before, members.tokens first = before ++ [.closeObject]
  | .stop _, _ => ⟨[], rfl⟩
  | .next key value rest, first => by
    obtain ⟨before, hrest⟩ := rest.exists_tokens false
    rw [Members.tokens, hrest, ← List.append_assoc]
    exact ⟨_, rfl⟩

/-- An object ends in a closing brace. -/
theorem Document.getLast?_bytes (members : Members) :
    (Document.object members).bytes.getLast? = some 0x7D := by
  obtain ⟨before, htokens⟩ := members.exists_tokens true
  rw [Document.bytes, Document.tokens, htokens, ← List.cons_append, List.flatMap_append,
    List.flatMap_singleton, Token.bytes, List.getLast?_append]
  rfl

namespace Document

/-! ### What has been read to its end -/

theorem isSound_arrayOf {read : List Document} {reason : ArrayStop} (h : reason ≠ .closed) :
    (arrayOf read reason).isSound = false := by
  have hitems : ∀ items : List Document, (Items.ofList reason items).isSound = false := by
    intro items
    induction items with
    | nil => exact decide_eq_false h
    | cons d items ih => rw [Items.ofList, Items.isSound, ih, Bool.and_false]
  exact hitems read.reverse

theorem isSound_objectOf {read : List (List Piece × Document)} {reason : ObjectStop}
    (h : reason ≠ .closed) : (objectOf read reason).isSound = false := by
  have hmembers : ∀ members, (Members.ofList reason members).isSound = false := by
    intro members
    induction members with
    | nil => exact decide_eq_false h
    | cons m members ih => rw [Members.ofList, Members.isSound, ih, Bool.and_false]
  exact hmembers read.reverse

theorem isSound_abandon {d : Document} (hd : d.isSound = false) (outer : List Frame) :
    (abandon d outer).isSound = false := by
  induction outer generalizing d with
  | nil => exact hd
  | cons frame outer ih =>
    cases frame with
    | items read => exact ih (isSound_arrayOf (by rintro ⟨⟩))
    | member read key => exact ih (isSound_objectOf (by rintro ⟨⟩))

theorem isSound_finish (outer : List Frame) (place : Place) :
    (finish outer place).isSound = false := by
  cases place with
  | value => exact isSound_abandon rfl outer
  | firstItem | afterItem | nextItem => exact isSound_abandon (isSound_arrayOf (by rintro ⟨⟩)) outer
  | firstMember | afterMember | nextMember | colon =>
    exact isSound_abandon (isSound_objectOf (by rintro ⟨⟩)) outer

/-- An array or an object. -/
def IsContainer : Document → Prop
  | .array _ | .object _ => True
  | _ => False

/-- What one token can do: a document that breaks off is not sound, and a container is ended by
nothing but a closing token. -/
structure Admits (t : Token) (move : Move) : Prop where
  broken : ∀ d, move = .broken d → d.isSound = false
  closes : ∀ d, move = .done d → d.IsContainer → t = .closeArray ∨ t = .closeObject

theorem admits_broken {t : Token} {d : Document} (hd : d.isSound = false) :
    Admits t (.broken d) := by
  constructor
  · rintro _ ⟨⟩
    exact hd
  · rintro _ ⟨⟩

theorem admits_goTo (t : Token) (outer : List Frame) (place : Place) :
    Admits t (.goTo outer place) := by
  constructor <;> rintro _ ⟨⟩

theorem admits_settle {t : Token} {d : Document}
    (hd : d.IsContainer → t = .closeArray ∨ t = .closeObject) (outer : List Frame) :
    Admits t (settle outer d) := by
  cases outer with
  | nil =>
    constructor
    · rintro _ ⟨⟩
    · rintro _ ⟨⟩
      exact hd
  | cons frame outer => cases frame <;> exact admits_goTo t _ _

theorem admits_enter (outer : List Frame) (t : Token) : Admits t (enter outer t) := by
  cases t with
  | word | number | text => exact admits_settle False.elim outer
  | openArray | openObject => exact admits_goTo _ _ _
  | faulty | closeArray | closeObject | comma | colon =>
    exact admits_broken (isSound_abandon rfl outer)

theorem admits_noArray {t : Token} {read : List Document} {reason : ArrayStop}
    (h : reason ≠ .closed) (outer : List Frame) :
    Admits t (.broken (abandon (arrayOf read reason) outer)) :=
  admits_broken (isSound_abandon (isSound_arrayOf h) outer)

theorem admits_noObject {t : Token} {read : List (List Piece × Document)} {reason : ObjectStop}
    (h : reason ≠ .closed) (outer : List Frame) :
    Admits t (.broken (abandon (objectOf read reason) outer)) :=
  admits_broken (isSound_abandon (isSound_objectOf h) outer)

theorem admits_enterKey (outer : List Frame) (read : List (List Piece × Document)) (t : Token) :
    Admits t (enterKey outer read t) := by
  unfold enterKey
  split
  · exact admits_goTo _ _ _
  · exact admits_noObject (by rintro ⟨⟩) outer
  · exact admits_noObject (by rintro ⟨⟩) outer

theorem admits_step (outer : List Frame) (place : Place) (t : Token) :
    Admits t (step outer place t) := by
  cases place with
  | value => exact admits_enter outer t
  | firstItem =>
    dsimp only [step]
    split
    · exact admits_settle (fun _ => Or.inl rfl) outer
    · exact admits_enter _ t
  | afterItem read =>
    dsimp only [step]
    split
    · exact admits_settle (fun _ => Or.inl rfl) outer
    · exact admits_goTo _ _ _
    · exact admits_noArray (by rintro ⟨⟩) outer
  | nextItem read =>
    dsimp only [step]
    split
    · exact admits_noArray (by rintro ⟨⟩) outer
    · exact admits_enter _ t
  | firstMember =>
    dsimp only [step]
    split
    · exact admits_settle (fun _ => Or.inr rfl) outer
    · exact admits_enterKey outer [] t
  | afterMember read =>
    dsimp only [step]
    split
    · exact admits_settle (fun _ => Or.inr rfl) outer
    · exact admits_goTo _ _ _
    · exact admits_noObject (by rintro ⟨⟩) outer
  | nextMember read =>
    dsimp only [step]
    split
    · exact admits_noObject (by rintro ⟨⟩) outer
    · exact admits_enterKey outer read t
  | colon read key =>
    dsimp only [step]
    split
    · exact admits_goTo _ _ _
    · exact admits_noObject (by rintro ⟨⟩) outer

/-- The tokens that a sound container was built from: the last of them closes it, and what comes
after them does not matter. -/
theorem taken_of_build {outer : List Frame} {place : Place} {ts rest : List Token} {d : Document}
    (h : build outer place ts = (d, rest)) (hsound : d.isSound = true) (hd : d.IsContainer) :
    ∃ taken last, ts = taken ++ last :: rest ∧ (last = .closeArray ∨ last = .closeObject) ∧
      ∀ more, build outer place (taken ++ last :: more) = (d, more) := by
  -- the place and the open containers change with each token, the rest does not
  induction ts generalizing outer place with
  | nil =>
    obtain ⟨rfl, -⟩ := Prod.mk.inj h
    rw [isSound_finish] at hsound
    cases hsound
  | cons t ts ih =>
    have hadmits := admits_step outer place t
    rw [build_cons] at h
    cases hmove : step outer place t with
    | goTo outer' place' =>
      rw [hmove] at h
      obtain ⟨taken, last, rfl, hlast, hmore⟩ := ih h
      refine ⟨t :: taken, last, rfl, hlast, fun more => ?_⟩
      rw [List.cons_append, build_cons, hmove]
      exact hmore more
    | done d' =>
      rw [hmove] at h
      obtain ⟨rfl, rfl⟩ := Prod.mk.inj h
      refine ⟨[], t, rfl, hadmits.closes _ hmove hd, fun more => ?_⟩
      rw [List.nil_append, build_cons, hmove]
      rfl
    | broken d' =>
      rw [hmove] at h
      obtain ⟨rfl, -⟩ := Prod.mk.inj h
      rw [hadmits.broken _ hmove] at hsound
      cases hsound

end Document

end Telemetry.Json
