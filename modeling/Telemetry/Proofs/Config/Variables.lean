import Mathlib
import Telemetry.Config.Environment
import Telemetry.Proofs.Text.Integer
import Telemetry.Proofs.Text.Lowering
import Telemetry.Proofs.Text.Pieces
import Telemetry.Proofs.Text.Trimming

/-!
What environment variables say.

A variable holds the text of which its bytes are the UTF-8. As a switch it is on for two texts, one
of them in any letter case. As a number it may have white space at its ends; a text that is refused
is quoted together with what is wrong with it.
-/
namespace Telemetry.Environment

variable {env : Environment} {name : String}

/-- The variable is set to a text. -/
def Holds (env : Environment) (name text : String) : Prop :=
  env.entries.lookup name = some (Text.Utf8.ofString text)

/-- The text stands for yes. -/
def SwitchesOn (text : String) : Prop :=
  text = "1" ∨ text.toList.map Char.toLower = "true".toList

/-- The variable holds a number, perhaps with white space at its ends. -/
def HoldsNumber (env : Environment) (name : String) (n : Nat) : Prop :=
  ∃ text core, env.Holds name text ∧ Text.IsCore text.toList core ∧ Text.WritesNat core n

/-- The variable holds a text that is no number up to the limit, and the error says why. -/
def HoldsNoNumber (env : Environment) (name : String) (limit : Nat) (e : ConfigError) : Prop :=
  ∃ text core reason, env.Holds name text ∧ Text.IsCore text.toList core ∧
    (∀ n, Text.WritesNat core n → limit < n) ∧ Text.NatFlaw limit core reason ∧
    e = .invalid (name ++ "=" ++ text ++ ": " ++ reason.message)

theorem get?_eq_some_iff {text : String} : env.get? name = some text ↔ env.Holds name text := by
  rw [get?, Option.bind_eq_some_iff, Holds]
  simp only [Text.Utf8.toString?_eq_some_iff, exists_eq_right]

theorem map_toLower_eq_one_iff {text : String} :
    text.toList.map Char.toLower = "1".toList ↔ text = "1" := by
  rw [← String.toList_inj, show "1".toList = ['1'] from rfl, List.map_eq_singleton_iff]
  constructor
  · rintro ⟨c, htext, hc⟩
    have hone : c = '1' := Text.eq_of_toLower_eq_of_not_isAlpha hc rfl
    rw [htext, hone]
  · exact fun htext => ⟨'1', htext, rfl⟩

theorem switchesOn_iff {text : String} :
    SwitchesOn text ↔ Text.lowered text = "true" ∨ Text.lowered text = "1" := by
  rw [Text.lowered_eq_iff (by simp), Text.lowered_eq_iff (by simp), map_toLower_eq_one_iff,
    SwitchesOn, or_comm]

theorem flag_eq_true_iff :
    env.flag name = true ↔ ∃ text, env.Holds name text ∧ SwitchesOn text := by
  simp only [switchesOn_iff, ← get?_eq_some_iff, flag]
  cases env.get? name <;> simp

section Number

/-- How the words of a size are read. -/
structure ReadsUpTo {α : Type} (limit : Nat) (value : α → Nat)
    (read : List Char → Except Text.IntegerError α) : Prop where
  ok : ∀ {s w}, read s = .ok w ↔ Text.WritesNat s (value w)
  error : ∀ {s e}, read s = .error e ↔ Text.NatFlaw limit s e

theorem readsUpTo_readUInt16 : ReadsUpTo (UInt16.size - 1) UInt16.toNat Text.readUInt16 :=
  ⟨Text.readUInt16_eq_ok_iff, Text.readUInt16_eq_error_iff⟩

theorem readsUpTo_readUInt64 : ReadsUpTo (UInt64.size - 1) UInt64.toNat Text.readUInt64 :=
  ⟨Text.readUInt64_eq_ok_iff, Text.readUInt64_eq_error_iff⟩

variable {α : Type} {limit : Nat} {value : α → Nat}
  {read : List Char → Except Text.IntegerError α}

theorem number_eq_error_iff (h : ReadsUpTo limit value read) {e : ConfigError} :
    env.number name read = .error e ↔ env.HoldsNoNumber name limit e := by
  constructor
  · intro hnumber
    unfold number at hnumber
    split at hnumber
    · cases hnumber
    · next text hget =>
      split at hnumber
      · cases hnumber
      · next reason hread =>
        cases hnumber
        have hflaw := h.error.1 hread
        exact ⟨text, _, reason, get?_eq_some_iff.1 hget, Text.isCore_trim _,
          Text.exists_natFlaw_iff.1 ⟨reason, hflaw⟩, hflaw, rfl⟩
  · rintro ⟨text, core, reason, hholds, hcore, -, hflaw, rfl⟩
    rw [number, get?_eq_some_iff.2 hholds]
    dsimp only
    rw [Text.trim_eq_iff.2 hcore, h.error.2 hflaw]

theorem failure?_number_eq_some_iff (h : ReadsUpTo limit value read) {e : ConfigError} :
    failure? (env.number name read) = some e ↔ env.HoldsNoNumber name limit e :=
  failure?_eq_some_iff.trans (number_eq_error_iff h)

theorem number_eq_some_iff (h : ReadsUpTo limit value read) {w : α} :
    env.number name read = .ok (some w) ↔ env.HoldsNumber name (value w) := by
  constructor
  · intro hnumber
    unfold number at hnumber
    split at hnumber
    · cases hnumber
    · next text hget =>
      split at hnumber
      · next n hread =>
        cases hnumber
        exact ⟨text, _, get?_eq_some_iff.1 hget, Text.isCore_trim _, h.ok.1 hread⟩
      · cases hnumber
  · rintro ⟨text, core, hholds, hcore, hwrites⟩
    rw [number, get?_eq_some_iff.2 hholds]
    dsimp only
    rw [Text.trim_eq_iff.2 hcore, h.ok.2 hwrites]

end Number

end Telemetry.Environment
