import Mathlib.Data.List.TakeWhile
import Telemetry.Http.Target
import Telemetry.Proofs.Text.Pieces

/-!
Targets and their queries.

What stands behind the first question mark of a target has no part in its path, whatever kind of
target it is. Where a target begins with a slash, its path is all that stands before the question
mark.
-/
namespace Telemetry.Http.Target

/-- Texts without a question mark and without the mark of a fragment. -/
def IsBare (bytes : Bytes) : Prop :=
  ∀ b ∈ bytes, b ≠ 0x3F ∧ b ≠ 0x23

variable {bytes query : Bytes} {t : Target}

/-- A query is not looked at by what stops before it. -/
theorem takeWhile_append_query {p : UInt8 → Bool} (hp : p 0x3F = false) (bytes query : Bytes) :
    (bytes ++ 0x3F :: query).takeWhile p = bytes.takeWhile p := by
  induction bytes with
  | nil => exact List.takeWhile_cons_of_neg (by rw [hp]; exact Bool.false_ne_true)
  | cons b bytes ih =>
    rw [List.cons_append, List.takeWhile_cons, List.takeWhile_cons, ih]

theorem takeWhile_of_isBare (hbare : IsBare bytes) :
    bytes.takeWhile (fun b => b != 0x3F && b != 0x23) = bytes := by
  refine List.takeWhile_eq_self_iff.2 fun b hb => ?_
  obtain ⟨hquery, hfragment⟩ := hbare b hb
  simp [hquery, hfragment]

theorem pathOf_of_isBare (hbare : IsBare bytes) :
    pathOf bytes = if bytes.all isPathByte then
      (Text.Utf8.toString? bytes).map fun s => ⟨if bytes.isEmpty then "/" else s⟩ else none := by
  have hnone : ((none : Option UInt8) == some 0x3F) = false := rfl
  have hempty : Text.Utf8.toString? [] = some "" := rfl
  simp only [pathOf, takeWhile_of_isBare hbare, List.drop_length, List.head?_nil, hnone,
    Bool.false_eq_true, if_false, List.all_nil, Bool.and_true, hempty]
  cases Text.Utf8.toString? bytes <;> rfl

theorem pathOf_of_query (hbare : IsBare bytes) (h : pathOf (bytes ++ 0x3F :: query) = some t) :
    pathOf bytes = some t := by
  have hpath := (takeWhile_append_query (p := fun b => b != 0x3F && b != 0x23) rfl bytes
    query).trans (takeWhile_of_isBare hbare)
  simp only [pathOf, hpath, List.drop_left, List.head?_cons, beq_self_eq_true, if_true] at h
  rw [pathOf_of_isBare hbare]
  split at h
  next hbytes =>
    rw [if_pos (Bool.and_eq_true .. ▸ hbytes).1]
    split at h
    next s _ htext _ =>
      rw [htext]
      exact h
    next => cases h
  next => cases h

theorem eq_ofString_of_pathOf (hbare : IsBare bytes) (hne : bytes ≠ [])
    (h : pathOf bytes = some t) : bytes = Text.Utf8.ofString t.path := by
  rw [pathOf_of_isBare hbare] at h
  split at h
  next =>
    obtain ⟨s, htext, rfl⟩ := Option.map_eq_some_iff.1 h
    rw [if_neg (by rwa [List.isEmpty_iff])]
    exact Text.Utf8.toString?_eq_some_iff.1 htext
  next => cases h

theorem schemeLength?_append_query (bytes query : Bytes) :
    schemeLength? (bytes ++ 0x3F :: query) = schemeLength? bytes := by
  have hscheme : (bytes ++ 0x3F :: query).takeWhile isSchemeByte = bytes.takeWhile isSchemeByte :=
    takeWhile_append_query rfl bytes query
  have hle : (bytes.takeWhile isSchemeByte).length ≤ bytes.length :=
    (List.takeWhile_prefix isSchemeByte).length_le
  simp only [schemeLength?, hscheme, List.drop_append_of_le_length hle]
  -- the mark is none of the three bytes that stand behind a scheme
  match bytes.drop (bytes.takeWhile isSchemeByte).length with
  | [] => rfl
  | [a] => simp
  | [a, b] => simp
  | a :: b :: c :: more => rfl

theorem isAuthority_append_query (bytes query : Bytes) :
    isAuthority (bytes ++ 0x3F :: query) = false := by
  have hstep : ∀ s : AuthorityScan, s.step 0x3F = none := fun s => rfl
  have hscan : (bytes ++ 0x3F :: query).foldlM AuthorityScan.step {} = none := by
    rw [List.foldlM_append]
    cases bytes.foldlM AuthorityScan.step {} with
    | none => rfl
    | some s => simp [List.foldlM_cons, hstep]
  rw [isAuthority, hscan]

theorem le_length_of_schemeLength? {n : Nat} (h : schemeLength? bytes = some n) :
    n + 3 ≤ bytes.length := by
  simp only [schemeLength?] at h
  split at h
  next hmark =>
    cases h
    have hthree := congrArg List.length hmark
    rw [List.length_take, List.length_drop] at hthree
    change min 3 _ = 3 at hthree
    omega
  next => cases h

theorem absolute_of_query {n : Nat} (hbare : IsBare bytes) (hn : n + 3 ≤ bytes.length)
    (h : absolute n (bytes ++ 0x3F :: query) = some t) : absolute n bytes = some t := by
  have hrest : IsBare (bytes.drop (n + 3)) := fun b hb => hbare b (List.mem_of_mem_drop hb)
  rw [absolute, List.drop_append_of_le_length hn] at h
  rw [absolute]
  generalize bytes.drop (n + 3) = rest at h hrest
  have hauthority := takeWhile_append_query (p := fun b => !endsAuthority b) rfl rest query
  have hle : (rest.takeWhile fun b => !endsAuthority b).length ≤ rest.length :=
    (List.takeWhile_prefix _).length_le
  simp only [hauthority, List.drop_append_of_le_length hle] at h
  split at h
  next hvalid =>
    rw [if_pos hvalid]
    exact pathOf_of_query (fun b hb => hrest b (List.mem_of_mem_drop hb)) h
  next => cases h

theorem parse?_slash {rest : Bytes} (hlength : ¬ 65534 < (0x2F :: rest).length) :
    parse? (0x2F :: rest) = pathOf (0x2F :: rest) := by
  simp only [parse?, if_neg hlength]
  rfl

theorem parse?_other {b : UInt8} {rest : Bytes} (hslash : b ≠ 0x2F) (hstar : b :: rest ≠ [0x2A])
    (hlength : ¬ 65534 < (b :: rest).length) :
    parse? (b :: rest) = (schemeLength? (b :: rest)).elim
      (if isAuthority (b :: rest) then some ⟨""⟩ else none) fun n => absolute n (b :: rest) := by
  rw [parse?, if_neg hlength, if_neg hslash]
  · cases schemeLength? (b :: rest) <;> rfl
  · rintro rfl rfl
    exact hstar rfl

/-- A target with a query is the target without it. -/
theorem parse?_of_query (hbare : IsBare bytes) (h : parse? (bytes ++ 0x3F :: query) = some t) :
    parse? bytes = some t := by
  have hlong : ¬ 65534 < (bytes ++ 0x3F :: query).length := by
    intro hlong
    simp only [parse?, if_pos hlong] at h
    cases h
  have hshort : ¬ 65534 < bytes.length := by
    rw [List.length_append] at hlong
    omega
  have hscheme := schemeLength?_append_query bytes query
  have hauthority := isAuthority_append_query bytes query
  match bytes with
  | [] =>
    rw [List.nil_append] at h hlong hscheme hauthority
    rw [parse?_other (by decide) (by simp) hlong, hscheme, hauthority] at h
    cases h
  | b :: rest =>
    by_cases hslash : b = 0x2F
    · subst hslash
      rw [parse?_slash hshort]
      exact pathOf_of_query hbare ((parse?_slash hlong).symm.trans h)
    · rw [List.cons_append] at h hlong hscheme hauthority
      rw [parse?_other hslash (by simp) hlong, hscheme, hauthority] at h
      cases hn : schemeLength? (b :: rest) with
      | none =>
        rw [hn] at h
        cases h
      | some n =>
        rw [hn] at h
        have hle := le_length_of_schemeLength? hn
        have hstar : b :: rest ≠ [0x2A] := by
          intro hstar
          rw [hstar] at hle
          exact absurd hle (by simp)
        rw [parse?_other hslash hstar hshort, hn]
        exact absolute_of_query hbare hle h

/-- A target that begins with a slash and has neither a query nor a fragment is its path. -/
theorem eq_ofString_of_parse? (hbare : IsBare bytes) (hslash : bytes.head? = some 0x2F)
    (h : parse? bytes = some t) : bytes = Text.Utf8.ofString t.path := by
  obtain ⟨rest, rfl⟩ := List.head?_eq_some_iff.1 hslash
  have hshort : ¬ 65534 < (0x2F :: rest).length := by
    intro hlong
    simp only [parse?, if_pos hlong] at h
    cases h
  rw [parse?_slash hshort] at h
  exact eq_ofString_of_pathOf hbare (List.cons_ne_nil _ _) h

end Telemetry.Http.Target
