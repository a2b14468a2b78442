import Matchday.Api.Refusal
import Matchday.Service.Cause
import Mathlib.Tactic.SplitIfs

set_option autoImplicit false

namespace Matchday

open Matchday.Http

namespace TraceId

def Visible (c : Char) : Prop := 32 ≤ c.toNat ∧ c.toNat ≠ 127

instance (c : Char) : Decidable (Visible c) := inferInstanceAs (Decidable (_ ∧ _))

theorem visible_digitChar : ∀ n < 16, Visible n.digitChar := by decide

theorem visible_toDigits (n : Nat) : ∀ c ∈ Nat.toDigits 16 n, Visible c := by
  induction n using Nat.strongRecOn with
  | ind n ih =>
    rw [Nat.toDigits_eq_if (by decide)]
    split_ifs with hn
    · simpa using visible_digitChar n hn
    · intro c hc
      rcases List.mem_append.mp hc with hc | hc
      · exact ih (n / 16) (by omega) c hc
      · rw [List.mem_singleton.mp hc]
        exact visible_digitChar _ (Nat.mod_lt n (by decide))

theorem visible_hyphenated (groups : List Nat) {cs : List Char} (h : ∀ c ∈ cs, Visible c) :
    ∀ c ∈ hyphenated groups cs, Visible c := by
  induction groups generalizing cs with
  | nil => exact h
  | cons n ns ih =>
    cases ns with
    | nil => exact h
    | cons m ms =>
      intro c hc
      simp only [hyphenated, List.mem_append, List.mem_cons] at hc
      rcases hc with hc | rfl | hc
      · exact h c (List.mem_of_mem_take hc)
      · decide
      · exact ih (fun c hc => h c (List.mem_of_mem_drop hc)) c hc

theorem canHold_render (id : TraceId) : Header.canHold id.render = true := by
  have hvisible (c : Char) (hc : c ∈ List.replicate (32 - (Nat.toDigits 16 id.value).length) '0' ++
      Nat.toDigits 16 id.value) : Visible c := by
    rcases List.mem_append.mp hc with hc | hc
    · rw [List.eq_of_mem_replicate hc]
      decide
    · exact visible_toDigits _ c hc
  rw [Header.canHold, render, String.toList_ofList, List.all_eq_true]
  intro c hc
  obtain ⟨hlow, hdelete⟩ := visible_hyphenated groups hvisible c hc
  simp [hlow, hdelete]

end TraceId

namespace Api

theorem status_traced (scope : Option TraceId) {f : Failure} (untraced : f.traceId = none) :
    ((Refusal.failure f).traced scope).response.status = statusOf f.code := by
  cases scope with
  | none =>
    simp only [Refusal.traced, Option.map_none, Failure.withTraceId, Refusal.response, failureResponse,
      untraced]
    rfl
  | some id =>
    simp only [Refusal.traced, Option.map_some, Failure.withTraceId, Refusal.response, failureResponse,
      id.canHold_render, if_true]
    rfl

theorem status_failure (scope : Option TraceId) (cause : Cause) :
    ((Refusal.failure cause.failure).traced scope).response.status = statusOf cause.failure.code :=
  status_traced scope (by cases cause <;> rfl)

end Api

end Matchday
