import Matchday.Proofs.Conduct
import Matchday.Proofs.Record
import Mathlib.Data.List.Count

set_option autoImplicit false

namespace Matchday.Traffic

open Service

def tagged (g : Entry → List RowChange) (log : List (Nat × Entry)) : List (Nat × RowChange) :=
  log.flatMap fun e => (g e.2).map (e.1, ·)

theorem map_snd_tagged (g : Entry → List RowChange) (log : List (Nat × Entry)) :
    (tagged g log).map Prod.snd = log.flatMap fun e => g e.2 := by
  simp only [tagged, List.map_flatMap, List.map_map, Function.comp_def, List.map_id']

theorem count_tagged (t : Traffic) (g : Entry → List RowChange) (i : Nat) (change : RowChange) :
    (tagged g t.log).count (i, change) = ((t.past i).flatMap g).count change := by
  rw [past, tagged]
  induction t.log with
  | nil => rfl
  | cons e log ih =>
    obtain ⟨j, e⟩ := e
    rw [List.flatMap_cons, List.count_append, ih, List.filterMap_cons]
    by_cases hj : j = i
    · subst hj
      have hcount : ((g e).map (j, ·)).count (j, change) = (g e).count change :=
        List.count_map_of_injective _ _ (fun _ _ h => (Prod.mk.inj h).2) change
      simp only [if_true, List.flatMap_cons, List.count_append, hcount]
    · have hcount : ((g e).map (j, ·)).count (i, change) = 0 := by
        refine List.count_eq_zero.mpr ?_
        intro hmem
        obtain ⟨change', -, heq⟩ := List.mem_map.mp hmem
        exact hj (Prod.mk.inj heq).1
      simp only [hj, if_false, hcount, Nat.zero_add]

theorem perm_of_past {t : Traffic} {g g' : Entry → List RowChange}
    (same : ∀ i, (t.past i).flatMap g = (t.past i).flatMap g') :
    (t.log.flatMap fun e => g e.2).Perm (t.log.flatMap fun e => g' e.2) := by
  rw [← map_snd_tagged, ← map_snd_tagged]
  -- The log mixes the calls, but with its number each call's part of it can be counted alone.
  refine List.Perm.map _ (List.perm_iff_count.mpr ?_)
  rintro ⟨i, change⟩
  rw [count_tagged, count_tagged, same i]

variable {t t' : Traffic}

theorem Sound.published_perm (h : t.Sound)
    (settled : ∀ i, (t.past i).announced = (t.past i).committed) :
    t.world.published.Perm (t.committed.map RowChange.notice) := by
  rw [h.published]
  exact List.Perm.map _ (perm_of_past settled)

/-- How a call that is over has ended. -/
def Ended (c : Command) (past : Past) (result : Except Cause c.Result) : Prop :=
  match result with
  | .error _ => past.announced = [] ∧ past.committed = []
  | .ok _ => past.announced = past.committed ∧
    if c.mutates then
      ∃ call r, .answered call r ∈ past ∧ past.committed = (call.changes r).reverse ∧
        call.changes r ≠ []
    else past.committed = []

theorem Sound.announced_suffix (h : t.Sound) (i : Nat) :
    (t.past i).announced <:+ (t.past i).committed := by
  cases hpast : t.past i with
  | nil => exact List.suffix_rfl
  | cons e rest =>
    obtain ⟨f, -, hkeeps⟩ := h.disciplined.flight (i := i) (e := e) (hpast ▸ List.mem_cons_self)
    exact Command.announced_suffix (hpast ▸ hkeeps) (hpast ▸ h.faithful i)

theorem Sound.ended (h : t.Sound) {i : Nat} {f : Flight}
    (flight : t.calls[i]? = some f) {result : Except Cause f.command.Result}
    (done : f.rest = .done result) : Ended f.command (t.past i) result := by
  have houtcome : Command.Outcome f.command (t.past i) result := by
    have hwithin := h.disciplined.within i f flight
    rw [done] at hwithin
    exact hwithin
  have hsuffix := h.announced_suffix i
  have hsilent (hquiet : (t.past i).committed = []) : (t.past i).announced = [] := by
    rw [hquiet] at hsuffix
    exact List.suffix_nil.mp hsuffix
  cases result with
  | error cause => exact ⟨hsilent houtcome, houtcome⟩
  | ok value =>
    simp only [Command.Outcome] at houtcome
    simp only [Ended]
    split_ifs at houtcome ⊢ with hmutates
    · exact houtcome (h.faithful i)
    · exact ⟨(hsilent houtcome).trans houtcome.symm, houtcome⟩

theorem Ended.settled {c : Command} {past : Past} {result : Except Cause c.Result}
    (h : Ended c past result) : past.announced = past.committed := by
  cases result with
  | error cause => exact h.1.trans h.2.symm
  | ok value => exact h.1

theorem Ended.silent {c : Command} {past : Past} {result : Except Cause c.Result}
    (h : Ended c past result) (idle : c.mutates = false ∨ ∃ cause, result = .error cause) :
    past.announced = [] := by
  cases result with
  | error cause => exact h.1
  | ok value =>
    rcases idle with hmutates | ⟨cause, hcause⟩
    · obtain ⟨hsettled, hcommitted⟩ := h
      rw [if_neg (by simp [hmutates])] at hcommitted
      exact hsettled.trans hcommitted
    · cases hcause

theorem Sound.commits_next (h : t.Sound) (n : t.Next t') :
    (t'.log = t.log ∧ t'.world.store = t.world.store) ∨
      ∃ i e, t'.log = (i, e) :: t.log ∧
        LiveRows.Path t.world.store.live e.changes t'.world.store.live ∧
        ((∃ c r, e = .answered c r ∧ t.world.store.Effect c e.changes t'.world.store) ∨
          t'.world.store = t.world.store ∧ e.changes = []) := by
  cases n with
  | same => exact .inl ⟨rfl, rfl⟩
  | begun c => exact .inl ⟨rfl, rfl⟩
  | ticked now => exact .inl ⟨rfl, rfl⟩
  | took flight takes after =>
    obtain ⟨c, heffect, hkept, -⟩ := h.effect flight takes after
    exact .inr ⟨_, _, rfl, heffect.path h.integrity hkept, after.effect⟩

/-- Each step logs what it does to the rows; a call publishes what it has committed before, nothing
if it fails and all of it if it succeeds; and when all calls are over, what was published is what was
committed. -/
theorem one_notice_per_change (clock : Instant) (capacity : Nat) (moves : List Move) :
    let t := (start clock capacity).run moves
    (∀ m, let t' := (start clock capacity).run (m :: moves)
      (t'.log = t.log ∧ t'.world.store = t.world.store) ∨
        ∃ i e, t'.log = (i, e) :: t.log ∧
          LiveRows.Path t.world.store.live e.changes t'.world.store.live ∧
          ((∃ c r, e = .answered c r ∧ t.world.store.Effect c e.changes t'.world.store) ∨
            t'.world.store = t.world.store ∧ e.changes = [])) ∧
    t.world.published = t.announced.map RowChange.notice ∧
    (∀ i, (t.past i).announced <:+ (t.past i).committed) ∧
    (∀ i f result, t.calls[i]? = some f → f.rest = .done result →
      Ended f.command (t.past i) result) ∧
    ((∀ f ∈ t.calls, ∃ result, f.rest = .done result) →
      t.world.published.Perm (t.committed.map RowChange.notice)) := by
  intro t
  have hsound : t.Sound := sound_run clock capacity moves
  refine ⟨?_, hsound.published, hsound.announced_suffix, ?_, ?_⟩
  · intro m
    exact hsound.commits_next (next_step _ m)
  · intro i f result flight done
    exact hsound.ended flight done
  · intro hdone
    refine hsound.published_perm ?_
    intro i
    cases hflight : t.calls[i]? with
    | none =>
      have hnil := hsound.disciplined.past_eq_nil (List.getElem?_eq_none_iff.mp hflight)
      rw [hnil]
      rfl
    | some f =>
      obtain ⟨result, hresult⟩ := hdone f (List.mem_of_getElem? hflight)
      exact (hsound.ended hflight hresult).settled

end Matchday.Traffic
