import Matchday.Proofs.Conduct

set_option autoImplicit false

namespace Matchday.Traffic

variable {t t' : Traffic}

theorem Sound.evolves_next (h : t.Sound) (n : t.Next t') : t.world.store.Evolves t'.world.store := by
  cases n with
  | same => exact .refl _
  | begun c => exact .refl _
  | ticked now => exact .refl _
  | took flight takes after =>
    obtain ⟨c, heffect, hkept, -⟩ := h.effect flight takes after
    exact heffect.evolves h.integrity hkept

theorem Sound.evolves_run (h : t.Sound) (moves : List Move) :
    t.world.store.Evolves (t.run moves).world.store := by
  induction moves with
  | nil => exact .refl _
  | cons m earlier ih => exact ih.trans ((h.run earlier).evolves_next (next_step _ m))

/-- Rows stand under their own ids, each part with a match of its own. -/
theorem store_integrity (clock : Instant) (capacity : Nat) (moves : List Move) :
    let s := ((start clock capacity).run moves).world.store
    (∀ id row, s.fixtures.rows.get? id = some row →
      row.id = id ∧ 1 ≤ id ∧ id ≤ s.fixtures.last) ∧
    (∀ p id row, s.findPart p id = some row →
      p.rowId row = id ∧ 1 ≤ id ∧ id ≤ (s.part p).last ∧
        s.fixtures.rows.contains (p.ownerId row) = true) ∧
    (∀ p id id' row row', s.findPart p id = some row → s.findPart p id' = some row' →
      p.ownerId row = p.ownerId row' → id = id') ∧
    ∀ later, let s' := ((start clock capacity).run (later ++ moves)).world.store
      (∀ p id row row', s.findPart p id = some row → s'.findPart p id = some row' →
        p.ownerId row' = p.ownerId row) ∧
      ∀ u id, s.live u id ≠ none → s'.live u id = none →
        ∀ latest, ((start clock capacity).run (latest ++ (later ++ moves))).world.store.live u id =
          none := by
  intro s
  have hsound := sound_run clock capacity moves
  have hintegrity : s.Integrity := hsound.integrity
  have hlive {p : Part} {id : Int} {row : p.Row} (hrow : s.findPart p id = some row) :
      s.live p.table id = some (some (p.ownerId row)) :=
    Store.live_part_eq_some.mpr ⟨row, hrow, rfl⟩
  refine ⟨?_, ?_, ?_, ?_⟩
  · intro id row hrow
    exact ⟨hintegrity.fixtures.own id row hrow, hintegrity.fixtures.given id row hrow⟩
  · intro p id row hrow
    obtain ⟨hpos, hle⟩ := (hintegrity.parts p).given id row hrow
    refine ⟨(hintegrity.parts p).own id row hrow, hpos, hle, ?_⟩
    exact (Store.live_fixture_eq_some.mp (hintegrity.live.owned _ _ _ (hlive hrow))).2
  · intro p id id' row row' hrow hrow' howner
    exact hintegrity.live.unique _ _ _ _ (hlive hrow) (howner ▸ hlive hrow')
  · intro later s'
    have hevolves : s.Evolves s' := by
      have h := hsound.evolves_run later
      rwa [← run_append] at h
    constructor
    · intro p id row row' hrow hrow'
      have hlive' : s'.live p.table id = some (some (p.ownerId row')) :=
        Store.live_part_eq_some.mpr ⟨row', hrow', rfl⟩
      exact Option.some.inj (hevolves.owner hintegrity (hlive hrow) hlive')
    · intro u id hpresent habsent latest
      have hlatest := (sound_run clock capacity (later ++ moves)).evolves_run latest
      rw [← run_append] at hlatest
      exact hevolves.absent hlatest hintegrity hpresent habsent

end Matchday.Traffic
