import Matchday.Proofs.RowFate
import Matchday.Proofs.Traffic

set_option autoImplicit false

/-!
# Sound traffic

Whatever the schedule, the store keeps its integrity, a call in flight still knows of each row that
it has read whose it is, and the committed changes replay to the rows of the store (`Traffic.Sound`).
-/
namespace Matchday

open Service

def RowChange.notice (change : RowChange) : Channel × ChangeEvent :=
  (change.table.channel, .ofRowChange change)

/-- What stays true of a row once it has been read. -/
structure Store.Knows (s : Store) (p : Part) (id : Int) (row : p.Row) : Prop where
  own : p.rowId row = id
  given : id ≤ s.lastId p.table
  owner : ∀ stored, s.findPart p id = some stored → p.ownerId stored = p.ownerId row

namespace Store

variable {s s' : Store} {c : Call} {changes : List RowChange}

theorem Integrity.knows (h : s.Integrity) {p : Part} {id : Int} {row : p.Row}
    (found : s.findPart p id = some row) : s.Knows p id row := by
  refine ⟨(h.parts p).own id row found, ?_, ?_⟩
  · rw [lastId_part]
    exact ((h.parts p).given id row found).2
  · intro stored hstored
    rw [found] at hstored
    cases hstored
    rfl

theorem Knows.after {p : Part} {id : Int} {row : p.Row} (known : s.Knows p id row)
    (e : s.Effect c changes s') (h : s.Integrity) (kept : s.KeepsOwner c) : s'.Knows p id row := by
  refine ⟨known.own, Int.le_trans known.given ((e.evolves h kept).lastId p.table), ?_⟩
  intro stored hstored
  cases e.rowFate h p id with
  | kept same untold => exact known.owner stored (same ▸ hstored)
  | gone absent =>
    rw [absent] at hstored
    cases hstored
  | inserted fresh made stored' told =>
    have hgiven := known.given
    omega
  | @overwritten old written writes own found stored' told =>
    rw [stored'] at hstored
    cases hstored
    exact (kept p old stored writes (own ▸ found)).symm.trans (known.owner old found)

end Store

theorem Service.Command.keepsOwner {c : Command} {past : Past} {call : Call} {s : Store}
    (h : c.Justified past call)
    (known : ∀ (p : Part) (id : Int) (row : p.Row),
      .answered (.find p id) (.ok (some row)) ∈ past → s.Knows p id row) : s.KeepsOwner call := by
  intro p old row writes found
  cases writes with
  | scoreboard old row =>
    obtain ⟨id, current, patch, rfl, hmem, hpatch⟩ := h
    have hknows := known .scoreboard id current hmem
    obtain ⟨hid, howner⟩ := withPatch_scoreboard hpatch
    have hrow : Part.rowId .scoreboard row = id := hid.trans hknows.own
    rw [hrow] at found
    exact (hknows.owner old found).trans howner.symm
  | clock k old row =>
    obtain ⟨order, current, horder, hmem, hstep, hversion⟩ := h
    have hknows := known k.part order.id current hmem
    obtain ⟨hid, howner, -⟩ := Command.order_advances horder hstep
    have hrow : k.part.rowId row = order.id := hid.trans hknows.own
    rw [hrow] at found
    exact (hknows.owner old found).trans howner.symm

namespace World

variable {w w' : World Store} {e : Entry}

@[simp] theorem store_fire {σ : Type} (w : World σ) (change : RowChange) :
    (w.fire change).store = w.store := rfl

@[simp] theorem feed_fire {σ : Type} (w : World σ) (change : RowChange) :
    (w.fire change).feed = w.feed := rfl

theorem After.feed (a : w.After e w') : w'.feed = w.feed := by
  cases a with
  | answered c => rfl
  | refused c fault => rfl
  | looked => rfl
  | announced change => exact feed_fire w change

theorem After.effect (a : w.After e w') :
    (∃ (c : Call) (r : Answer c), e = .answered c r ∧ w.store.Effect c e.changes w'.store) ∨
      w'.store = w.store ∧ e.changes = [] := by
  cases a with
  | answered c => exact .inl ⟨c, _, rfl, w.store.effect_answer w.clock c⟩
  | refused c fault => exact .inr ⟨rfl, Call.changes_refusal c fault⟩
  | looked => exact .inr ⟨rfl, rfl⟩
  | announced change => exact .inr ⟨store_fire w change, rfl⟩

theorem After.of_answered {c : Call} {r : Answer c} (a : w.After (.answered c r) w') :
    (r = (w.store.answer w.clock c).1 ∧ w'.store = (w.store.answer w.clock c).2) ∨
      ∃ fault, r = c.refusal fault ∧ w' = w := by
  -- The type of the answer depends on the call, which the cases on `a` could not unify.
  generalize he : Entry.answered c r = e at a
  cases a with
  | answered c =>
    obtain ⟨rfl, hr⟩ := Entry.answered.inj he
    exact .inl ⟨eq_of_heq hr, rfl⟩
  | refused c fault =>
    obtain ⟨rfl, hr⟩ := Entry.answered.inj he
    exact .inr ⟨fault, eq_of_heq hr, rfl⟩
  | looked => cases he
  | announced change => cases he

theorem After.find {p : Part} {id : Int} {row : p.Row}
    (a : w.After (.answered (.find p id) (.ok (some row))) w') :
    w.store.findPart p id = some row ∧ w'.store = w.store := by
  rcases a.of_answered with ⟨hanswer, hstore⟩ | ⟨fault, hfault, -⟩
  · exact ⟨(Except.ok.inj hanswer).symm, hstore⟩
  · cases hfault

theorem After.findFixture (stands : w.store.Integrity) {id : Int} {row : Fixture}
    (a : w.After (.answered (.findFixture id) (.ok (some row))) w') : row.id = id := by
  rcases a.of_answered with ⟨hanswer, -⟩ | ⟨fault, hfault, -⟩
  · exact stands.fixtures.own id row (Except.ok.inj hanswer).symm
  · cases hfault

theorem published_fire {w : World Store} (standard : w.feed = .standard) (change : RowChange) :
    (w.fire change).published = change.notice :: w.published := by
  rw [fire, standard, Feed.use, Feed.announce, Feed.standard_get]
  rfl

theorem After.published (a : w.After e w') (standard : w.feed = .standard) :
    w'.published = e.announcement.map RowChange.notice ++ w.published := by
  cases a with
  | answered c => rfl
  | refused c fault => rfl
  | looked => rfl
  | announced change => exact published_fire standard change

end World

namespace Traffic

/-- The changes that all calls have committed, the newest first. -/
def committed (t : Traffic) : List RowChange := t.log.flatMap fun e => e.2.changes.reverse

/-- The changes that all calls have announced, the newest first. -/
def announced (t : Traffic) : List RowChange := t.log.flatMap fun e => e.2.announcement

structure Sound (t : Traffic) : Prop where
  disciplined : t.Disciplined
  integrity : t.world.store.Integrity
  known : ∀ (i : Nat) (p : Part) (id : Int) (row : p.Row),
    (i, .answered (.find p id) (.ok (some row))) ∈ t.log → t.world.store.Knows p id row
  faithful : ∀ i, (t.past i).Faithful
  feed : t.world.feed = .standard
  published : t.world.published = t.announced.map RowChange.notice
  mirrors : LiveRows.Mirrors (t.committed.map ChangeEvent.ofRowChange) t.world.store.live

theorem sound_start (clock : Instant) (capacity : Nat) : (start clock capacity).Sound where
  disciplined := disciplined_start clock capacity
  integrity := Store.integrity_empty
  known := fun _ _ _ _ h => absurd h List.not_mem_nil
  faithful := fun _ _ _ h => absurd h List.not_mem_nil
  feed := rfl
  published := rfl
  mirrors := by
    change LiveRows.Mirrors [] Store.empty.live
    rw [Store.live_empty]
    exact LiveRows.mirrors_nil

variable {t t' : Traffic} {i : Nat} {f : Flight} {e : Entry}
  {rest : Prog (Except Cause f.command.Result)} {w : World Store}

/-- Every step of a call is some call of the store that leaves rows to their matches. -/
theorem Sound.effect (h : t.Sound) (flight : t.calls[i]? = some f) (takes : f.rest.Takes e rest)
    (after : t.world.After e w) :
    ∃ c, t.world.store.Effect c e.changes w.store ∧ t.world.store.KeepsOwner c ∧
      (e.changes ≠ [] → ∃ r, e = .answered c r) := by
  have hallows := h.disciplined.allows flight takes
  rcases after.effect with ⟨c, r, rfl, heffect⟩ | ⟨hstore, hchanges⟩
  · refine ⟨c, heffect, ?_, fun _ => ⟨r, rfl⟩⟩
    refine Service.Command.keepsOwner hallows.2 ?_
    intro p id row hmem
    exact h.known i p id row (mem_past.mp hmem)
  · refine ⟨.findThrottle 0, ?_, ?_, fun hne => absurd hchanges hne⟩
    · rw [hchanges, hstore]
      exact .still rfl fun _ => rfl
    · intro p old row writes
      cases writes

theorem Sound.took (h : t.Sound) (flight : t.calls[i]? = some f) (takes : f.rest.Takes e rest)
    (after : t.world.After e w) : (t.took i f e rest w).Sound := by
  obtain ⟨c, heffect, hkept, -⟩ := h.effect flight takes after
  refine ⟨h.disciplined.took flight takes w, heffect.integrity h.integrity hkept, ?_, ?_,
    after.feed.trans h.feed, ?_, ?_⟩
  · intro j p id row hmem
    rcases List.mem_cons.mp hmem with heq | hmem
    · obtain ⟨-, rfl⟩ := Prod.mk.inj heq
      obtain ⟨hfound, hstore⟩ := after.find
      change w.store.Knows p id row
      rw [hstore]
      exact h.integrity.knows hfound
    · exact (h.known j p id row hmem).after heffect h.integrity hkept
  · intro j id row hmem
    rcases List.mem_cons.mp (mem_past.mp hmem) with heq | hmem
    · obtain ⟨-, rfl⟩ := Prod.mk.inj heq
      exact after.findFixture h.integrity
    · exact h.faithful j id row (mem_past.mpr hmem)
  · have hpublished := after.published h.feed
    rw [h.published, ← List.map_append] at hpublished
    exact hpublished
  · have hnext := h.mirrors.path (heffect.path h.integrity hkept)
    rw [← List.map_append] at hnext
    exact hnext

theorem Sound.next (h : t.Sound) (n : t.Next t') : t'.Sound := by
  cases n with
  | same => exact h
  | begun c => exact ⟨h.disciplined.begin c, h.integrity, h.known, h.faithful, h.feed, h.published, h.mirrors⟩
  | ticked now =>
    exact ⟨h.disciplined.next (.ticked now), h.integrity, h.known, h.faithful, h.feed, h.published, h.mirrors⟩
  | took flight takes after => exact h.took flight takes after

theorem Sound.run (h : t.Sound) (moves : List Move) : (t.run moves).Sound :=
  run_induction h (fun _ _ hu n => hu.next n) moves

theorem sound_run (clock : Instant) (capacity : Nat) (moves : List Move) :
    ((start clock capacity).run moves).Sound :=
  (sound_start clock capacity).run moves

end Traffic

end Matchday
