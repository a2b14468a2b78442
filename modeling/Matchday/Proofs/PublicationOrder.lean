import Matchday.Proofs.RowLifetime
import Mathlib.Data.List.Nodup

set_option autoImplicit false

/-!
# The order of publication

A call commits its changes in one step and publishes them in later ones. Nothing ties the steps of two
calls together: what one has committed it may publish after another has committed and published what
comes later to the same row. This is the only way in which publications leave the order of the commits.
-/
namespace Matchday

open Service

def RowChange.row (change : RowChange) : WatchedTable × Int := (change.table, change.rowId)

namespace Store

variable {s s' : Store} {c : Call} {changes : List RowChange}

/-- What a change says of its row before and after it. -/
structure Tells (s s' : Store) (change : RowChange) : Prop where
  fresh : change.operation = .insert → s.lastId change.table < change.rowId
  present : change.operation ≠ .insert → s.live change.table change.rowId ≠ none
  gone : change.operation = .delete → s'.live change.table change.rowId = none

theorem mem_removal_changes {r : Removal} {change : RowChange} (h : change ∈ r.changes) :
    change = .deleted .fixture r.fixture.id none ∨
      ∃ (p : Part) (j : Int), change = .deleted p.table j (some r.fixture.id) ∧
        j ∈ (match p with
          | .scoreboard => r.scoreboardIds
          | .gameclock => r.gameclockIds
          | .playclock => r.playclockIds) := by
  simp only [Removal.changes, List.mem_append, List.mem_map, List.mem_singleton] at h
  rcases h with ((⟨j, hj, rfl⟩ | ⟨j, hj, rfl⟩) | ⟨j, hj, rfl⟩) | rfl
  · exact .inr ⟨.scoreboard, j, rfl, hj⟩
  · exact .inr ⟨.gameclock, j, rfl, hj⟩
  · exact .inr ⟨.playclock, j, rfl, hj⟩
  · exact .inl rfl

theorem tells_removal (h : s.Integrity) {id : Int} {row : Fixture}
    (found : s.fixtures.rows.get? id = some row) {change : RowChange}
    (mem : change ∈ (s.removal row id).changes) : s.Tells (s.withoutFixture id) change := by
  have hlive := live_withoutFixture (fun p => (h.parts p).ordered) id
  have hid : row.id = id := h.fixtures.own id row found
  rcases mem_removal_changes mem with rfl | ⟨p, j, rfl, hj⟩
  · have hrow : s.live .fixture id = some none := by simp [live, found]
    refine ⟨?_, fun _ => ?_, fun _ => ?_⟩
    · intro hinsert
      cases hinsert
    · change s.live .fixture row.id ≠ none
      rw [hid, hrow]
      exact Option.some_ne_none _
    · exact (hlive .fixture row.id).trans (if_pos (.inl ⟨rfl, hid⟩))
  · have howned : j ∈ s.ownedIds p id := by cases p <;> exact hj
    have hrow : s.live p.table j = some (some id) := (mem_ownedIds h).mp howned
    refine ⟨?_, fun _ => ?_, fun _ => ?_⟩
    · intro hinsert
      cases hinsert
    · change s.live p.table j ≠ none
      rw [hrow]
      exact Option.some_ne_none _
    · exact (hlive p.table j).trans (if_pos (.inr hrow))

theorem Effect.tells (e : s.Effect c changes s') (h : s.Integrity) {change : RowChange}
    (mem : change ∈ changes) : s.Tells s' change := by
  cases e with
  | still fixtures parts => cases mem
  | spent next refused => cases mem
  | @fixtureInserted fields id next =>
    cases List.mem_singleton.mp mem
    have hid := Numbered.nextId?_eq_some next
    refine ⟨fun _ => ?_, fun hne => absurd rfl hne, nofun⟩
    change s.fixtures.last < id
    omega
  | @fixtureUpdated row found =>
    cases List.mem_singleton.mp mem
    have hrow : s.live .fixture row.id = some none := live_fixture_eq_some.mpr ⟨rfl, found⟩
    exact ⟨nofun, fun _ => hrow ▸ Option.some_ne_none _, nofun⟩
  | fixtureDeleted found => exact tells_removal h found mem
  | @partInserted p draft id row owned free next made =>
    cases List.mem_singleton.mp mem
    have hid := Numbered.nextId?_eq_some next
    refine ⟨fun _ => ?_, fun hne => absurd rfl hne, nofun⟩
    change s.lastId p.table < p.rowId row
    rw [lastId_part, (Part.make_ok made).1]
    omega
  | @partOverwritten _ p old row writes found =>
    cases List.mem_singleton.mp mem
    have hrow : s.live p.table (p.rowId row) = some (some (p.ownerId old)) :=
      live_part_eq_some.mpr ⟨old, found, rfl⟩
    exact ⟨nofun, fun _ => hrow ▸ Option.some_ne_none _, nofun⟩
  | @partDeleted p id row found =>
    cases List.mem_singleton.mp mem
    have hid : p.rowId row = id := (h.parts p).own id row found
    have hrow : s.live p.table id = some (some (p.ownerId row)) :=
      live_part_eq_some.mpr ⟨row, found, rfl⟩
    refine ⟨nofun, fun _ => ?_, fun _ => ?_⟩
    · change s.live p.table (p.rowId row) ≠ none
      rw [hid, hrow]
      exact Option.some_ne_none _
    · change Store.live _ p.table (p.rowId row) = none
      rw [live_setPart_erase, hid, LiveRows.set_self]

theorem rows_deleted (t : WatchedTable) (ids : List Int) (owner : Option Int) :
    (ids.map (RowChange.deleted t · owner)).map RowChange.row = ids.map (t, ·) := by
  rw [List.map_map]
  rfl

theorem Effect.rows_nodup (e : s.Effect c changes s') (h : s.Integrity) :
    (changes.map RowChange.row).Nodup := by
  cases e with
  | still | spent => exact .nil
  | fixtureInserted | fixtureUpdated | partInserted | partOverwritten | partDeleted =>
    exact List.nodup_singleton _
  | @fixtureDeleted id row found =>
    have hnodup (p : Part) (t : WatchedTable) : ((s.ownedIds p id).map (t, ·)).Nodup :=
      (Table.nodup_keysWhere (h.parts p).ordered _).map fun _ _ heq => (Prod.mk.inj heq).2
    simp only [Removal.changes, removal, List.map_append, rows_deleted]
    refine List.nodup_append.mpr ⟨List.nodup_append.mpr ⟨List.nodup_append.mpr
      ⟨hnodup .scoreboard _, hnodup .gameclock _, ?_⟩, hnodup .playclock _, ?_⟩,
      List.nodup_singleton _, ?_⟩
    all_goals
      simp only [List.mem_append, List.mem_map, List.map_cons, List.map_nil, List.mem_singleton]
      grind [RowChange.row, RowChange.deleted]

end Store

namespace Traffic

variable {log : List (Nat × Entry)} {x y : Nat × RowChange}

def Committed (log : List (Nat × Entry)) (x : Nat × RowChange) : Prop :=
  ∃ e, (x.1, e) ∈ log ∧ x.2 ∈ e.changes

def Published (log : List (Nat × Entry)) (x : Nat × RowChange) : Prop :=
  (x.1, .announced x.2) ∈ log

def CommittedBefore (log : List (Nat × Entry)) (x y : Nat × RowChange) : Prop :=
  ∃ e earlier, (y.1, e) :: earlier <:+ log ∧ y.2 ∈ e.changes ∧ Committed earlier x

def PublishedBefore (log : List (Nat × Entry)) (x y : Nat × RowChange) : Prop :=
  ∃ earlier, (y.1, .announced y.2) :: earlier <:+ log ∧ Published earlier x

/-- When a call commits a change, another one has committed one that it has yet to publish. -/
def Overtaken (log : List (Nat × Entry)) (x y : Nat × RowChange) : Prop :=
  x.1 ≠ y.1 ∧ ∃ e earlier, (y.1, e) :: earlier <:+ log ∧ y.2 ∈ e.changes ∧
    Committed earlier x ∧ ¬Published earlier x

/-- The publications of each row are in the order of its commits. -/
def InCommitOrder (log : List (Nat × Entry)) : Prop :=
  ∀ x y : Nat × RowChange, x.2.row = y.2.row → CommittedBefore log x y → ¬PublishedBefore log y x

def DeletionLast (log : List (Nat × Entry)) : Prop :=
  ∀ x y : Nat × RowChange, x.2.row = y.2.row → x.2.operation = .delete →
    y.2.operation ≠ .delete → ¬PublishedBefore log x y

theorem exists_suffix_of_mem {e : Nat × Entry} (h : e ∈ log) : ∃ earlier, e :: earlier <:+ log := by
  obtain ⟨later, earlier, rfl⟩ := List.append_of_mem h
  exact ⟨earlier, List.suffix_append later _⟩

theorem suffix_trichotomy {a b : Nat × Entry} {ra rb : List (Nat × Entry)} (ha : a :: ra <:+ log)
    (hb : b :: rb <:+ log) : (a = b ∧ ra = rb) ∨ a :: ra <:+ rb ∨ b :: rb <:+ ra := by
  rcases List.suffix_or_suffix_of_suffix ha hb with hle | hle
  · rcases List.suffix_cons_iff.mp hle with heq | hrest
    · exact .inl (List.cons.inj heq)
    · exact .inr (.inl hrest)
  · rcases List.suffix_cons_iff.mp hle with heq | hrest
    · exact .inl ((List.cons.inj heq).imp Eq.symm Eq.symm)
    · exact .inr (.inr hrest)

theorem Committed.mono {earlier : List (Nat × Entry)} (h : Committed earlier x)
    (suffix : earlier <:+ log) : Committed log x := by
  obtain ⟨e, hmem, hchange⟩ := h
  exact ⟨e, suffix.subset hmem, hchange⟩

/-- What each entry of the log says of the entries before it. -/
structure Orderly (log : List (Nat × Entry)) : Prop where
  single : ∀ i e earlier, (i, e) :: earlier <:+ log → e.changes ≠ [] →
    ∀ e', (i, e') ∈ earlier → e'.changes = []
  notified : ∀ i change earlier, (i, .announced change) :: earlier <:+ log →
    Committed earlier (i, change) ∧ ¬Published earlier (i, change)
  final : ∀ i e earlier, (i, e) :: earlier <:+ log → ∀ change ∈ e.changes, ∀ x,
    Committed earlier x → x.2.row = change.row → x.2.operation ≠ .delete
  alike : ∀ i e, (i, e) ∈ log → ∀ a ∈ e.changes, ∀ b ∈ e.changes, a.row = b.row → a = b

namespace Orderly

variable (h : Orderly log)
include h

theorem committed_of_published (published : Published log x) : Committed log x := by
  obtain ⟨earlier, hsuffix⟩ := exists_suffix_of_mem published
  exact (h.notified _ _ _ hsuffix).1.mono ((List.suffix_cons _ _).trans hsuffix)

theorem of_suffix {earlier : List (Nat × Entry)} (suffix : earlier <:+ log) : Orderly earlier where
  single i e rest hrest := h.single i e rest (hrest.trans suffix)
  notified i change rest hrest := h.notified i change rest (hrest.trans suffix)
  final i e rest hrest := h.final i e rest (hrest.trans suffix)
  alike i e hmem := h.alike i e (suffix.subset hmem)

theorem call_ne (committed : CommittedBefore log x y) : x.1 ≠ y.1 := by
  obtain ⟨e, earlier, hsuffix, hy, e', hmem, hchange⟩ := committed
  intro hcall
  rw [h.single _ _ _ hsuffix (List.ne_nil_of_mem hy) e' (hcall ▸ hmem)] at hchange
  cases hchange

theorem overtaken (committed : CommittedBefore log x y) (published : PublishedBefore log y x) :
    Overtaken log x y := by
  have hcall := h.call_ne committed
  obtain ⟨e, earlier, hsuffix, hy, hx⟩ := committed
  obtain ⟨earlier', hsuffix', hpublished⟩ := published
  refine ⟨hcall, e, earlier, hsuffix, hy, hx, ?_⟩
  intro hbefore
  rcases suffix_trichotomy hsuffix hsuffix' with ⟨heq, -⟩ | hle | hle
  · exact hcall (Prod.mk.inj heq).1.symm
  · -- The publication of `x` comes after the commit of `y`, and once only.
    have hsub := (List.suffix_cons _ _).trans hle
    exact (h.notified _ _ _ hsuffix').2 (hsub.subset hbefore)
  · -- It comes before the commit of `y`, and so does the publication of `y`.
    have hsub := (List.suffix_cons _ _).trans hle
    have hy' := (h.of_suffix ((List.suffix_cons _ _).trans hsuffix)).committed_of_published
      (hsub.subset hpublished)
    obtain ⟨e', hmem, hchange⟩ := hy'
    rw [h.single _ _ _ hsuffix (List.ne_nil_of_mem hy) e' hmem] at hchange
    cases hchange

theorem published_in_order (committed : CommittedBefore log x y) (px : Published log x)
    (py : Published log y) : PublishedBefore log x y ∨ Overtaken log x y := by
  obtain ⟨rx, hxsuffix⟩ := exists_suffix_of_mem px
  obtain ⟨ry, hysuffix⟩ := exists_suffix_of_mem py
  have hcall := h.call_ne committed
  rcases suffix_trichotomy hxsuffix hysuffix with ⟨heq, -⟩ | hle | hle
  · exact absurd (Prod.mk.inj heq).1 hcall
  · exact .inl ⟨ry, hysuffix, hle.subset List.mem_cons_self⟩
  · exact .inr (h.overtaken committed ⟨rx, hxsuffix, hle.subset List.mem_cons_self⟩)

theorem committedBefore_or (hx : Committed log x) (hy : Committed log y) (row : x.2.row = y.2.row) :
    CommittedBefore log x y ∨ CommittedBefore log y x ∨ x.2 = y.2 := by
  obtain ⟨ex, hxmem, hxchange⟩ := hx
  obtain ⟨ey, hymem, hychange⟩ := hy
  obtain ⟨rx, hxsuffix⟩ := exists_suffix_of_mem hxmem
  obtain ⟨ry, hysuffix⟩ := exists_suffix_of_mem hymem
  rcases suffix_trichotomy hxsuffix hysuffix with ⟨heq, -⟩ | hle | hle
  · obtain ⟨-, rfl⟩ := Prod.mk.inj heq
    exact .inr (.inr (h.alike _ _ hxmem _ hxchange _ hychange row))
  · exact .inl ⟨ey, ry, hysuffix, hychange, ex, hle.subset List.mem_cons_self, hxchange⟩
  · exact .inr (.inl ⟨ex, rx, hxsuffix, hxchange, ey, hle.subset List.mem_cons_self, hychange⟩)

theorem not_committedBefore_of_delete (row : x.2.row = y.2.row) (deleted : x.2.operation = .delete) :
    ¬CommittedBefore log x y := by
  rintro ⟨e, earlier, hsuffix, hy, hx⟩
  exact h.final _ _ _ hsuffix y.2 hy x hx row deleted

theorem overtaken_of_delete (row : x.2.row = y.2.row) (deleted : x.2.operation = .delete)
    (other : y.2.operation ≠ .delete) (published : PublishedBefore log x y) : Overtaken log y x := by
  obtain ⟨earlier, hsuffix, hx⟩ := published
  have hsub : earlier <:+ log := (List.suffix_cons _ _).trans hsuffix
  have hxcommitted := h.committed_of_published (hsub.subset hx)
  have hycommitted := (h.notified _ _ _ hsuffix).1.mono hsub
  rcases h.committedBefore_or hxcommitted hycommitted row with hxy | hyx | heq
  · exact absurd hxy (h.not_committedBefore_of_delete row deleted)
  · exact h.overtaken hyx ⟨earlier, hsuffix, hx⟩
  · exact absurd (heq ▸ deleted) other

theorem cons {i : Nat} {e : Entry}
    (single : e.changes ≠ [] → ∀ e', (i, e') ∈ log → e'.changes = [])
    (notified : ∀ change, e = .announced change →
      Committed log (i, change) ∧ ¬Published log (i, change))
    (final : ∀ change ∈ e.changes, ∀ x, Committed log x → x.2.row = change.row →
      x.2.operation ≠ .delete)
    (alike : ∀ a ∈ e.changes, ∀ b ∈ e.changes, a.row = b.row → a = b) : Orderly ((i, e) :: log) := by
  refine ⟨?_, ?_, ?_, ?_⟩
  · intro j e' earlier hsuffix
    rcases List.suffix_cons_iff.mp hsuffix with heq | hrest
    · cases heq
      exact single
    · exact h.single j e' earlier hrest
  · intro j change earlier hsuffix
    rcases List.suffix_cons_iff.mp hsuffix with heq | hrest
    · cases heq
      exact notified change rfl
    · exact h.notified j change earlier hrest
  · intro j e' earlier hsuffix
    rcases List.suffix_cons_iff.mp hsuffix with heq | hrest
    · cases heq
      exact final
    · exact h.final j e' earlier hrest
  · intro j e' hmem
    rcases List.mem_cons.mp hmem with heq | hmem
    · cases heq
      exact alike
    · exact h.alike j e' hmem

end Orderly

structure Ordered (t : Traffic) : Prop where
  orderly : Orderly t.log
  distinct : ∀ i, (t.past i).committed.Nodup
  deleted : ∀ x, Committed t.log x → x.2.operation = .delete →
    x.2.rowId ≤ t.world.store.lastId x.2.table ∧ t.world.store.live x.2.table x.2.rowId = none

theorem ordered_start (clock : Instant) (capacity : Nat) : (start clock capacity).Ordered := by
  refine ⟨⟨?_, ?_, ?_, ?_⟩, fun _ => .nil, ?_⟩
  · intro i e earlier hsuffix
    cases List.suffix_nil.mp hsuffix
  · intro i change earlier hsuffix
    cases List.suffix_nil.mp hsuffix
  · intro i e earlier hsuffix
    cases List.suffix_nil.mp hsuffix
  · intro i e hmem
    cases hmem
  · rintro x ⟨e, hmem, -⟩
    cases hmem

variable {t t' : Traffic} {i : Nat} {f : Flight} {e : Entry}
  {rest : Prog (Except Cause f.command.Result)} {w : World Store}

theorem Sound.uncommitted (h : t.Sound) (flight : t.calls[i]? = some f) (takes : f.rest.Takes e rest)
    (after : t.world.After e w) (changes : e.changes ≠ []) : (t.past i).committed = [] := by
  obtain ⟨c, -, -, hentry⟩ := h.effect flight takes after
  obtain ⟨r, rfl⟩ := hentry changes
  exact (h.disciplined.allows flight takes).1

theorem changes_eq_nil_of_uncommitted {past : Past} (h : past.committed = []) {e : Entry}
    (mem : e ∈ past) : e.changes = [] := by
  have hreverse : e.changes.reverse = [] := List.flatMap_eq_nil_iff.mp h e mem
  exact List.reverse_eq_nil_iff.mp hreverse

theorem Ordered.announces (h : t.Ordered) {change : RowChange}
    (owed : ∃ later, (t.past i).committed = later ++ change :: (t.past i).announced) :
    Committed t.log (i, change) ∧ ¬Published t.log (i, change) := by
  obtain ⟨later, hlater⟩ := owed
  constructor
  · have hmem : change ∈ (t.past i).committed := by
      rw [hlater]
      simp
    obtain ⟨e, hentry, hchange⟩ := List.mem_flatMap.mp hmem
    exact ⟨e, mem_past.mp hentry, List.mem_reverse.mp hchange⟩
  · intro hpublished
    have hannounced : change ∈ (t.past i).announced :=
      List.mem_flatMap.mpr ⟨_, mem_past.mpr hpublished, List.mem_singleton_self change⟩
    have hnodup := h.distinct i
    rw [hlater] at hnodup
    exact (List.nodup_cons.mp (List.nodup_append.mp hnodup).2.1).1 hannounced

theorem Ordered.not_deleted (h : t.Ordered) {change : RowChange} {s' : Store}
    (tells : t.world.store.Tells s' change) {x : Nat × RowChange} (committed : Committed t.log x)
    (row : x.2.row = change.row) : x.2.operation ≠ .delete := by
  intro hdelete
  obtain ⟨hgiven, habsent⟩ := h.deleted x committed hdelete
  obtain ⟨htable, hid⟩ := Prod.mk.inj row
  rw [htable, hid] at hgiven habsent
  by_cases hinsert : change.operation = .insert
  · have hfresh := tells.fresh hinsert
    omega
  · exact tells.present hinsert habsent

theorem Ordered.took (h : t.Ordered) (sound : t.Sound) (flight : t.calls[i]? = some f)
    (takes : f.rest.Takes e rest) (after : t.world.After e w) : (t.took i f e rest w).Ordered := by
  obtain ⟨c, heffect, hkept, -⟩ := sound.effect flight takes after
  have hevolves := heffect.evolves sound.integrity hkept
  have hnodup := heffect.rows_nodup sound.integrity
  have huncommitted := sound.uncommitted flight takes after
  refine ⟨h.orderly.cons ?_ ?_ ?_ ?_, ?_, ?_⟩
  · intro hchanges e' hmem
    exact changes_eq_nil_of_uncommitted (huncommitted hchanges) (mem_past.mpr hmem)
  · rintro change rfl
    exact h.announces (sound.disciplined.allows flight takes (sound.faithful i))
  · intro change hchange x hx hrow
    exact h.not_deleted (heffect.tells sound.integrity hchange) hx hrow
  · intro a ha b hb hrow
    exact List.inj_on_of_nodup_map hnodup ha hb hrow
  · intro j
    rw [past_took]
    split_ifs with hj
    · subst hj
      change (e.changes.reverse ++ (t.past i).committed).Nodup
      by_cases hchanges : e.changes = []
      · rw [hchanges]
        exact h.distinct i
      · rw [huncommitted hchanges, List.append_nil]
        exact List.nodup_reverse.mpr hnodup.of_map
    · exact h.distinct j
  · rintro x ⟨e', hmem, hchange⟩ hdelete
    change _ ≤ w.store.lastId _ ∧ w.store.live _ _ = none
    rcases List.mem_cons.mp hmem with heq | hmem
    · cases heq
      have htells := heffect.tells sound.integrity hchange
      have hpresent := htells.present (by rw [hdelete]; decide)
      exact ⟨Int.le_trans (sound.integrity.live_le_lastId hpresent) (hevolves.lastId _),
        htells.gone hdelete⟩
    · -- The id was given out before its row was deleted, so it gets no row any more.
      obtain ⟨hgiven, habsent⟩ := h.deleted x ⟨e', hmem, hchange⟩ hdelete
      refine ⟨Int.le_trans hgiven (hevolves.lastId _), ?_⟩
      rcases hevolves.live _ _ hgiven with hnone | hsame
      · exact hnone
      · exact hsame.trans habsent

theorem Ordered.next (h : t.Ordered) (sound : t.Sound) (n : t.Next t') : t'.Ordered := by
  cases n with
  | same => exact h
  | begun c => exact ⟨h.orderly, h.distinct, h.deleted⟩
  | ticked now => exact ⟨h.orderly, h.distinct, h.deleted⟩
  | took flight takes after => exact h.took sound flight takes after

theorem ordered_run (clock : Instant) (capacity : Nat) (moves : List Move) :
    ((start clock capacity).run moves).Ordered := by
  induction moves with
  | nil => exact ordered_start clock capacity
  | cons m earlier ih => exact ih.next (sound_run clock capacity earlier) (next_step _ m)

/-- What is published is what the log has announced, each change once and after its commit. Of one row
it is in the order of the commits, unless a call had yet to publish its change when another one committed
a later change. No change of a row is committed after its deletion, so an insertion or update that is
published after it has been overtaken by it. -/
theorem publication_order (clock : Instant) (capacity : Nat) (moves : List Move) :
    let t := (start clock capacity).run moves
    (t.world.published = t.log.flatMap fun e => e.2.announcement.map RowChange.notice) ∧
    (∀ x : Nat × RowChange, ∀ earlier, (x.1, .announced x.2) :: earlier <:+ t.log →
      Committed earlier x ∧ ¬Published earlier x) ∧
    (∀ x y : Nat × RowChange, CommittedBefore t.log x y → Published t.log x → Published t.log y →
      PublishedBefore t.log x y ∨ Overtaken t.log x y) ∧
    (∀ x y : Nat × RowChange, x.2.row = y.2.row → x.2.operation = .delete →
      ¬CommittedBefore t.log x y) ∧
    ∀ x y : Nat × RowChange, x.2.row = y.2.row → x.2.operation = .delete →
      y.2.operation ≠ .delete → PublishedBefore t.log x y → Overtaken t.log y x := by
  intro t
  have hsound : t.Sound := sound_run clock capacity moves
  have horderly := (ordered_run clock capacity moves).orderly
  refine ⟨?_, ?_, ?_, ?_, ?_⟩
  · rw [hsound.published, announced, List.map_flatMap]
  · intro x earlier hsuffix
    exact horderly.notified x.1 x.2 earlier hsuffix
  · intro x y committed px py
    exact horderly.published_in_order committed px py
  · intro x y row deleted
    exact horderly.not_committedBefore_of_delete row deleted
  · intro x y row deleted other published
    exact horderly.overtaken_of_delete row deleted other published

/-- An update of a scoreboard has been committed when another call deletes it and publishes that; the
update is published after the deletion. -/
theorem update_published_after_deletion :
    let moves : List Move :=
      [.advance 2, .advance 3, .advance 3, .begin (.deletePart .scoreboard 1), .advance 2, .advance 2,
        .begin (.updateScoreboard 1 ⟨some 7, none, none, none⟩), .advance 1, .advance 1, .advance 1,
        .begin (.createScoreboard (.kickoff 1)), .advance 0, .advance 0,
        .begin (.createFixture ⟨1, 2, 3, "Final", 1, none⟩)]
    let t := (start .epoch 4).run moves
    ¬InCommitOrder t.log ∧ ¬DeletionLast t.log := by
  intro moves t
  let update : Nat × RowChange := (2, .updated .scoreboard 1 (some 1))
  let deletion : Nat × RowChange := (3, .deleted .scoreboard 1 (some 1))
  have hcommitted : CommittedBefore t.log update deletion :=
    ⟨_, t.log.drop 3, ⟨t.log.take 2, rfl⟩, List.mem_singleton_self _, _, List.mem_cons_self,
      List.mem_singleton_self _⟩
  have hpublished : PublishedBefore t.log deletion update :=
    ⟨t.log.drop 1, ⟨[], rfl⟩, List.mem_cons_self⟩
  constructor
  · intro h
    exact h update deletion rfl hcommitted hpublished
  · intro h
    exact h deletion update rfl rfl (by decide) hpublished

end Traffic

end Matchday
