import Matchday.Proofs.Replay

set_option autoImplicit false

namespace Matchday

namespace Numbered

variable {α : Type}

/-- Rows stand in order under their own ids, all of which the sequence has given out. -/
structure Sound (key : α → Int) (t : Numbered α) : Prop where
  ordered : t.rows.Ordered
  last_nonneg : 0 ≤ t.last
  own : ∀ id r, t.rows.get? id = some r → key r = id
  given : ∀ id r, t.rows.get? id = some r → 1 ≤ id ∧ id ≤ t.last

theorem nextId?_eq_some {t : Numbered α} {id : Int} (h : t.nextId? = some id) : id = t.last + 1 := by
  rw [nextId?] at h
  split_ifs at h
  exact (Option.some.inj h).symm

variable {key : α → Int} {t : Numbered α}

theorem sound_empty : (empty : Numbered α).Sound key := by
  refine ⟨Table.ordered_empty, Int.le_refl 0, ?_, ?_⟩
  · intro id r h
    cases h
  · intro id r h
    cases h

theorem Sound.fresh (h : t.Sound key) {id : Int} (hid : t.last < id) : t.rows.get? id = none := by
  rw [Option.eq_none_iff_forall_not_mem]
  intro r hr
  have hle := (h.given id r hr).2
  omega

theorem Sound.insert (h : t.Sound key) {id last : Int} {row : α} (hrow : key row = id)
    (hpos : 1 ≤ id) (hid : id ≤ last) (hlast : t.last ≤ last) :
    Sound key ⟨t.rows.insert id row, last⟩ := by
  have hnonneg := h.last_nonneg
  refine ⟨Table.ordered_insert h.ordered id row, by change 0 ≤ last; omega, ?_, ?_⟩
  · intro j r hr
    rw [Table.get?_insert] at hr
    split_ifs at hr with hj
    · cases hr
      exact hrow.trans hj.symm
    · exact h.own j r hr
  · intro j r hr
    rw [Table.get?_insert] at hr
    change 1 ≤ j ∧ j ≤ last
    split_ifs at hr with hj
    · omega
    · have hold := h.given j r hr
      omega

theorem Sound.insert_next (h : t.Sound key) {id : Int} {row : α} (next : t.nextId? = some id)
    (hrow : key row = id) : Sound key ⟨t.rows.insert id row, id⟩ := by
  have hid := nextId?_eq_some next
  have hnonneg := h.last_nonneg
  exact h.insert hrow (by omega) (Int.le_refl id) (by omega)

theorem Sound.overwrite (h : t.Sound key) {row old : α} (found : t.rows.get? (key row) = some old) :
    Sound key { t with rows := t.rows.insert (key row) row } :=
  h.insert rfl (h.given _ _ found).1 (h.given _ _ found).2 (Int.le_refl t.last)

theorem Sound.spend (h : t.Sound key) {id : Int} (next : t.nextId? = some id) :
    Sound key { t with last := id } := by
  have hid := nextId?_eq_some next
  have hnonneg := h.last_nonneg
  refine ⟨h.ordered, by change 0 ≤ id; omega, h.own, ?_⟩
  intro j r hr
  have hold := h.given j r hr
  change 1 ≤ j ∧ j ≤ id
  omega

theorem Sound.restrict (h : t.Sound key) {rows : Table α} (hrows : rows.Ordered)
    (sub : ∀ id r, rows.get? id = some r → t.rows.get? id = some r) :
    Sound key { t with rows := rows } :=
  ⟨hrows, h.last_nonneg, fun id r hr => h.own id r (sub id r hr),
    fun id r hr => h.given id r (sub id r hr)⟩

theorem Sound.erase (h : t.Sound key) (id : Int) : Sound key { t with rows := t.rows.erase id } := by
  refine h.restrict (Table.ordered_erase h.ordered id) ?_
  intro j r hr
  rw [Table.get?_erase] at hr
  split_ifs at hr
  exact hr

theorem Sound.without (h : t.Sound key) (p : α → Bool) :
    Sound key { t with rows := t.rows.without p } := by
  refine h.restrict (Table.ordered_without h.ordered p) ?_
  intro j r hr
  rw [Table.get?_without h.ordered] at hr
  exact (Option.filter_eq_some_iff.mp hr).1

end Numbered

namespace Store

/-- A row that the call would overwrite has the match of the new row. -/
def KeepsOwner (s : Store) (c : Call) : Prop :=
  ∀ p old row, c.Overwrites p old row → s.findPart p (p.rowId row) = some old →
    p.ownerId old = p.ownerId row

structure Integrity (s : Store) : Prop where
  fixtures : s.fixtures.Sound Fixture.id
  parts : ∀ p, (s.part p).Sound p.rowId
  live : s.live.Consistent

theorem live_empty : empty.live = LiveRows.empty := by
  funext t id
  cases t <;> rfl

theorem integrity_empty : empty.Integrity := by
  refine ⟨Numbered.sound_empty, ?_, ?_⟩
  · intro p
    cases p <;> exact Numbered.sound_empty
  · rw [live_empty]
    exact LiveRows.consistent_empty

variable {s s' : Store} {c : Call} {changes : List RowChange}

theorem live_congr (fixtures : s'.fixtures = s.fixtures) (parts : ∀ p, s'.part p = s.part p) :
    s'.live = s.live := by
  funext t id
  rcases t.fixture_or_part with rfl | ⟨p, rfl⟩
  · simp only [live, fixtures]
  · simp only [live_part, findPart, parts]

theorem findPartByMatch_eq_none {p : Part} {m : Int} (h : s.findPartByMatch p m = none) (j : Int) :
    s.live p.table j ≠ some (some m) := by
  intro hj
  obtain ⟨r, hr, ho⟩ := live_part_eq_some.mp hj
  have hne := Table.find?_eq_none h hr
  simp only [Option.some.inj ho, beq_self_eq_true] at hne
  cases hne

theorem findPartByMatch_eq_some (h : s.Integrity) {p : Part} {m : Int} {row : p.Row} :
    s.findPartByMatch p m = some row ↔ s.findPart p (p.rowId row) = some row ∧ p.ownerId row = m := by
  have hfound (r : p.Row) (hr : s.findPartByMatch p m = some r) :
      s.findPart p (p.rowId r) = some r ∧ p.ownerId r = m := by
    have howner : p.ownerId r = m := by simpa using List.find?_some hr
    obtain ⟨⟨id, r'⟩, hentry, rfl⟩ := List.mem_map.mp (List.mem_of_find?_eq_some hr)
    have hget : (s.part p).rows.get? id = some r' := Table.get?_of_mem (h.parts p).ordered hentry
    rw [(h.parts p).own id r' hget]
    exact ⟨hget, howner⟩
  refine ⟨hfound row, ?_⟩
  rintro ⟨hrow, howner⟩
  have hlive : s.live p.table (p.rowId row) = some (some m) := live_part_eq_some.mpr ⟨row, hrow, by rw [howner]⟩
  cases hfree : s.findPartByMatch p m with
  | none => exact absurd hlive (findPartByMatch_eq_none hfree _)
  | some r =>
    obtain ⟨hr, hr'⟩ := hfound r hfree
    have hlive' : s.live p.table (p.rowId r) = some (some m) := live_part_eq_some.mpr ⟨r, hr, by rw [hr']⟩
    have hid : p.rowId r = p.rowId row := h.live.unique _ _ _ _ hlive' hlive
    rw [hid, hrow] at hr
    exact hr.symm

theorem fixture_eq_none_of_next (h : s.Integrity) {id : Int} (next : s.fixtures.nextId? = some id) :
    s.live .fixture id = none := by
  have hid := Numbered.nextId?_eq_some next
  have hfresh : s.fixtures.rows.get? id = none := h.fixtures.fresh (by omega)
  simp only [live, hfresh, Option.map_none]

theorem part_eq_none_of_next (h : s.Integrity) {p : Part} {id : Int}
    (next : (s.part p).nextId? = some id) : s.live p.table id = none := by
  have hid := Numbered.nextId?_eq_some next
  rw [live_part_eq_none, findPart]
  exact (h.parts p).fresh (by omega)

theorem mem_ownedIds (h : s.Integrity) {p : Part} {m j : Int} :
    j ∈ s.ownedIds p m ↔ s.live p.table j = some (some m) := by
  rw [ownedIds, Table.mem_keysWhere (h.parts p).ordered, live_part_eq_some]
  simp only [findPart, beq_iff_eq, Option.some.injEq]

def disowned (s : Store) (id : Int) : LiveRows :=
  ((s.live.clear .scoreboard (s.ownedIds .scoreboard id)).clear .gameclock
    (s.ownedIds .gameclock id)).clear .playclock (s.ownedIds .playclock id)

theorem disowned_apply (h : s.Integrity) (id : Int) (u : WatchedTable) (j : Int) :
    s.disowned id u j = if s.live u j = some (some id) then none else s.live u j := by
  rcases u.fixture_or_part with rfl | ⟨p, rfl⟩
  · have hno : s.live .fixture j ≠ some (some id) := fun he => by
      cases (live_fixture_eq_some.mp he).1
    rw [if_neg hno]
    simp [disowned, LiveRows.clear]
  · simp only [← mem_ownedIds h]
    cases p <;> simp [disowned, LiveRows.clear, Part.table]

theorem path_disowned (h : s.Integrity) (id : Int) :
    LiveRows.Path s.live
      ((s.ownedIds .scoreboard id).map (RowChange.deleted .scoreboard · (some id))
        ++ (s.ownedIds .gameclock id).map (RowChange.deleted .gameclock · (some id))
        ++ (s.ownedIds .playclock id).map (RowChange.deleted .playclock · (some id)))
      (s.disowned id) := by
  have hnodup (p : Part) : (s.ownedIds p id).Nodup := Table.nodup_keysWhere (h.parts p).ordered _
  have hlive (p : Part) (j : Int) (hj : j ∈ s.ownedIds p id) : s.live p.table j = some (some id) :=
    (mem_ownedIds h).mp hj
  have boards := LiveRows.path_clear (hnodup .scoreboard) h.live (hlive .scoreboard)
  have hboards := boards.consistent h.live
  have games := LiveRows.path_clear (p := .gameclock) (hnodup .gameclock) hboards (hlive .gameclock)
  have hgames := games.consistent hboards
  have plays := LiveRows.path_clear (p := .playclock) (hnodup .playclock) hgames (hlive .playclock)
  exact (boards.append games).append plays

theorem path_removal (h : s.Integrity) {id : Int} {row : Fixture}
    (found : s.fixtures.rows.get? id = some row) :
    LiveRows.Path s.live (s.removal row id).changes (s.withoutFixture id).live := by
  have hrow : row.id = id := h.fixtures.own id row found
  have hparts := path_disowned h id
  have hfree (u : WatchedTable) (j : Int) : s.disowned id u j ≠ some (some id) := by
    rw [disowned_apply h]
    split_ifs with he
    · exact fun hn => by cases hn
    · exact he
  have hfixture : s.disowned id .fixture id = some none := by
    rw [disowned_apply h]
    simp [live, found]
  have hlast : (s.disowned id).set .fixture id none = (s.withoutFixture id).live := by
    funext u j
    rw [live_withoutFixture (fun p => (h.parts p).ordered), LiveRows.set, disowned_apply h]
    by_cases hu : u = .fixture ∧ j = id
    · rw [if_pos hu, if_pos (Or.inl hu)]
    · simp only [hu, false_or, if_false]
  have hmatch : LiveRows.Path (s.disowned id) [.deleted .fixture id none]
      (s.withoutFixture id).live := by
    refine .cons (LiveRows.apply_deleted hfixture)
      ((hparts.consistent h.live).set_none fun _ => hfree) ?_
    rw [hlast]
    exact .nil _
  rw [Removal.changes, removal, hrow]
  exact hparts.append hmatch

/-- The changes that a call tells of lead to the rows after it. -/
theorem Effect.path (e : s.Effect c changes s') (h : s.Integrity) (kept : s.KeepsOwner c) :
    LiveRows.Path s.live changes s'.live := by
  cases e with
  | still fixtures parts =>
    rw [live_congr fixtures parts]
    exact .nil _
  | @spent p draft id message next refused =>
    rw [live_setPart_last]
    exact .nil _
  | fixtureInserted next =>
    rw [live_insertFixture]
    exact .cons (LiveRows.apply_inserted none (fixture_eq_none_of_next h next))
      (h.live.set_fixture _) (.nil _)
  | @fixtureUpdated row found =>
    have hrow : s.live .fixture row.id = some none := live_fixture_eq_some.mpr ⟨rfl, found⟩
    rw [live_insertFixture, LiveRows.set_eq_self hrow]
    exact .cons (LiveRows.apply_updated hrow) h.live (.nil _)
  | fixtureDeleted found => exact path_removal h found
  | @partInserted p draft id row owned free next made =>
    obtain ⟨hid, howner⟩ := Part.make_ok made
    have hfixture : s.live .fixture (p.ownerId row) = some none :=
      live_fixture_eq_some.mpr ⟨rfl, howner ▸ owned⟩
    have hfree := findPartByMatch_eq_none free
    rw [live_setPart_insert, hid]
    exact .cons (LiveRows.apply_inserted _ (part_eq_none_of_next h next))
      (h.live.set_part id hfixture (howner ▸ hfree)) (.nil _)
  | @partOverwritten _ p old row writes found =>
    have hrow : s.live p.table (p.rowId row) = some (some (p.ownerId row)) :=
      live_part_eq_some.mpr ⟨old, found, congrArg some (kept p old row writes found)⟩
    rw [putPart, live_setPart_insert, LiveRows.set_eq_self hrow]
    exact .cons (LiveRows.apply_updated hrow) h.live (.nil _)
  | @partDeleted p id row found =>
    have hid : p.rowId row = id := (h.parts p).own id row found
    have hrow : s.live p.table id = some (some (p.ownerId row)) :=
      live_part_eq_some.mpr ⟨row, found, rfl⟩
    rw [live_setPart_erase, hid]
    exact .cons (LiveRows.apply_deleted hrow)
      (h.live.set_none fun he => absurd he p.table_ne_fixture) (.nil _)

theorem sound_setPart (h : ∀ q, (s.part q).Sound q.rowId) {p : Part} {t : Numbered p.Row}
    (ht : t.Sound p.rowId) (q : Part) : ((s.setPart p t).part q).Sound q.rowId := by
  by_cases hq : q = p
  · subst hq
    rwa [part_setPart_self]
  · rw [part_setPart_of_ne s t hq]
    exact h q

theorem Effect.integrity (e : s.Effect c changes s') (h : s.Integrity) (kept : s.KeepsOwner c) :
    s'.Integrity := by
  have hlive := (e.path h kept).consistent h.live
  cases e with
  | still fixtures parts =>
    refine ⟨fixtures ▸ h.fixtures, ?_, hlive⟩
    intro p
    rw [parts p]
    exact h.parts p
  | spent next refused =>
    exact ⟨by rw [fixtures_setPart]; exact h.fixtures, sound_setPart h.parts ((h.parts _).spend next),
      hlive⟩
  | fixtureInserted next => exact ⟨h.fixtures.insert_next next rfl, h.parts, hlive⟩
  | fixtureUpdated found =>
    obtain ⟨old, hold⟩ := Option.isSome_iff_exists.mp found
    exact ⟨h.fixtures.overwrite hold, h.parts, hlive⟩
  | @fixtureDeleted id row found =>
    refine ⟨h.fixtures.erase id, ?_, hlive⟩
    intro p
    rw [part_withoutFixture]
    exact (h.parts p).without _
  | partInserted owned free next made =>
    exact ⟨by rw [fixtures_setPart]; exact h.fixtures,
      sound_setPart h.parts ((h.parts _).insert_next next (Part.make_ok made).1), hlive⟩
  | partOverwritten writes found =>
    exact ⟨by rw [putPart, fixtures_setPart]; exact h.fixtures,
      sound_setPart h.parts ((h.parts _).overwrite found), hlive⟩
  | @partDeleted p id row found =>
    exact ⟨by rw [fixtures_setPart]; exact h.fixtures, sound_setPart h.parts ((h.parts p).erase id),
      hlive⟩

/-- A later store: sequences have not gone back, and of the ids that had been given out none has a
row that it did not have before. -/
structure Evolves (s s' : Store) : Prop where
  lastId : ∀ t, s.lastId t ≤ s'.lastId t
  live : ∀ t id, id ≤ s.lastId t → s'.live t id = none ∨ s'.live t id = s.live t id

theorem Evolves.refl (s : Store) : s.Evolves s :=
  ⟨fun _ => Int.le_refl _, fun _ _ _ => .inr rfl⟩

theorem Evolves.trans {s'' : Store} (h : s.Evolves s') (h' : s'.Evolves s'') : s.Evolves s'' := by
  refine ⟨fun t => Int.le_trans (h.lastId t) (h'.lastId t), ?_⟩
  intro t id hid
  rcases h'.live t id (Int.le_trans hid (h.lastId t)) with hnone | hsame
  · exact .inl hnone
  · rw [hsame]
    exact h.live t id hid

theorem lastId_setPart (s : Store) (p : Part) (t : Numbered p.Row) (u : WatchedTable) :
    (s.setPart p t).lastId u = if u = p.table then t.last else s.lastId u := by
  cases p <;> cases u <;> rfl

theorem lastId_le_setPart (s : Store) {p : Part} {t : Numbered p.Row}
    (le : (s.part p).last ≤ t.last) (u : WatchedTable) : s.lastId u ≤ (s.setPart p t).lastId u := by
  rw [lastId_setPart]
  split_ifs with hu
  · rw [hu, lastId_part]
    exact le
  · exact Int.le_refl _

theorem evolves_of_set {t : WatchedTable} {id : Int} {owner : Option (Option Int)}
    (lastId : ∀ u, s.lastId u ≤ s'.lastId u) (live : s'.live = s.live.set t id owner)
    (row : owner = none ∨ owner = s.live t id ∨ s.lastId t < id) : s.Evolves s' := by
  refine ⟨lastId, ?_⟩
  intro u j hj
  rw [live]
  by_cases he : u = t ∧ j = id
  · obtain ⟨rfl, rfl⟩ := he
    rw [LiveRows.set_self]
    rcases row with hnone | hsame | hlt
    · exact .inl hnone
    · exact .inr hsame
    · omega
  · exact .inr (LiveRows.set_of_ne s.live owner he)

theorem Effect.evolves (e : s.Effect c changes s') (h : s.Integrity) (kept : s.KeepsOwner c) :
    s.Evolves s' := by
  cases e with
  | still fixtures parts =>
    refine ⟨?_, fun t id _ => .inr (by rw [live_congr fixtures parts])⟩
    intro t
    rcases t.fixture_or_part with rfl | ⟨p, rfl⟩
    · simp only [Store.lastId, fixtures, Int.le_refl]
    · simp only [lastId_part, parts, Int.le_refl]
  | @spent p draft id message next refused =>
    have hid := Numbered.nextId?_eq_some next
    refine ⟨lastId_le_setPart s ?_, fun t j _ => .inr (by rw [live_setPart_last])⟩
    change (s.part p).last ≤ id
    omega
  | @fixtureInserted fields id next =>
    have hid := Numbered.nextId?_eq_some next
    refine evolves_of_set ?_ (live_insertFixture s id id ⟨id, fields⟩) (.inr (.inr ?_))
    · intro t
      cases t with
      | fixture =>
        change s.fixtures.last ≤ id
        omega
      | scoreboard | gameclock | playclock => exact Int.le_refl _
    · change s.fixtures.last < id
      omega
  | @fixtureUpdated row found =>
    have hrow : s.live .fixture row.id = some none := live_fixture_eq_some.mpr ⟨rfl, found⟩
    refine evolves_of_set ?_ (live_insertFixture s row.id _ row) (.inr (.inl hrow.symm))
    intro t
    cases t <;> exact Int.le_refl _
  | @fixtureDeleted id row found =>
    refine ⟨fun t => by cases t <;> exact Int.le_refl _, ?_⟩
    intro t j _
    rw [live_withoutFixture fun p => (h.parts p).ordered]
    split_ifs
    · exact .inl rfl
    · exact .inr rfl
  | @partInserted p draft id row owned free next made =>
    have hid := Numbered.nextId?_eq_some next
    refine evolves_of_set (lastId_le_setPart s ?_) (live_setPart_insert s p id id row)
      (.inr (.inr ?_))
    · change (s.part p).last ≤ id
      omega
    · rw [lastId_part]
      omega
  | @partOverwritten _ p old row writes found =>
    have hrow : s.live p.table (p.rowId row) = some (some (p.ownerId row)) :=
      live_part_eq_some.mpr ⟨old, found, congrArg some (kept p old row writes found)⟩
    exact evolves_of_set (lastId_le_setPart s (Int.le_refl _)) (live_setPart_insert s p _ _ row)
      (.inr (.inl hrow.symm))
  | @partDeleted p id row found =>
    exact evolves_of_set (lastId_le_setPart s (Int.le_refl _)) (live_setPart_erase s p id _) (.inl rfl)

theorem Integrity.live_le_lastId (h : s.Integrity) {u : WatchedTable} {id : Int}
    (present : s.live u id ≠ none) : id ≤ s.lastId u := by
  obtain ⟨owner, howner⟩ := Option.ne_none_iff_exists'.mp present
  rcases u.fixture_or_part with rfl | ⟨p, rfl⟩
  · obtain ⟨row, hrow⟩ := Option.isSome_iff_exists.mp (live_fixture_eq_some.mp howner).2
    exact (h.fixtures.given id row hrow).2
  · obtain ⟨row, hrow, -⟩ := live_part_eq_some.mp howner
    rw [lastId_part]
    exact ((h.parts p).given id row hrow).2

theorem Evolves.owner (h : s.Evolves s') (hs : s.Integrity) {u : WatchedTable} {id : Int}
    {owner owner' : Option Int} (live : s.live u id = some owner) (live' : s'.live u id = some owner') :
    owner' = owner := by
  have hid := hs.live_le_lastId (live ▸ Option.some_ne_none owner)
  rcases h.live u id hid with hnone | hsame
  · rw [hnone] at live'
    cases live'
  · rw [live, live'] at hsame
    exact Option.some.inj hsame

theorem Evolves.absent {s'' : Store} (h : s.Evolves s') (h' : s'.Evolves s'') (hs : s.Integrity)
    {u : WatchedTable} {id : Int} (present : s.live u id ≠ none) (absent : s'.live u id = none) :
    s''.live u id = none := by
  have hid := Int.le_trans (hs.live_le_lastId present) (h.lastId u)
  rcases h'.live u id hid with hnone | hsame
  · exact hnone
  · exact hsame.trans absent

end Store

end Matchday
