import Matchday.Proofs.Table
import Matchday.Store.Memory

set_option autoImplicit false

/-!
# The rows that exist

`Store.live` shows of a store only which rows there are and which match owns each of them. Every
write of the store changes this view at one row, the deletion of a match apart.
-/
namespace Matchday

theorem Part.table_injective {p q : Part} (h : p.table = q.table) : p = q := by
  cases p <;> cases q <;> first | rfl | cases h

theorem Part.table_ne_fixture (p : Part) : p.table ≠ .fixture := by
  cases p <;> decide

theorem WatchedTable.fixture_or_part (t : WatchedTable) : t = .fixture ∨ ∃ p : Part, t = p.table := by
  cases t with
  | fixture => exact .inl rfl
  | scoreboard => exact .inr ⟨.scoreboard, rfl⟩
  | gameclock => exact .inr ⟨.gameclock, rfl⟩
  | playclock => exact .inr ⟨.playclock, rfl⟩

theorem Part.make_ok {p : Part} {id : Int} {draft : p.Draft} {row : p.Row}
    (h : p.make id draft = .ok row) : p.rowId row = id ∧ p.ownerId row = p.draftOwner draft := by
  cases p with
  | scoreboard =>
    simp only [Part.make, Scoreboard.make] at h
    cases hc : ScoreboardDraft.check draft <;> rw [hc] at h <;> cases h
    exact ⟨rfl, rfl⟩
  | gameclock =>
    simp only [Part.make, GameClock.make] at h
    cases hc : GameClockDraft.check draft <;> rw [hc] at h <;> cases h
    exact ⟨rfl, rfl⟩
  | playclock =>
    simp only [Part.make, PlayClock.make] at h
    cases hc : PlayClockDraft.check draft <;> rw [hc] at h <;> cases h
    exact ⟨rfl, rfl⟩

/-- For each table and id, the owning match of the row there, if there is a row. -/
abbrev LiveRows := WatchedTable → Int → Option (Option Int)

namespace LiveRows

def empty : LiveRows := fun _ _ => none

/-- The rows with one row put in or, for `none`, taken out. -/
def set (rows : LiveRows) (t : WatchedTable) (id : Int) (owner : Option (Option Int)) : LiveRows :=
  fun u j => if u = t ∧ j = id then owner else rows u j

theorem set_self (rows : LiveRows) (t : WatchedTable) (id : Int) (owner : Option (Option Int)) :
    rows.set t id owner t id = owner :=
  if_pos ⟨rfl, rfl⟩

theorem set_of_ne (rows : LiveRows) {t u : WatchedTable} {id j : Int} (owner : Option (Option Int))
    (h : ¬(u = t ∧ j = id)) : rows.set t id owner u j = rows u j :=
  if_neg h

theorem set_eq_self {rows : LiveRows} {t : WatchedTable} {id : Int} {owner : Option (Option Int)}
    (h : rows t id = owner) : rows.set t id owner = rows := by
  funext u j
  by_cases huj : u = t ∧ j = id
  · rw [set, if_pos huj, huj.1, huj.2, h]
  · exact set_of_ne rows owner huj

end LiveRows

namespace Store

def live (s : Store) : LiveRows
  | .fixture, id => (s.fixtures.rows.get? id).map fun _ => none
  | .scoreboard, id => (s.findPart .scoreboard id).map fun r => some (Part.ownerId .scoreboard r)
  | .gameclock, id => (s.findPart .gameclock id).map fun r => some (Part.ownerId .gameclock r)
  | .playclock, id => (s.findPart .playclock id).map fun r => some (Part.ownerId .playclock r)

def lastId (s : Store) : WatchedTable → Int
  | .fixture => s.fixtures.last
  | .scoreboard => s.scoreboards.last
  | .gameclock => s.gameclocks.last
  | .playclock => s.playclocks.last

theorem live_part (s : Store) (p : Part) (id : Int) :
    s.live p.table id = (s.findPart p id).map fun r => some (p.ownerId r) := by
  cases p <;> rfl

theorem lastId_part (s : Store) (p : Part) : s.lastId p.table = (s.part p).last := by
  cases p <;> rfl

theorem live_fixture_eq_some {s : Store} {id : Int} {owner : Option Int} :
    s.live .fixture id = some owner ↔ owner = none ∧ s.fixtures.rows.contains id = true := by
  simp only [live, Table.contains]
  cases s.fixtures.rows.get? id <;> simp [eq_comm]

theorem live_part_eq_some {s : Store} {p : Part} {id : Int} {owner : Option Int} :
    s.live p.table id = some owner ↔ ∃ r, s.findPart p id = some r ∧ some (p.ownerId r) = owner := by
  rw [live_part, Option.map_eq_some_iff]

theorem live_part_eq_none {s : Store} {p : Part} {id : Int} :
    s.live p.table id = none ↔ s.findPart p id = none := by
  rw [live_part, Option.map_eq_none_iff]

@[simp] theorem part_setPart_self (s : Store) (p : Part) (t : Numbered p.Row) :
    (s.setPart p t).part p = t := by
  cases p <;> rfl

theorem part_setPart_of_ne (s : Store) {p q : Part} (t : Numbered p.Row) (h : q ≠ p) :
    (s.setPart p t).part q = s.part q := by
  cases p <;> cases q <;> first | rfl | exact absurd rfl h

@[simp] theorem fixtures_setPart (s : Store) (p : Part) (t : Numbered p.Row) :
    (s.setPart p t).fixtures = s.fixtures := by
  cases p <;> rfl

theorem live_setPart (s : Store) (p : Part) (t : Numbered p.Row) (u : WatchedTable) (j : Int) :
    (s.setPart p t).live u j =
      if u = p.table then (t.rows.get? j).map fun r => some (p.ownerId r) else s.live u j := by
  rcases u.fixture_or_part with rfl | ⟨q, rfl⟩
  · rw [if_neg (Ne.symm p.table_ne_fixture)]
    simp only [live, fixtures_setPart]
  · by_cases hq : q = p
    · subst hq
      rw [if_pos rfl, live_part, findPart, part_setPart_self]
    · rw [if_neg fun h => hq (Part.table_injective h), live_part, live_part, findPart, findPart,
        part_setPart_of_ne s t hq]

theorem live_setPart_insert (s : Store) (p : Part) (id last : Int) (row : p.Row) :
    (s.setPart p ⟨(s.part p).rows.insert id row, last⟩).live =
      s.live.set p.table id (some (some (p.ownerId row))) := by
  funext u j
  rw [live_setPart, LiveRows.set]
  by_cases hu : u = p.table
  · subst hu
    rw [if_pos rfl, Table.get?_insert, live_part, findPart]
    by_cases hj : j = id <;> simp [hj]
  · rw [if_neg hu, if_neg fun h => hu h.1]

theorem live_setPart_erase (s : Store) (p : Part) (id last : Int) :
    (s.setPart p ⟨(s.part p).rows.erase id, last⟩).live = s.live.set p.table id none := by
  funext u j
  rw [live_setPart, LiveRows.set]
  by_cases hu : u = p.table
  · subst hu
    rw [if_pos rfl, Table.get?_erase, live_part, findPart]
    by_cases hj : j = id <;> simp [hj]
  · rw [if_neg hu, if_neg fun h => hu h.1]

theorem live_setPart_last (s : Store) (p : Part) (last : Int) :
    (s.setPart p { s.part p with last := last }).live = s.live := by
  funext u j
  rw [live_setPart]
  split_ifs with hu
  · subst hu
    rw [live_part, findPart]
  · rfl

theorem live_insertFixture (s : Store) (id last : Int) (row : Fixture) :
    Store.live { s with fixtures := ⟨s.fixtures.rows.insert id row, last⟩ } =
      s.live.set .fixture id (some none) := by
  funext u j
  cases u with
  | fixture =>
    simp only [live, LiveRows.set, Table.get?_insert]
    by_cases hj : j = id <;> simp [hj]
  | scoreboard | gameclock | playclock => rfl

def withoutFixture (s : Store) (id : Int) : Store :=
  ((({ s with fixtures.rows := s.fixtures.rows.erase id }).dropOwned .scoreboard id).dropOwned
    .gameclock id).dropOwned .playclock id

theorem fixtures_withoutFixture (s : Store) (id : Int) :
    (s.withoutFixture id).fixtures = { s.fixtures with rows := s.fixtures.rows.erase id } := rfl

theorem part_withoutFixture (s : Store) (p : Part) (id : Int) :
    (s.withoutFixture id).part p =
      { s.part p with rows := (s.part p).rows.without fun r => p.ownerId r == id } := by
  cases p <;> rfl

theorem findPart_withoutFixture {s : Store} {p : Part} (hp : (s.part p).rows.Ordered) (id j : Int) :
    (s.withoutFixture id).findPart p j = (s.findPart p j).filter fun r => !(p.ownerId r == id) := by
  rw [findPart, part_withoutFixture]
  exact Table.get?_without hp _ j

theorem live_withoutFixture {s : Store} (hs : ∀ p, (s.part p).rows.Ordered) (id : Int)
    (u : WatchedTable) (j : Int) :
    (s.withoutFixture id).live u j =
      if (u = .fixture ∧ j = id) ∨ s.live u j = some (some id) then none else s.live u j := by
  rcases u.fixture_or_part with rfl | ⟨p, rfl⟩
  · simp only [true_and, live, fixtures_withoutFixture, Table.get?_erase]
    by_cases hj : j = id <;> simp [hj]
  · rw [live_part, live_part, findPart_withoutFixture (hs p)]
    simp only [p.table_ne_fixture, false_and, false_or]
    cases s.findPart p j with
    | none => simp
    | some r =>
      by_cases hr : p.ownerId r = id <;> simp [Option.filter, hr]

end Store

end Matchday
