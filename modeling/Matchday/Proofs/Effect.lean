import Matchday.Proofs.LiveRows

set_option autoImplicit false

/-!
# What a call does to the rows

`Call.changes` reads off an answer which rows the call inserted, updated or removed, and
`Store.Effect` lists all that a call of the store in memory can do to its rows. The two agree:
`Store.effect_answer`.
-/
namespace Matchday

/-- The rows that a call inserted, updated or removed, in the order in which they are announced. -/
def Call.changes : (c : Call) → Answer c → List RowChange
  | .insertFixture _, .ok row => [.inserted .fixture row.id none]
  | .updateFixture row, .ok (some _) => [.updated .fixture row.id none]
  | .deleteFixture _, .ok (some removal) => removal.changes
  | .insert p _, .ok row => [.inserted p.table (p.rowId row) (some (p.ownerId row))]
  | .updateScoreboard _, .ok (some row) =>
    [.updated .scoreboard row.id (some row.fields.matchId)]
  | .updateClock k _ _, .ok row =>
    [.updated k.part.table (k.part.rowId row) (some (k.part.ownerId row))]
  | .delete p _, .ok (some row) => [.deleted p.table (p.rowId row) (some (p.ownerId row))]
  | _, _ => []

/-- The calls that put a row in the place of an older one; a clock's does so only where the older one
is at the version that the call names. -/
inductive Call.Overwrites : Call → (p : Part) → (old row : p.Row) → Prop
  | scoreboard (old row : Scoreboard) : Overwrites (.updateScoreboard row) .scoreboard old row
  | clock (k : ClockKind) (old row : k.Row) :
    Overwrites (.updateClock k row (k.version old)) k.part old row

namespace Store

def removal (s : Store) (row : Fixture) (id : Int) : Removal :=
  ⟨row, s.ownedIds .scoreboard id, s.ownedIds .gameclock id, s.ownedIds .playclock id⟩

/-- What a call can do to the rows: the changes it makes and the store after it. -/
inductive Effect (s : Store) : Call → List RowChange → Store → Prop
  | still {c : Call} {s' : Store} (fixtures : s'.fixtures = s.fixtures)
      (parts : ∀ p, s'.part p = s.part p) : Effect s c [] s'
  | spent {p : Part} {draft : p.Draft} {id : Int} {message : String}
      (next : (s.part p).nextId? = some id) (refused : p.make id draft = .error message) :
    Effect s (.insert p draft) [] (s.setPart p { s.part p with last := id })
  | fixtureInserted {fields : FixtureDraft} {id : Int} (next : s.fixtures.nextId? = some id) :
    Effect s (.insertFixture fields) [.inserted .fixture id none]
      { s with fixtures := ⟨s.fixtures.rows.insert id ⟨id, fields⟩, id⟩ }
  | fixtureUpdated {row : Fixture} (found : s.fixtures.rows.contains row.id = true) :
    Effect s (.updateFixture row) [.updated .fixture row.id none]
      { s with fixtures.rows := s.fixtures.rows.insert row.id row }
  | fixtureDeleted {id : Int} {row : Fixture} (found : s.fixtures.rows.get? id = some row) :
    Effect s (.deleteFixture id) (s.removal row id).changes (s.withoutFixture id)
  | partInserted {p : Part} {draft : p.Draft} {id : Int} {row : p.Row}
      (owned : s.fixtures.rows.contains (p.draftOwner draft) = true)
      (free : s.findPartByMatch p (p.draftOwner draft) = none)
      (next : (s.part p).nextId? = some id) (made : p.make id draft = .ok row) :
    Effect s (.insert p draft) [.inserted p.table (p.rowId row) (some (p.ownerId row))]
      (s.setPart p ⟨(s.part p).rows.insert id row, id⟩)
  | partOverwritten {c : Call} {p : Part} {old row : p.Row} (writes : c.Overwrites p old row)
      (found : s.findPart p (p.rowId row) = some old) :
    Effect s c [.updated p.table (p.rowId row) (some (p.ownerId row))] (s.putPart p row)
  | partDeleted {p : Part} {id : Int} {row : p.Row} (found : s.findPart p id = some row) :
    Effect s (.delete p id) [.deleted p.table (p.rowId row) (some (p.ownerId row))]
      (s.setPart p { s.part p with rows := (s.part p).rows.erase id })

theorem effect_insertPart (s : Store) (p : Part) (draft : p.Draft) :
    s.Effect (.insert p draft) (Call.changes (.insert p draft) (s.insertPart p draft).1)
      (s.insertPart p draft).2 := by
  cases howner : s.fixtures.rows.contains (p.draftOwner draft) with
  | false =>
    have h : s.insertPart p draft = (.error (p.unknownMatch (p.draftOwner draft)), s) := by
      simp [insertPart, howner]
    rw [h]
    exact .still rfl fun _ => rfl
  | true =>
    cases hfree : s.findPartByMatch p (p.draftOwner draft) with
    | some row =>
      have h : s.insertPart p draft = (.error (p.duplicate (p.draftOwner draft)), s) := by
        simp [insertPart, howner, hfree]
      rw [h]
      exact .still rfl fun _ => rfl
    | none =>
      cases hnext : (s.part p).nextId? with
      | none =>
        have h : s.insertPart p draft = (.error (p.access (exhausted p.repository)), s) := by
          simp [insertPart, howner, hfree, hnext]
        rw [h]
        exact .still rfl fun _ => rfl
      | some id =>
        cases hmade : p.make id draft with
        | error message =>
          have h : s.insertPart p draft =
              (.error (p.access (.query message)), s.setPart p { s.part p with last := id }) := by
            simp [insertPart, howner, hfree, hnext, hmade]
          rw [h]
          exact .spent hnext hmade
        | ok row =>
          have h : s.insertPart p draft =
              (.ok row, s.setPart p ⟨(s.part p).rows.insert id row, id⟩) := by
            simp [insertPart, howner, hfree, hnext, hmade]
          rw [h]
          exact .partInserted howner hfree hnext hmade

theorem updateClock_cases (s : Store) (k : ClockKind) (row : k.Row) (previous : Version) :
    (∃ old, s.findPart k.part (k.part.rowId row) = some old ∧ k.version old = previous ∧
        s.updateClock k row previous = (.ok row, s.putPart k.part row)) ∨
      ∃ fault, s.updateClock k row previous = (.error fault, s) := by
  rw [updateClock]
  cases hfound : s.findPart k.part (k.part.rowId row) with
  | none => exact .inr ⟨_, rfl⟩
  | some old =>
    by_cases hv : k.version old = previous
    · exact .inl ⟨old, rfl, hv, by simp only [hv, if_true]⟩
    · exact .inr ⟨.versionMismatch previous.number (k.version old).number, by simp only [hv, if_false]⟩

/-- All that the store's answer to a call can do, with the changes that the answer tells. -/
theorem effect_answer (s : Store) (now : Instant) (c : Call) :
    s.Effect c (c.changes (s.answer now c).1) (s.answer now c).2 := by
  cases c with
  | insertFixture fields =>
    simp only [answer, insertFixture]
    cases hnext : s.fixtures.nextId? with
    | none => exact .still rfl fun _ => rfl
    | some id => exact .fixtureInserted hnext
  | updateFixture row =>
    simp only [answer, updateFixture]
    cases hfound : s.fixtures.rows.contains row.id with
    | false => exact .still rfl fun _ => rfl
    | true => exact .fixtureUpdated hfound
  | deleteFixture id =>
    simp only [answer, deleteFixture]
    cases hfound : s.fixtures.rows.get? id with
    | none => exact .still rfl fun _ => rfl
    | some row => exact .fixtureDeleted hfound
  | insert p draft => exact s.effect_insertPart p draft
  | updateScoreboard row =>
    simp only [answer, updateScoreboard]
    cases hfound : s.scoreboards.rows.get? row.id with
    | none =>
      simp only [Table.contains, hfound, Option.isSome_none, Bool.false_eq_true, if_false]
      exact .still rfl fun _ => rfl
    | some old =>
      simp only [Table.contains, hfound, Option.isSome_some, if_true]
      exact .partOverwritten (.scoreboard old row) hfound
  | updateClock k row previous =>
    rcases s.updateClock_cases k row previous with ⟨old, hfound, rfl, hupdate⟩ | ⟨fault, hupdate⟩
    · simp only [answer, hupdate]
      exact .partOverwritten (.clock k old row) hfound
    · simp only [answer, hupdate]
      exact .still rfl fun _ => rfl
  | delete p id =>
    simp only [answer, deletePart]
    cases hfound : s.findPart p id with
    | none => exact .still rfl fun _ => rfl
    | some row => exact .partDeleted hfound
  | findFixture _ | find _ _ | findByMatch _ _ | findThrottle _ => exact .still rfl fun _ => rfl
  | touchThrottle _ _ | deleteThrottle _ => exact .still rfl fun p => by cases p <;> rfl

end Store

def Call.throttled? : Call → Option Int
  | touchThrottle m _ | deleteThrottle m => some m
  | _ => none

@[simp] theorem Store.throttle_setPart (s : Store) (p : Part) (t : Numbered p.Row) :
    (s.setPart p t).throttle = s.throttle := by
  cases p <;> rfl

theorem Store.throttle_answer {s : Store} {now : Instant} {c : Call} (other : c.throttled? = none) :
    (s.answer now c).2.throttle = s.throttle := by
  cases c with
  | touchThrottle m time | deleteThrottle m => cases other
  | findFixture id | find p id | findByMatch p m | findThrottle m => rfl
  | insertFixture fields =>
    simp only [answer, insertFixture]
    split <;> rfl
  | updateFixture row =>
    simp only [answer, updateFixture]
    split <;> rfl
  | deleteFixture id =>
    simp only [answer, deleteFixture]
    split <;> rfl
  | insert p draft =>
    simp only [answer, insertPart]
    split_ifs
    · rfl
    · rfl
    · split
      · rfl
      · split <;> exact s.throttle_setPart p _
  | updateScoreboard row =>
    simp only [answer, updateScoreboard]
    split <;> rfl
  | updateClock k row previous =>
    rcases s.updateClock_cases k row previous with ⟨old, -, -, hupdate⟩ | ⟨fault, hupdate⟩
    · simp only [answer, hupdate, putPart, throttle_setPart]
    · simp only [answer, hupdate]
  | delete p id =>
    simp only [answer, deletePart]
    split
    · rfl
    · exact s.throttle_setPart p _

theorem Store.ordered_throttle {s : Store} {now : Instant} {c : Call} (h : s.throttle.Ordered) :
    (s.answer now c).2.throttle.Ordered := by
  cases c with
  | touchThrottle m time => exact Table.ordered_insert h m _
  | deleteThrottle m => exact Table.ordered_erase h m
  | _ =>
    rw [Store.throttle_answer rfl]
    exact h

end Matchday
