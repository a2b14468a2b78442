import Matchday.Proofs.Integrity

set_option autoImplicit false

namespace Matchday

def RowChange.Writes (change : RowChange) (t : WatchedTable) (id : Int) : Prop :=
  change.operation ≠ .delete ∧ change.table = t ∧ change.rowId = id

namespace Store

inductive RowFate (s : Store) (c : Call) (changes : List RowChange) (s' : Store) (p : Part)
    (id : Int) : Prop
  | kept (same : s'.findPart p id = s.findPart p id)
      (untold : ∀ change ∈ changes, ¬change.Writes p.table id)
  | gone (absent : s'.findPart p id = none)
  | inserted {draft : p.Draft} {row : p.Row} (fresh : s.lastId p.table < id)
      (made : p.make id draft = .ok row) (stored : s'.findPart p id = some row)
      (told : changes = [.inserted p.table id (some (p.ownerId row))])
  | overwritten {old row : p.Row} (writes : c.Overwrites p old row) (own : p.rowId row = id)
      (found : s.findPart p id = some old) (stored : s'.findPart p id = some row)
      (told : changes = [.updated p.table id (some (p.ownerId row))])

theorem findPart_setPart_self (s : Store) (p : Part) (t : Numbered p.Row) (id : Int) :
    (s.setPart p t).findPart p id = t.rows.get? id := by
  rw [findPart, part_setPart_self]

theorem findPart_setPart_of_ne (s : Store) {p q : Part} (t : Numbered p.Row) (id : Int) (h : q ≠ p) :
    (s.setPart p t).findPart q id = s.findPart q id := by
  rw [findPart, part_setPart_of_ne s t h, findPart]

theorem removal_changes_operation (r : Removal) {change : RowChange} (h : change ∈ r.changes) :
    change.operation = .delete := by
  simp only [Removal.changes, List.mem_append, List.mem_map, List.mem_singleton] at h
  rcases h with ((⟨j, -, rfl⟩ | ⟨j, -, rfl⟩) | ⟨j, -, rfl⟩) | rfl <;> rfl

theorem not_writes_of_ne {op : Operation} {t u : WatchedTable} {id j : Int} {owner : Option Int}
    (h : ¬(u = t ∧ j = id)) : ∀ change ∈ [RowChange.mk u op j owner], ¬change.Writes t id := by
  intro change hchange hwrites
  cases List.mem_singleton.mp hchange
  exact h hwrites.2

theorem Effect.rowFate {s s' : Store} {c : Call} {changes : List RowChange}
    (e : s.Effect c changes s') (h : s.Integrity) (p : Part) (id : Int) :
    s.RowFate c changes s' p id := by
  cases e with
  | still fixtures parts =>
    exact .kept (by rw [findPart, findPart, parts]) fun _ hm => absurd hm List.not_mem_nil
  | @spent q draft last message next refused =>
    refine .kept ?_ fun _ hm => absurd hm List.not_mem_nil
    by_cases hq : p = q
    · subst hq
      rw [findPart_setPart_self, findPart]
    · rw [findPart_setPart_of_ne s _ id hq]
  | fixtureInserted next =>
    refine .kept (by cases p <;> rfl) (not_writes_of_ne fun he => p.table_ne_fixture he.1.symm)
  | fixtureUpdated found =>
    refine .kept (by cases p <;> rfl) (not_writes_of_ne fun he => p.table_ne_fixture he.1.symm)
  | @fixtureDeleted m row found =>
    have hfind := findPart_withoutFixture (h.parts p).ordered m id
    cases hrow : s.findPart p id with
    | none =>
      rw [hrow] at hfind
      exact .gone hfind
    | some r =>
      rw [hrow] at hfind
      by_cases howner : p.ownerId r = m
      · exact .gone (by rw [hfind]; simp [howner])
      · refine .kept (by rw [hfind, hrow]; simp [howner]) ?_
        intro change hchange hwrites
        exact hwrites.1 (removal_changes_operation _ hchange)
  | @partInserted q draft j row owned free next made =>
    obtain ⟨hid, howner⟩ := Part.make_ok made
    by_cases hq : p = q
    · subst hq
      by_cases hj : id = j
      · subst hj
        have hnext := Numbered.nextId?_eq_some next
        refine .inserted (by rw [lastId_part]; omega) made ?_ (by rw [hid])
        rw [findPart_setPart_self, Table.get?_insert, if_pos rfl]
      · refine .kept ?_ (not_writes_of_ne fun he => hj (hid ▸ he.2.symm))
        rw [findPart_setPart_self, Table.get?_insert, if_neg hj, findPart]
    · exact .kept (findPart_setPart_of_ne s _ id hq)
        (not_writes_of_ne fun he => hq (Part.table_injective he.1).symm)
  | @partOverwritten _ q old row writes found =>
    by_cases hq : p = q
    · subst hq
      by_cases hj : id = p.rowId row
      · subst hj
        refine .overwritten writes rfl found ?_ rfl
        rw [putPart, findPart_setPart_self, Table.get?_insert, if_pos rfl]
      · refine .kept ?_ (not_writes_of_ne fun he => hj he.2.symm)
        rw [putPart, findPart_setPart_self, Table.get?_insert, if_neg hj, findPart]
    · exact .kept (findPart_setPart_of_ne s _ id hq)
        (not_writes_of_ne fun he => hq (Part.table_injective he.1).symm)
  | @partDeleted q j row found =>
    by_cases hq : p = q
    · subst hq
      by_cases hj : id = j
      · subst hj
        refine .gone ?_
        rw [findPart_setPart_self, Table.get?_erase, if_pos rfl]
      · refine .kept ?_ fun change hchange hwrites => ?_
        · rw [findPart_setPart_self, Table.get?_erase, if_neg hj, findPart]
        · cases List.mem_singleton.mp hchange
          exact hwrites.1 rfl
    · exact .kept (findPart_setPart_of_ne s _ id hq)
        (not_writes_of_ne fun he => hq (Part.table_injective he.1).symm)

end Store

end Matchday
