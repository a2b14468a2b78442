import Matchday.Proofs.Effect

set_option autoImplicit false

namespace Matchday.LiveRows

def apply (rows : LiveRows) (e : ChangeEvent) : Option LiveRows :=
  match e.operation, e.newId with
  | .insert, some id =>
    if rows e.table id = none then some (rows.set e.table id (some e.matchId)) else none
  | .update, some id => if rows e.table id = some e.matchId then some rows else none
  | .delete, none =>
    if rows e.table e.oldId = some e.matchId then some (rows.set e.table e.oldId none) else none
  | _, _ => none

/-- The rows after a log of events, the newest of them first. -/
def replay : List ChangeEvent → Option LiveRows
  | [] => some empty
  | e :: earlier => (replay earlier).bind fun rows => rows.apply e

structure Consistent (rows : LiveRows) : Prop where
  owned : ∀ t id m, rows t id = some (some m) → rows .fixture m = some none
  unique : ∀ t id id' m, rows t id = some (some m) → rows t id' = some (some m) → id = id'

theorem consistent_empty : empty.Consistent := by
  constructor
  · intro t id m h
    cases h
  · intro t id id' m h
    cases h

theorem Consistent.set_fixture {rows : LiveRows} (h : rows.Consistent) (id : Int) :
    (rows.set .fixture id (some none)).Consistent := by
  have owned_of {t : WatchedTable} {j m : Int}
      (hj : rows.set .fixture id (some none) t j = some (some m)) : rows t j = some (some m) := by
    by_cases he : t = .fixture ∧ j = id
    · rw [set, if_pos he] at hj
      cases hj
    · rwa [set_of_ne rows _ he] at hj
  constructor
  · intro t j m hj
    by_cases hm : m = id
    · rw [hm, set_self]
    · rw [set_of_ne rows _ fun he => hm he.2]
      exact h.owned t j m (owned_of hj)
  · intro t j j' m hj hj'
    exact h.unique t j j' m (owned_of hj) (owned_of hj')

theorem Consistent.set_part {rows : LiveRows} (h : rows.Consistent) {p : Part} {m : Int} (id : Int)
    (owner : rows .fixture m = some none) (free : ∀ j, rows p.table j ≠ some (some m)) :
    (rows.set p.table id (some (some m))).Consistent := by
  have fixture (j : Int) : rows.set p.table id (some (some m)) .fixture j = rows .fixture j :=
    set_of_ne rows _ fun he => p.table_ne_fixture he.1.symm
  constructor
  · intro t j n hj
    rw [fixture]
    by_cases he : t = p.table ∧ j = id
    · rw [set, if_pos he] at hj
      cases hj
      exact owner
    · rw [set_of_ne rows _ he] at hj
      exact h.owned t j n hj
  · intro t j j' n hj hj'
    by_cases he : t = p.table ∧ j = id <;> by_cases he' : t = p.table ∧ j' = id
    · exact he.2.trans he'.2.symm
    · rw [set, if_pos he] at hj
      rw [set_of_ne rows _ he', he.1] at hj'
      cases hj
      exact absurd hj' (free j')
    · rw [set, if_pos he'] at hj'
      rw [set_of_ne rows _ he, he'.1] at hj
      cases hj'
      exact absurd hj (free j)
    · rw [set_of_ne rows _ he] at hj
      rw [set_of_ne rows _ he'] at hj'
      exact h.unique t j j' n hj hj'

theorem Consistent.set_none {rows : LiveRows} (h : rows.Consistent) {t : WatchedTable} {id : Int}
    (free : t = .fixture → ∀ u j, rows u j ≠ some (some id)) : (rows.set t id none).Consistent := by
  have of_set {u : WatchedTable} {j m : Int} (hj : rows.set t id none u j = some (some m)) :
      rows u j = some (some m) := by
    by_cases he : u = t ∧ j = id
    · rw [set, if_pos he] at hj
      cases hj
    · rwa [set_of_ne rows _ he] at hj
  constructor
  · intro u j m hj
    by_cases he : .fixture = t ∧ m = id
    · exact absurd (he.2 ▸ of_set hj) (free he.1.symm u j)
    · rw [set_of_ne rows _ he]
      exact h.owned u j m (of_set hj)
  · intro u j j' m hj hj'
    exact h.unique u j j' m (of_set hj) (of_set hj')

/-- Changes that can be applied one after another, through consistent rows only. -/
inductive Path : LiveRows → List RowChange → LiveRows → Prop
  | nil (rows : LiveRows) : Path rows [] rows
  | cons {rows mid rows' : LiveRows} {c : RowChange} {changes : List RowChange}
      (step : rows.apply (.ofRowChange c) = some mid) (consistent : mid.Consistent)
      (rest : Path mid changes rows') : Path rows (c :: changes) rows'

theorem Path.append {a b c : LiveRows} {xs ys : List RowChange} (h : Path a xs b)
    (h' : Path b ys c) : Path a (xs ++ ys) c := by
  induction h with
  | nil _ => exact h'
  | cons step consistent _ ih => exact .cons step consistent (ih h')

theorem Path.consistent {a b : LiveRows} {xs : List RowChange} (h : Path a xs b)
    (ha : a.Consistent) : b.Consistent := by
  induction h with
  | nil _ => exact ha
  | cons _ consistent _ ih => exact ih consistent

theorem apply_inserted {rows : LiveRows} {t : WatchedTable} {id : Int} (owner : Option Int)
    (h : rows t id = none) :
    rows.apply (.ofRowChange (.inserted t id owner)) = some (rows.set t id (some owner)) :=
  if_pos h

theorem apply_updated {rows : LiveRows} {t : WatchedTable} {id : Int} {owner : Option Int}
    (h : rows t id = some owner) :
    rows.apply (.ofRowChange (.updated t id owner)) = some rows :=
  if_pos h

theorem apply_deleted {rows : LiveRows} {t : WatchedTable} {id : Int} {owner : Option Int}
    (h : rows t id = some owner) :
    rows.apply (.ofRowChange (.deleted t id owner)) = some (rows.set t id none) :=
  if_pos h

def clear (rows : LiveRows) (t : WatchedTable) (ids : List Int) : LiveRows :=
  fun u j => if u = t ∧ j ∈ ids then none else rows u j

theorem path_clear {p : Part} {m : Int} {ids : List Int} (nodup : ids.Nodup) {rows : LiveRows}
    (h : rows.Consistent) (present : ∀ id ∈ ids, rows p.table id = some (some m)) :
    Path rows (ids.map (RowChange.deleted p.table · (some m))) (rows.clear p.table ids) := by
  induction ids generalizing rows with
  | nil =>
    have hclear : rows.clear p.table [] = rows := by
      funext u j
      exact if_neg fun he => List.not_mem_nil he.2
    rw [hclear]
    exact .nil rows
  | cons id rest ih =>
    obtain ⟨hid, hrest⟩ := List.nodup_cons.mp nodup
    have hset : (rows.set p.table id none).Consistent :=
      h.set_none fun he => absurd he p.table_ne_fixture
    have hpresent : ∀ j ∈ rest, rows.set p.table id none p.table j = some (some m) := by
      intro j hj
      have hne : j ≠ id := fun he => hid (he ▸ hj)
      rw [set_of_ne rows _ fun he => hne he.2]
      exact present j (List.mem_cons_of_mem _ hj)
    have hclear : (rows.set p.table id none).clear p.table rest = rows.clear p.table (id :: rest) := by
      funext u j
      simp only [clear, set, List.mem_cons]
      by_cases hu : u = p.table <;> by_cases hj : j = id <;> simp [hu, hj]
    refine .cons (apply_deleted (present id List.mem_cons_self)) hset ?_
    rw [← hclear]
    exact ih hrest hset hpresent

/-- A log that replays to these rows, through consistent rows after each part of it. -/
structure Mirrors (log : List ChangeEvent) (rows : LiveRows) : Prop where
  replayed : replay log = some rows
  consistent : ∀ earlier, earlier <:+ log → ∃ mid, replay earlier = some mid ∧ mid.Consistent

theorem mirrors_nil : Mirrors [] empty := by
  refine ⟨rfl, ?_⟩
  intro earlier h
  rw [List.suffix_nil.mp h]
  exact ⟨empty, rfl, consistent_empty⟩

theorem Mirrors.cons {log : List ChangeEvent} {rows mid : LiveRows} {e : ChangeEvent}
    (h : Mirrors log rows) (step : rows.apply e = some mid) (consistent : mid.Consistent) :
    Mirrors (e :: log) mid := by
  have hreplay : replay (e :: log) = some mid := by
    rw [replay, h.replayed]
    exact step
  refine ⟨hreplay, ?_⟩
  intro earlier hsuffix
  rcases List.suffix_cons_iff.mp hsuffix with rfl | hsuffix
  · exact ⟨mid, hreplay, consistent⟩
  · exact h.consistent earlier hsuffix

theorem Mirrors.path {log : List ChangeEvent} {rows rows' : LiveRows} {changes : List RowChange}
    (h : Mirrors log rows) (path : Path rows changes rows') :
    Mirrors (changes.reverse.map ChangeEvent.ofRowChange ++ log) rows' := by
  induction path generalizing log with
  | nil _ => exact h
  | cons step consistent _ ih =>
    have hnext := ih (h.cons step consistent)
    simpa only [List.reverse_cons, List.map_append, List.map_cons, List.map_nil, List.append_assoc,
      List.singleton_append] using hnext

end Matchday.LiveRows
