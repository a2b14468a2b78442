import Matchday.Proofs.Execution

set_option autoImplicit false

/-!
# What belongs to other matches

Every row and throttle entry belongs to one match. A program that concerns one match leaves what belongs
to others as it was (`Prog.Concerns.frame`), and does the same in two stores that differ only in what
belongs to another match (`Prog.Concerns.simulates`). So programs that concern different matches commute
(`Prog.exec_comm`).
-/
namespace Matchday

namespace Table

variable {α : Type} {owner : Int → α → Int} {m k : Int} {t u v : Table α} {a : α}

/-- The tables have the same entries but for those of one owner. -/
def AgreeBut (owner : Int → α → Int) (m : Int) (t u : Table α) : Prop :=
  ∀ j a, owner j a ≠ m → (u.get? j = some a ↔ t.get? j = some a)

theorem AgreeBut.refl (t : Table α) : AgreeBut owner m t t := fun _ _ _ => Iff.rfl

theorem AgreeBut.trans (h : AgreeBut owner m t u) (h' : AgreeBut owner m u v) : AgreeBut owner m t v :=
  fun j a hne => (h' j a hne).trans (h j a hne)

theorem AgreeBut.symm (h : AgreeBut owner m t u) : AgreeBut owner m u t :=
  fun j a hne => (h j a hne).symm

theorem agreeBut_insert (new : owner k a = m) (old : ∀ b, t.get? k = some b → owner k b = m) :
    AgreeBut owner m t (t.insert k a) := by
  intro j b hne
  rw [get?_insert]
  split_ifs with hj
  · subst hj
    constructor
    · rintro ⟨⟩
      exact absurd new hne
    · intro hb
      exact absurd (old b hb) hne
  · rfl

theorem agreeBut_erase (old : ∀ b, t.get? k = some b → owner k b = m) :
    AgreeBut owner m t (t.erase k) := by
  intro j b hne
  rw [get?_erase]
  split_ifs with hj
  · subst hj
    exact ⟨nofun, fun hb => absurd (old b hb) hne⟩
  · rfl

theorem agreeBut_without (ht : t.Ordered) {p : α → Bool} (gone : ∀ j a, p a = true → owner j a = m) :
    AgreeBut owner m t (t.without p) := by
  intro j a hne
  have hkept : p a = false := Bool.eq_false_iff.mpr fun hp => hne (gone j a hp)
  rw [get?_without ht, Option.filter_eq_some_iff]
  simp [hkept]

theorem AgreeBut.insert (h : AgreeBut owner m t u) (k : Int) (a : α) :
    AgreeBut owner m (t.insert k a) (u.insert k a) := by
  intro j b hne
  rw [get?_insert, get?_insert]
  split_ifs
  · rfl
  · exact h j b hne

theorem AgreeBut.erase (h : AgreeBut owner m t u) (k : Int) :
    AgreeBut owner m (t.erase k) (u.erase k) := by
  intro j b hne
  rw [get?_erase, get?_erase]
  split_ifs
  · rfl
  · exact h j b hne

theorem AgreeBut.without (h : AgreeBut owner m t u) (ht : t.Ordered) (hu : u.Ordered) (p : α → Bool) :
    AgreeBut owner m (t.without p) (u.without p) := by
  intro j a hne
  simp only [get?_without ht, get?_without hu, Option.filter_eq_some_iff, h j a hne]

theorem AgreeBut.get? (h : AgreeBut owner m t u) (ht : ∀ a, t.get? k = some a → owner k a ≠ m)
    (hu : ∀ a, u.get? k = some a → owner k a ≠ m) : u.get? k = t.get? k := by
  ext a
  constructor
  · intro ha
    exact (h k a (hu a ha)).mp ha
  · intro ha
    exact (h k a (ht a ha)).mpr ha

theorem AgreeBut.without_eq (h : AgreeBut owner m t u) (ht : t.Ordered) (hu : u.Ordered) {p : α → Bool}
    (others : ∀ j a, p a = true → owner j a ≠ m) :
    (u.without fun a => !p a) = t.without fun a => !p a := by
  refine ext_get? (ordered_without hu _) (ordered_without ht _) ?_
  intro j
  rw [get?_without ht, get?_without hu]
  ext a
  simp only [Option.filter_eq_some_iff, Bool.not_not]
  constructor
  · rintro ⟨ha, hp⟩
    exact ⟨(h j a (others j a hp)).mp ha, hp⟩
  · rintro ⟨ha, hp⟩
    exact ⟨(h j a (others j a hp)).mpr ha, hp⟩

theorem keysWhere_eq (t : Table α) (p : α → Bool) :
    t.keysWhere p = (t.without fun a => !p a).entries.map Prod.fst := by
  simp [keysWhere, without]

theorem find?_eq_head? (t : Table α) (p : α → Bool) :
    t.find? p = (t.without fun a => !p a).entries.head?.map Prod.snd := by
  simp only [find?, values, without, List.find?_map, List.head?_filter, Bool.not_not]
  rfl

theorem eq_of_agreeBut (ht : t.Ordered) (hu : u.Ordered) {n : Int} (ne : m ≠ n)
    (h : AgreeBut owner m t u) (h' : AgreeBut owner n t u) : u = t := by
  refine ext_get? hu ht ?_
  intro j
  ext a
  by_cases howner : owner j a = m
  · exact h' j a (howner ▸ ne)
  · exact h j a howner

end Table

/-- The second table of a part has the rows of the first, but for those of one match; of that it has no row
that the first does not have. -/
structure Part.Apart (p : Part) (m : Int) (x y : Numbered p.Row) : Prop where
  rows : x.rows.AgreeBut (fun _ r => p.ownerId r) m y.rows
  last : y.last = x.last
  fewer : ∀ id, x.rows.get? id = none → y.rows.get? id = none

theorem Part.Apart.refl {p : Part} {m : Int} (x : Numbered p.Row) : p.Apart m x x :=
  ⟨.refl _, rfl, fun _ h => h⟩

theorem Part.Apart.get? {p : Part} {m : Int} {x y : Numbered p.Row} (h : p.Apart m x y) {id : Int}
    (others : ∀ row, x.rows.get? id = some row → p.ownerId row ≠ m) :
    y.rows.get? id = x.rows.get? id := by
  refine h.rows.get? others ?_
  intro row hrow
  have hsome : x.rows.get? id ≠ none := by
    intro hnone
    cases (h.fewer id hnone).symm.trans hrow
  obtain ⟨old, hold⟩ := Option.ne_none_iff_exists'.mp hsome
  have hsame := (h.rows id old (others old hold)).mpr hold
  cases hrow.symm.trans hsame
  exact others row hold

namespace Store

structure Orderly (s : Store) : Prop where
  integrity : s.Integrity
  throttle : s.throttle.Ordered

/-- The store `t` has what `s` has, but for what belongs to one match. -/
structure Apart (m : Int) (s t : Store) : Prop where
  fixtures : s.fixtures.rows.AgreeBut (fun id _ => id) m t.fixtures.rows
  last : t.fixtures.last = s.fixtures.last
  parts : ∀ p : Part, p.Apart m (s.part p) (t.part p)
  throttle : s.throttle.AgreeBut (fun id _ => id) m t.throttle

variable {m : Int} {s t : Store}

theorem Apart.refl (s : Store) : s.Apart m s :=
  ⟨.refl _, rfl, fun _ => .refl _, .refl _⟩

theorem Apart.trans {u : Store} (h : s.Apart m t) (h' : t.Apart m u) : s.Apart m u := by
  refine ⟨h.fixtures.trans h'.fixtures, h'.last.trans h.last, ?_, h.throttle.trans h'.throttle⟩
  intro p
  have hp := h.parts p
  have hp' := h'.parts p
  exact ⟨hp.rows.trans hp'.rows, hp'.last.trans hp.last, fun id hnone => hp'.fewer id (hp.fewer id hnone)⟩

theorem Apart.findPart (h : s.Apart m t) {p : Part} {id : Int}
    (others : ∀ row, s.findPart p id = some row → p.ownerId row ≠ m) :
    t.findPart p id = s.findPart p id :=
  (h.parts p).get? others

theorem Apart.fixture (h : s.Apart m t) {id : Int} (hne : id ≠ m) :
    t.fixtures.rows.get? id = s.fixtures.rows.get? id :=
  h.fixtures.get? (fun _ _ => hne) fun _ _ => hne

theorem Apart.entry (h : s.Apart m t) {k : Int} (hne : k ≠ m) :
    t.throttle.get? k = s.throttle.get? k :=
  h.throttle.get? (fun _ _ => hne) fun _ _ => hne

theorem eq_of_apart (hs : s.Orderly) (ht : t.Orderly) {v w : Store} {n : Int} (ne : m ≠ n)
    (hvs : v.Apart m s) (hvt : v.Apart m t) (hws : w.Apart n s) (hwt : w.Apart n t) : s = t := by
  have hnumbered {α : Type} {x y : Numbered α} (hrows : x.rows = y.rows) (hlast : x.last = y.last) :
      x = y := by
    cases x
    cases y
    simp only [Numbered.mk.injEq]
    exact ⟨hrows, hlast⟩
  have hfixtures : s.fixtures.rows = t.fixtures.rows :=
    Table.eq_of_agreeBut ht.integrity.fixtures.ordered hs.integrity.fixtures.ordered ne
      (hvt.fixtures.symm.trans hvs.fixtures) (hwt.fixtures.symm.trans hws.fixtures)
  have hthrottle : s.throttle = t.throttle :=
    Table.eq_of_agreeBut ht.throttle hs.throttle ne (hvt.throttle.symm.trans hvs.throttle)
      (hwt.throttle.symm.trans hws.throttle)
  have hpart (p : Part) : s.part p = t.part p :=
    hnumbered
      (Table.eq_of_agreeBut (ht.integrity.parts p).ordered (hs.integrity.parts p).ordered ne
        ((hvt.parts p).rows.symm.trans (hvs.parts p).rows)
        ((hwt.parts p).rows.symm.trans (hws.parts p).rows))
      ((hvs.parts p).last.trans (hvt.parts p).last.symm)
  cases s
  cases t
  simp only [Store.mk.injEq]
  exact ⟨hnumbered hfixtures (hvs.last.trans hvt.last.symm), hpart .scoreboard, hpart .gameclock,
    hpart .playclock, hthrottle⟩

theorem Apart.setFixtures (h : s.Apart m t) {rows rows' : Table Fixture}
    (agree : rows.AgreeBut (fun id _ => id) m rows') :
    Apart m { s with fixtures.rows := rows } { t with fixtures.rows := rows' } := by
  refine ⟨agree, h.last, ?_, h.throttle⟩
  intro p
  have hpart := h.parts p
  cases p <;> exact hpart

theorem Apart.setThrottle (h : s.Apart m t) {entries entries' : Table ThrottleRecord}
    (agree : entries.AgreeBut (fun id _ => id) m entries') :
    Apart m { s with throttle := entries } { t with throttle := entries' } := by
  refine ⟨h.fixtures, h.last, ?_, agree⟩
  intro p
  have hpart := h.parts p
  cases p <;> exact hpart

theorem Apart.setPart (h : s.Apart m t) {p : Part} {x y : Numbered p.Row} (apart : p.Apart m x y) :
    Apart m (s.setPart p x) (t.setPart p y) := by
  refine ⟨?_, ?_, ?_, ?_⟩
  · rw [fixtures_setPart, fixtures_setPart]
    exact h.fixtures
  · rw [fixtures_setPart, fixtures_setPart]
    exact h.last
  · intro q
    by_cases hq : q = p
    · subst hq
      rw [part_setPart_self, part_setPart_self]
      exact apart
    · rw [part_setPart_of_ne s x hq, part_setPart_of_ne t y hq]
      exact h.parts q
  · rw [throttle_setPart, throttle_setPart]
    exact h.throttle

theorem Apart.putPart (h : s.Apart m t) {p : Part} (row : p.Row) :
    Apart m (s.putPart p row) (t.putPart p row) := by
  refine h.setPart ⟨(h.parts p).rows.insert _ row, (h.parts p).last, ?_⟩
  intro id hnone
  rw [Table.get?_insert] at hnone ⊢
  split_ifs at hnone ⊢
  exact (h.parts p).fewer id hnone

theorem Apart.erasePart (h : s.Apart m t) (p : Part) (id : Int) :
    Apart m (s.setPart p { s.part p with rows := (s.part p).rows.erase id })
      (t.setPart p { t.part p with rows := (t.part p).rows.erase id }) := by
  refine h.setPart ⟨(h.parts p).rows.erase id, (h.parts p).last, ?_⟩
  intro j hnone
  rw [Table.get?_erase] at hnone ⊢
  split_ifs at hnone ⊢
  · rfl
  · exact (h.parts p).fewer j hnone

theorem Apart.withoutFixture (h : s.Apart m t) (hs : s.Integrity) (ht : t.Integrity) {id : Int}
    (ne : id ≠ m) : Apart m (s.withoutFixture id) (t.withoutFixture id) := by
  refine ⟨h.fixtures.erase id, h.last, ?_, h.throttle⟩
  intro p
  rw [part_withoutFixture, part_withoutFixture]
  refine ⟨(h.parts p).rows.without (hs.parts p).ordered (ht.parts p).ordered _, (h.parts p).last, ?_⟩
  intro j hnone
  rw [Table.get?_without (hs.parts p).ordered] at hnone
  rw [Table.get?_without (ht.parts p).ordered]
  cases hrow : (s.part p).rows.get? j with
  | none => rw [(h.parts p).fewer j hrow, Option.filter_none]
  | some row =>
    rw [hrow] at hnone
    have howner : p.ownerId row = id := by simpa using hnone
    have hsame := ((h.parts p).rows j row fun he => ne (howner.symm.trans he)).mpr hrow
    rw [hsame]
    exact hnone

theorem Apart.ownedIds (h : s.Apart m t) (hs : s.Integrity) (ht : t.Integrity) {id : Int}
    (ne : id ≠ m) (p : Part) : t.ownedIds p id = s.ownedIds p id := by
  rw [Store.ownedIds, Store.ownedIds, Table.keysWhere_eq, Table.keysWhere_eq]
  refine congrArg _ (congrArg Table.entries ?_)
  refine (h.parts p).rows.without_eq (hs.parts p).ordered (ht.parts p).ordered ?_
  intro j row howner
  exact fun he => ne ((beq_iff_eq.mp howner).symm.trans he)

theorem Apart.findPartByMatch (h : s.Apart m t) (hs : s.Integrity) (ht : t.Integrity) {id : Int}
    (ne : id ≠ m) (p : Part) : t.findPartByMatch p id = s.findPartByMatch p id := by
  rw [Store.findPartByMatch, Store.findPartByMatch, Table.find?_eq_head?, Table.find?_eq_head?]
  refine congrArg (fun rows : Table p.Row => rows.entries.head?.map Prod.snd) ?_
  refine (h.parts p).rows.without_eq (hs.parts p).ordered (ht.parts p).ordered ?_
  intro j row howner
  exact fun he => ne ((beq_iff_eq.mp howner).symm.trans he)

theorem apart_setFixtures {rows : Table Fixture}
    (agree : s.fixtures.rows.AgreeBut (fun id _ => id) m rows) :
    s.Apart m { s with fixtures.rows := rows } :=
  (Apart.refl s).setFixtures agree

theorem apart_setThrottle {entries : Table ThrottleRecord}
    (agree : s.throttle.AgreeBut (fun id _ => id) m entries) : s.Apart m { s with throttle := entries } :=
  (Apart.refl s).setThrottle agree

theorem apart_setPart {p : Part} {x : Numbered p.Row} (apart : p.Apart m (s.part p) x) :
    s.Apart m (s.setPart p x) := by
  have hsame : s.setPart p (s.part p) = s := by cases p <;> rfl
  have h := (Apart.refl s).setPart apart
  rwa [hsame] at h

theorem apart_putPart {p : Part} {row old : p.Row} (found : s.findPart p (p.rowId row) = some old)
    (owner : p.ownerId old = m) (kept : p.ownerId row = p.ownerId old) :
    s.Apart m (s.putPart p row) := by
  refine apart_setPart ⟨Table.agreeBut_insert (kept.trans owner) ?_, rfl, ?_⟩
  · intro b hb
    cases found.symm.trans hb
    exact owner
  · intro id hnone
    rw [Table.get?_insert]
    split_ifs with hid
    · subst hid
      cases found.symm.trans hnone
    · exact hnone

theorem apart_erasePart {p : Part} {id : Int}
    (owner : ∀ row, s.findPart p id = some row → p.ownerId row = m) :
    s.Apart m (s.setPart p { s.part p with rows := (s.part p).rows.erase id }) := by
  refine apart_setPart ⟨Table.agreeBut_erase owner, rfl, ?_⟩
  intro j hnone
  rw [Table.get?_erase]
  split_ifs
  · rfl
  · exact hnone

theorem apart_withoutFixture (hs : s.Integrity) (id : Int) : s.Apart id (s.withoutFixture id) := by
  refine ⟨Table.agreeBut_erase fun _ _ => rfl, rfl, ?_, .refl _⟩
  intro p
  rw [part_withoutFixture]
  refine ⟨Table.agreeBut_without (hs.parts p).ordered fun _ _ => beq_iff_eq.mp, rfl, ?_⟩
  intro j hnone
  rw [Table.get?_without (hs.parts p).ordered, hnone, Option.filter_none]

end Store

def Store.Owned (P : Int → Prop) (s : Store) (p : Part) (row : p.Row) : Prop :=
  ∀ old, s.findPart p (p.rowId row) = some old → P (p.ownerId old) ∧ p.ownerId row = p.ownerId old

/-- All that a call reads or writes in this store belongs to matches with the property; a row that is not
there belongs to none. -/
def Call.Concerns (P : Int → Prop) (s : Store) : Call → Prop
  | .findFixture id | .deleteFixture id => P id
  | .updateFixture row => P row.id
  | .find p id | .delete p id => ∀ row, s.findPart p id = some row → P (p.ownerId row)
  | .findByMatch _ m => P m
  | .updateScoreboard row => s.Owned P .scoreboard row
  | .updateClock k row _ => s.Owned P k.part row
  | .findThrottle m | .touchThrottle m _ | .deleteThrottle m => P m
  | .insertFixture _ | .insert _ _ => False

namespace Call.Concerns

variable {P : Int → Prop} {m : Int} {s t : Store} {now : Instant} {c : Call}

theorem keepsOwner (h : c.Concerns P s) : s.KeepsOwner c := by
  intro p old row writes found
  cases writes with
  | scoreboard old row => exact (h old found).2.symm
  | clock k old row => exact (h old found).2.symm

theorem orderly (h : c.Concerns P s) (hs : s.Orderly) : (s.answer now c).2.Orderly :=
  ⟨(s.effect_answer now c).integrity hs.integrity h.keepsOwner, Store.ordered_throttle hs.throttle⟩

theorem frame (h : c.Concerns (· = m) s) (hs : s.Orderly) : s.Apart m (s.answer now c).2 := by
  cases c with
  | findFixture id | find p id | findByMatch p k | findThrottle k => exact .refl s
  | updateFixture row =>
    simp only [Store.answer, Store.updateFixture]
    split_ifs
    · exact Store.apart_setFixtures (Table.agreeBut_insert h fun _ _ => h)
    · exact .refl s
  | deleteFixture id =>
    obtain rfl : id = m := h
    simp only [Store.answer, Store.deleteFixture]
    split
    · exact .refl s
    · exact Store.apart_withoutFixture hs.integrity id
  | updateScoreboard row =>
    simp only [Store.answer, Store.updateScoreboard]
    split_ifs with hfound
    · obtain ⟨old, hold⟩ := Option.isSome_iff_exists.mp hfound
      exact Store.apart_putPart (p := .scoreboard) hold (h old hold).1 (h old hold).2
    · exact .refl s
  | updateClock k row previous =>
    rcases s.updateClock_cases k row previous with ⟨old, hold, -, hupdate⟩ | ⟨fault, hupdate⟩
    · simp only [Store.answer, hupdate]
      exact Store.apart_putPart hold (h old hold).1 (h old hold).2
    · simp only [Store.answer, hupdate]
      exact .refl s
  | delete p id =>
    simp only [Store.answer, Store.deletePart]
    split
    · exact .refl s
    · exact Store.apart_erasePart h
  | touchThrottle k time => exact Store.apart_setThrottle (Table.agreeBut_insert h fun _ _ => h)
  | deleteThrottle k => exact Store.apart_setThrottle (Table.agreeBut_erase fun _ _ => h)
  | insertFixture fields => exact h.elim
  | insert p draft => exact h.elim

section

variable (others : ∀ k, P k → k ≠ m) (apart : s.Apart m t)

include others apart

theorem transport (h : c.Concerns P s) : c.Concerns P t := by
  have hfind (p : Part) (id : Int) (hrow : ∀ row, s.findPart p id = some row → P (p.ownerId row)) :
      t.findPart p id = s.findPart p id :=
    apart.findPart fun row hfound => others _ (hrow row hfound)
  have howned (p : Part) (row : p.Row) (hrow : s.Owned P p row) : t.Owned P p row := by
    intro old hold
    rw [hfind p _ fun old hold => (hrow old hold).1] at hold
    exact hrow old hold
  cases c with
  | find p id | delete p id =>
    intro row hrow
    rw [hfind p id h] at hrow
    exact h row hrow
  | updateScoreboard row => exact howned .scoreboard row h
  | updateClock k row previous => exact howned k.part row h
  | _ => exact h

theorem simulates (h : c.Concerns P s) (hs : s.Orderly) (ht : t.Orderly) :
    (t.answer now c).1 = (s.answer now c).1 ∧ Store.Apart m (s.answer now c).2 (t.answer now c).2 := by
  have hfind (p : Part) (id : Int) (hrow : ∀ row, s.findPart p id = some row → P (p.ownerId row)) :
      t.findPart p id = s.findPart p id :=
    apart.findPart fun row hfound => others _ (hrow row hfound)
  cases c with
  | findFixture id =>
    simp only [Store.answer, apart.fixture (others id h), true_and]
    exact apart
  | find p id =>
    simp only [Store.answer, hfind p id h, true_and]
    exact apart
  | findByMatch p k =>
    simp only [Store.answer, apart.findPartByMatch hs.integrity ht.integrity (others k h), true_and]
    exact apart
  | findThrottle k =>
    simp only [Store.answer, apart.entry (others k h), true_and]
    exact apart
  | updateFixture row =>
    have hsame := apart.fixture (others row.id h)
    cases hrow : s.fixtures.rows.get? row.id with
    | none =>
      rw [hrow] at hsame
      simp only [Store.answer, Store.updateFixture, Table.contains, hrow, hsame, Option.isSome_none,
        Bool.false_eq_true, if_false]
      exact ⟨rfl, apart⟩
    | some old =>
      rw [hrow] at hsame
      simp only [Store.answer, Store.updateFixture, Table.contains, hrow, hsame, Option.isSome_some,
        if_true]
      exact ⟨rfl, apart.setFixtures (apart.fixtures.insert row.id row)⟩
  | deleteFixture id =>
    have hne := others id h
    simp only [Store.answer, Store.deleteFixture, apart.fixture hne,
      apart.ownedIds hs.integrity ht.integrity hne]
    split
    · exact ⟨rfl, apart⟩
    · exact ⟨rfl, apart.withoutFixture hs.integrity ht.integrity hne⟩
  | updateScoreboard row =>
    have hsame : t.scoreboards.rows.get? row.id = s.scoreboards.rows.get? row.id :=
      hfind .scoreboard row.id fun old hold => (h old hold).1
    cases hrow : s.scoreboards.rows.get? row.id with
    | none =>
      rw [hrow] at hsame
      simp only [Store.answer, Store.updateScoreboard, Table.contains, hrow, hsame, Option.isSome_none,
        Bool.false_eq_true, if_false]
      exact ⟨rfl, apart⟩
    | some old =>
      rw [hrow] at hsame
      simp only [Store.answer, Store.updateScoreboard, Table.contains, hrow, hsame, Option.isSome_some,
        if_true]
      exact ⟨rfl, apart.putPart (p := .scoreboard) row⟩
  | updateClock k row previous =>
    simp only [Store.answer, Store.updateClock, hfind k.part _ fun old hold => (h old hold).1]
    split
    · exact ⟨rfl, apart⟩
    · split_ifs
      · exact ⟨rfl, apart.putPart row⟩
      · exact ⟨rfl, apart⟩
  | delete p id =>
    simp only [Store.answer, Store.deletePart, hfind p id h]
    split
    · exact ⟨rfl, apart⟩
    · exact ⟨rfl, apart.erasePart p id⟩
  | touchThrottle k time => exact ⟨rfl, apart.setThrottle (apart.throttle.insert _ _)⟩
  | deleteThrottle k =>
    simp only [Store.answer, Store.deleteThrottle, Table.contains, apart.entry (others k h)]
    exact ⟨rfl, apart.setThrottle (apart.throttle.erase k)⟩
  | insertFixture fields => exact h.elim
  | insert p draft => exact h.elim

end

end Call.Concerns

namespace Prog

variable {α β : Type} {P : Int → Prop} {m n : Int} {now : Instant} {s t : Store} {p : Prog α}

/-- Every call of the program on its own concerns matches with the property alone. -/
def Concerns (P : Int → Prop) (now : Instant) : Store → Prog α → Prop
  | _, done _ => True
  | s, call c next =>
    c.Concerns P s ∧ Concerns P now (s.answer now c).2 (next (s.answer now c).1)
  | s, Prog.now next => Concerns P now s (next now)
  | s, fire _ next => Concerns P now s next

theorem concerns_bind {f : α → Prog β} :
    (p.bind f).Concerns P now s ↔
      p.Concerns P now s ∧ (f (p.exec now s).value).Concerns P now (p.exec now s).store := by
  induction p generalizing s with
  | done a => exact (true_and _).symm ▸ Iff.rfl
  | call c next ih =>
    refine (and_congr_right fun _ => ih _).trans ?_
    exact and_assoc.symm
  | now next ih => exact ih _
  | fire change next ih => exact ih

theorem Concerns.orderly (h : p.Concerns P now s) (hs : s.Orderly) : (p.exec now s).store.Orderly := by
  induction p generalizing s with
  | done a => exact hs
  | call c next ih => exact ih _ h.2 (h.1.orderly hs)
  | now next ih => exact ih _ h hs
  | fire change next ih => exact ih h hs

theorem Concerns.frame (h : p.Concerns (· = m) now s) (hs : s.Orderly) :
    s.Apart m (p.exec now s).store := by
  induction p generalizing s with
  | done a => exact .refl s
  | call c next ih => exact (h.1.frame hs).trans (ih _ h.2 (h.1.orderly hs))
  | now next ih => exact ih _ h hs
  | fire change next ih => exact ih h hs

theorem Concerns.simulates (others : ∀ k, P k → k ≠ m) (h : p.Concerns P now s) (apart : s.Apart m t)
    (hs : s.Orderly) (ht : t.Orderly) :
    p.Concerns P now t ∧ (p.exec now t).value = (p.exec now s).value ∧
      (p.exec now t).told = (p.exec now s).told ∧
      Store.Apart m (p.exec now s).store (p.exec now t).store := by
  induction p generalizing s t with
  | done a => exact ⟨trivial, rfl, rfl, apart⟩
  | call c next ih =>
    obtain ⟨hcall, hnext⟩ := h
    have hcall' := hcall.transport others apart
    have ⟨hanswer, hstores⟩ : (t.answer now c).1 = (s.answer now c).1 ∧
        Store.Apart m (s.answer now c).2 (t.answer now c).2 := hcall.simulates others apart hs ht
    have hrest := ih _ hnext hstores (hcall.orderly hs) (hcall'.orderly ht)
    simp only [exec, Concerns, hanswer]
    exact ⟨⟨hcall', hrest.1⟩, hrest.2⟩
  | now next ih => exact ih _ h apart hs ht
  | fire change next ih =>
    obtain ⟨hconcerns, hvalue, htold, hstores⟩ := ih h apart hs ht
    exact ⟨hconcerns, hvalue, congrArg (List.cons change) htold, hstores⟩

theorem exec_comm {q : Prog β} (ne : m ≠ n) (hs : s.Orderly) (hp : p.Concerns (· = m) now s)
    (hq : q.Concerns (· = n) now s) :
    (q.exec now (p.exec now s).store).value = (q.exec now s).value ∧
      (q.exec now (p.exec now s).store).told = (q.exec now s).told ∧
      (p.exec now (q.exec now s).store).value = (p.exec now s).value ∧
      (p.exec now (q.exec now s).store).told = (p.exec now s).told ∧
      (q.exec now (p.exec now s).store).store = (p.exec now (q.exec now s).store).store := by
  have hsp := hp.orderly hs
  have hsq := hq.orderly hs
  obtain ⟨hq', hvalue, htold, happart⟩ :=
    hq.simulates (fun k hk => hk ▸ ne.symm) (hp.frame hs) hs hsp
  obtain ⟨hp', hvalue', htold', happart'⟩ := hp.simulates (fun k hk => hk ▸ ne) (hq.frame hs) hs hsq
  refine ⟨hvalue, htold, hvalue', htold', ?_⟩
  -- Both ends have what the end of `q` alone has but for `m`, and of `p` alone but for `n`.
  exact Store.eq_of_apart (hq'.orderly hsp) (hp'.orderly hsq) ne happart (hp'.frame hsq) (hq'.frame hsp)
    happart'

end Prog

end Matchday
