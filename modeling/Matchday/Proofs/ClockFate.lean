import Matchday.Proofs.Conduct
import Matchday.Proofs.Record

set_option autoImplicit false

namespace Matchday

open Service

theorem Call.Overwrites.updateClock_of_eq {c : Call} {p : Part} {old row : p.Row}
    (h : c.Overwrites p old row) {k : ClockKind} (hp : p = k.part) :
    c = .updateClock k (hp ▸ row : k.part.Row) (k.version (hp ▸ old : k.part.Row)) := by
  cases h with
  | scoreboard old row => cases k <;> cases hp
  | clock j old row => cases j <;> cases k <;> first | rfl | cases hp

theorem Call.Overwrites.updateClock {c : Call} {k : ClockKind} {old row : k.Row}
    (h : c.Overwrites k.part old row) : c = .updateClock k row (k.version old) :=
  h.updateClock_of_eq rfl

theorem Part.make_version {k : ClockKind} {id : Int} {draft : k.part.Draft} {row : k.Row}
    (h : k.part.make id draft = .ok row) : k.version row = .initial := by
  cases k with
  | game =>
    simp only [Part.make, GameClock.make] at h
    cases hc : GameClockDraft.check draft <;> rw [hc] at h <;> cases h
    rfl
  | play =>
    simp only [Part.make, PlayClock.make] at h
    cases hc : PlayClockDraft.check draft <;> rw [hc] at h <;> cases h
    rfl

theorem World.After.updateClock {w w' : World Store} {k : ClockKind} {row saved : k.Row}
    {previous : Version} (a : w.After (.answered (.updateClock k row previous) (.ok saved)) w') :
    saved = row ∧ ∃ old, w.store.findPart k.part (k.part.rowId row) = some old ∧
      k.version old = previous ∧ w'.store.findPart k.part (k.part.rowId row) = some row := by
  rcases a.of_answered with ⟨hanswer, hstore⟩ | ⟨fault, hfault, -⟩
  · rw [hstore]
    simp only [Store.answer] at hanswer ⊢
    rcases w.store.updateClock_cases k row previous with
      ⟨old, hfound, hversion, hupdate⟩ | ⟨fault, hupdate⟩
    · rw [hupdate] at hanswer ⊢
      refine ⟨Except.ok.inj hanswer, old, hfound, hversion, ?_⟩
      rw [Store.putPart, Store.findPart_setPart_self, Table.get?_insert, if_pos rfl]
    · rw [hupdate] at hanswer
      cases hanswer
  · cases hfault

namespace Traffic

/-- What becomes of a clock's row in one step of a call. -/
inductive ClockFate (t : Traffic) (i : Nat) (f : Flight) (e : Entry) (w : World Store) (k : ClockKind)
    (id : Int) : Prop
  | kept (same : w.store.findPart k.part id = t.world.store.findPart k.part id)
      (untold : ∀ change ∈ e.changes, ¬change.Writes k.part.table id)
  | gone (absent : w.store.findPart k.part id = none)
  | inserted {row : k.Row} (fresh : t.world.store.lastId k.part.table < id)
      (stored : w.store.findPart k.part id = some row) (first : k.version row = .initial)
      (told : e.changes = [.inserted k.part.table id (some (k.part.ownerId row))])
  | overwritten {order : ClockOrder k} {current old row : k.Row}
      (asked : f.command.order? (t.past i).readings k = some order) (own : order.id = id)
      (read : .answered (.find k.part id) (.ok (some current)) ∈ t.past i)
      (derived : order.step current = .ok row) (unchanged : k.version current = k.version old)
      (found : t.world.store.findPart k.part id = some old)
      (stored : w.store.findPart k.part id = some row)
      (entry : e = .answered (.updateClock k row (k.version old)) (.ok row))
      (told : e.changes = [.updated k.part.table id (some (k.part.ownerId row))])

variable {t t' : Traffic} {i : Nat} {f : Flight} {e : Entry}
  {rest : Prog (Except Cause f.command.Result)} {w : World Store}

theorem Sound.clockFate (h : t.Sound) (flight : t.calls[i]? = some f) (takes : f.rest.Takes e rest)
    (after : t.world.After e w) (k : ClockKind) (id : Int) : t.ClockFate i f e w k id := by
  obtain ⟨c, heffect, -, hentry⟩ := h.effect flight takes after
  cases heffect.rowFate h.integrity k.part id with
  | kept same untold => exact .kept same untold
  | gone absent => exact .gone absent
  | inserted fresh made stored told => exact .inserted fresh stored (Part.make_version made) told
  | @overwritten old row writes own found stored told =>
    obtain ⟨r, rfl⟩ := hentry (by rw [told]; exact List.cons_ne_nil _ _)
    cases writes.updateClock
    cases r with
    | error fault => cases told
    | ok saved =>
      obtain ⟨rfl, -⟩ := after.updateClock
      obtain ⟨-, order, current, hasked, hread, hderived, hversion⟩ :=
        h.disciplined.allows flight takes
      have hown : order.id = id := by
        have hknown := h.known i k.part order.id current (mem_past.mp hread)
        rw [← own, (Command.order_advances hasked hderived).1, hknown.own]
      exact .overwritten hasked hown (hown ▸ hread) hderived hversion found stored rfl told

theorem Sound.clock_before (h : t.Sound) (flight : t.calls[i]? = some f)
    (takes : f.rest.Takes e rest) (after : t.world.After e w) {k : ClockKind} {id : Int}
    (given : id ≤ t.world.store.lastId k.part.table) {row : k.Row}
    (stored : w.store.findPart k.part id = some row) :
    ∃ old, t.world.store.findPart k.part id = some old ∧
      (row = old ∨ k.version row = (k.version old).next) := by
  cases h.clockFate flight takes after k id with
  | kept same untold => exact ⟨row, same ▸ stored, .inl rfl⟩
  | gone absent =>
    rw [absent] at stored
    cases stored
  | inserted fresh stored' first told => omega
  | @overwritten order current old row' asked own read derived unchanged found stored' entry told =>
    rw [stored'] at stored
    cases stored
    refine ⟨old, found, .inr ?_⟩
    rw [(Command.order_advances asked derived).2.2, unchanged]

end Traffic

/-- What a row that was read tells later: versions have not gone back since, and the same version
below the greatest one is the same row. -/
def Store.Dates (s : Store) (k : ClockKind) (id : Int) (current : k.Row) : Prop :=
  ∀ row, s.findPart k.part id = some row → (k.version current).number ≤ (k.version row).number ∧
    (k.version current = k.version row → (k.version current).number < greatestVersion →
      current = row)

def Store.Passed (s : Store) (k : ClockKind) (id : Int) (v : Version) : Prop :=
  ∀ row, s.findPart k.part id = some row → v.number < greatestVersion →
    v.number < (k.version row).number

namespace Traffic

/-- Of two steps at most one writes a clock from the same version below the greatest one. -/
def Exclusive (a b : Nat × Entry) : Prop :=
  ∀ (k : ClockKind) (row row' : k.Row) (previous : Version) (saved saved' : k.Row),
    a.2 = .answered (.updateClock k row previous) (.ok saved) →
    b.2 = .answered (.updateClock k row' previous) (.ok saved') →
    k.part.rowId row = k.part.rowId row' → greatestVersion ≤ previous.number

instance : Std.Symm Exclusive where
  symm _ _ h k row row' previous saved saved' hb ha hid :=
    h k row' row previous saved' saved ha hb hid.symm

structure Snapshots (t : Traffic) : Prop where
  read : ∀ (i : Nat) (k : ClockKind) (id : Int) (current : k.Row),
    (i, .answered (.find k.part id) (.ok (some current))) ∈ t.log →
      t.world.store.Dates k id current
  written : ∀ (i : Nat) (k : ClockKind) (row : k.Row) (previous : Version) (saved : k.Row),
    (i, .answered (.updateClock k row previous) (.ok saved)) ∈ t.log →
      k.part.rowId row ≤ t.world.store.lastId k.part.table ∧
        t.world.store.Passed k (k.part.rowId row) previous
  once : t.log.Pairwise Exclusive

theorem snapshots_start (clock : Instant) (capacity : Nat) : (start clock capacity).Snapshots where
  read _ _ _ _ h := absurd h List.not_mem_nil
  written _ _ _ _ _ h := absurd h List.not_mem_nil
  once := .nil

variable {t t' : Traffic} {i : Nat} {f : Flight} {e : Entry}
  {rest : Prog (Except Cause f.command.Result)} {w : World Store}

theorem Sound.dates (h : t.Sound) (flight : t.calls[i]? = some f) (takes : f.rest.Takes e rest)
    (after : t.world.After e w) {k : ClockKind} {id : Int} {current : k.Row}
    (given : id ≤ t.world.store.lastId k.part.table) (dates : t.world.store.Dates k id current) :
    w.store.Dates k id current := by
  intro row hrow
  obtain ⟨old, hold, rfl | hnext⟩ := h.clock_before flight takes after given hrow
  · exact dates row hold
  · obtain ⟨hle, -⟩ := dates old hold
    have hnumber := Version.number_next (k.version old)
    have hgreatest := (k.version old).le_greatest
    rw [← hnext] at hnumber
    refine ⟨by omega, ?_⟩
    intro hsame hlt
    have hsame := congrArg Version.number hsame
    omega

theorem Sound.passed (h : t.Sound) (flight : t.calls[i]? = some f) (takes : f.rest.Takes e rest)
    (after : t.world.After e w) {k : ClockKind} {id : Int} {v : Version}
    (given : id ≤ t.world.store.lastId k.part.table) (passed : t.world.store.Passed k id v) :
    w.store.Passed k id v := by
  intro row hrow hlt
  obtain ⟨old, hold, rfl | hnext⟩ := h.clock_before flight takes after given hrow
  · exact passed row hold hlt
  · have hold := passed old hold hlt
    have hnumber := Version.number_next (k.version old)
    have hgreatest := (k.version old).le_greatest
    rw [← hnext] at hnumber
    omega

theorem Snapshots.took (h : t.Snapshots) (sound : t.Sound) (flight : t.calls[i]? = some f)
    (takes : f.rest.Takes e rest) (after : t.world.After e w) : (t.took i f e rest w).Snapshots := by
  obtain ⟨c, heffect, hkept, -⟩ := sound.effect flight takes after
  have hevolves := heffect.evolves sound.integrity hkept
  refine ⟨?_, ?_, ?_⟩
  · intro j k id current hmem
    rcases List.mem_cons.mp hmem with heq | hmem
    · obtain ⟨-, rfl⟩ := Prod.mk.inj heq
      obtain ⟨hfound, hstore⟩ := after.find
      change w.store.Dates k id current
      intro row hrow
      rw [hstore, hfound] at hrow
      cases hrow
      exact ⟨Nat.le_refl _, fun _ _ => rfl⟩
    · exact sound.dates flight takes after (sound.known j _ id current hmem).given
        (h.read j k id current hmem)
  · intro j k row previous saved hmem
    change _ ≤ w.store.lastId k.part.table ∧ w.store.Passed k _ previous
    rcases List.mem_cons.mp hmem with heq | hmem
    · obtain ⟨-, rfl⟩ := Prod.mk.inj heq
      obtain ⟨-, old, hold, rfl, hstored⟩ := after.updateClock
      obtain ⟨-, order, current, hasked, -, hderived, hversion⟩ :=
        sound.disciplined.allows flight takes
      have hgiven := (sound.integrity.knows hold).given
      refine ⟨Int.le_trans hgiven (hevolves.lastId _), ?_⟩
      intro row' hrow' hlt
      rw [hstored] at hrow'
      cases hrow'
      have hnumber := Version.number_next (k.version current)
      rw [← (Command.order_advances hasked hderived).2.2, hversion] at hnumber
      omega
    · obtain ⟨hgiven, hpassed⟩ := h.written j k row previous saved hmem
      exact ⟨Int.le_trans hgiven (hevolves.lastId _),
        sound.passed flight takes after hgiven hpassed⟩
  · refine List.pairwise_cons.mpr ⟨?_, h.once⟩
    -- An earlier write from this version has left it behind, but the row was still at it just now.
    rintro ⟨j, e'⟩ hmem k row row' previous saved saved' rfl rfl hid
    obtain ⟨-, old, hold, hversion, -⟩ := after.updateClock
    obtain ⟨-, hpassed⟩ := h.written j k row' previous saved' hmem
    rw [hid] at hold
    have hlt := hpassed old hold
    rw [hversion] at hlt
    omega

theorem Snapshots.next (h : t.Snapshots) (sound : t.Sound) (n : t.Next t') : t'.Snapshots := by
  cases n with
  | same => exact h
  | begun c => exact ⟨h.read, h.written, h.once⟩
  | ticked now => exact ⟨h.read, h.written, h.once⟩
  | took flight takes after => exact h.took sound flight takes after

theorem snapshots_run (clock : Instant) (capacity : Nat) (moves : List Move) :
    ((start clock capacity).run moves).Snapshots := by
  induction moves with
  | nil => exact snapshots_start clock capacity
  | cons m earlier ih => exact ih.next (sound_run clock capacity earlier) (next_step _ m)

end Traffic

end Matchday
