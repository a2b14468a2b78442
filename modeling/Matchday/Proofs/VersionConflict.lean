import Matchday.Proofs.ClockAnswers
import Matchday.Proofs.ClockFate
import Matchday.Proofs.Moments
import Matchday.Proofs.Notices
import Matchday.Proofs.RowLifetime

set_option autoImplicit false

namespace Matchday

open Service

namespace Service

/-- An answer is a conflict that tells which version was expected and which was there. -/
def Conflicted {α : Type} (result : Except Cause α) (expected actual : Nat) : Prop :=
  ∃ cause, result = .error cause ∧ cause.failure.code = .conflict ∧
    cause.failure.details = some (Cause.versions expected actual)

variable {α : Type} {p : Part} {id : Int} {x y expected actual : Nat} {cause : Cause}

theorem conflicted_versionConflict :
    Conflicted (.error (.versionConflict p id expected actual) : Except Cause α) x y ↔
      x = expected ∧ y = actual := by
  constructor
  · rintro ⟨cause, hcause, -, hdetails⟩
    cases hcause
    simp only [Cause.failure, Cause.versions, Option.some.injEq, Json.obj.injEq, List.cons.injEq,
      Prod.mk.injEq, Json.int.injEq, Int.ofNat_inj, true_and, and_true] at hdetails
    exact ⟨hdetails.2.symm, hdetails.1.symm⟩
  · rintro ⟨rfl, rfl⟩
    exact ⟨_, rfl, rfl, rfl⟩

theorem not_conflicted (plain : cause.failure.details = none) :
    ¬Conflicted (.error cause : Except Cause α) x y := by
  rintro ⟨cause', hcause, -, hdetails⟩
  cases hcause
  rw [plain] at hdetails
  cases hdetails

end Service

theorem Store.updateClock_eq_error {s : Store} {k : ClockKind} {row : k.Row} {previous : Version}
    {fault : ClockFault} :
    (s.updateClock k row previous).1 = .error fault ↔
      (s.findPart k.part (k.part.rowId row) = none ∧ fault = .notFound (k.part.rowId row)) ∨
      ∃ stored, s.findPart k.part (k.part.rowId row) = some stored ∧ k.version stored ≠ previous ∧
        fault = .versionMismatch previous.number (k.version stored).number := by
  rw [Store.updateClock]
  cases s.findPart k.part (k.part.rowId row) with
  | none => simp [eq_comm]
  | some stored =>
    by_cases hversion : k.version stored = previous
    · simp [hversion]
    · simp only [hversion, if_false, Except.error.injEq, eq_comm]
      simp [hversion]

namespace Traffic

variable {t t' : Traffic} {moves earlier : List Move} {i : Nat} {e : Entry} {k : ClockKind} {id : Int}

theorem Sound.dates_next (h : t.Sound) (n : t.Next t') {current : k.Row}
    (given : id ≤ t.world.store.lastId k.part.table) (dates : t.world.store.Dates k id current) :
    t'.world.store.Dates k id current := by
  cases n with
  | same => exact dates
  | begun c => exact dates
  | ticked now => exact dates
  | took flight takes after => exact h.dates flight takes after given dates

theorem Sound.dates_run (h : t.Sound) {current : k.Row}
    (stored : t.world.store.findPart k.part id = some current) (later : List Move) :
    (t.run later).world.store.Dates k id current ∧
      id ≤ (t.run later).world.store.lastId k.part.table := by
  have hgiven := (h.integrity.knows stored).given
  induction later with
  | nil =>
    refine ⟨?_, hgiven⟩
    intro row hrow
    change t.world.store.findPart k.part id = some row at hrow
    rw [stored] at hrow
    cases hrow
    exact ⟨Nat.le_refl _, fun _ _ => rfl⟩
  | cons m later ih =>
    obtain ⟨hdates, hlast⟩ := ih
    have hnext := next_step (t.run later) m
    have hevolves := (h.run later).evolves_next hnext
    exact ⟨(h.run later).dates_next hnext hlast hdates, Int.le_trans hlast (hevolves.lastId _)⟩

/-- Another call has overwritten a clock at another version since a call has read it. -/
def Overwritten (t : Traffic) (moves : List Move) (i : Nat) (k : ClockKind) (id : Int)
    (current : k.Row) : Prop :=
  ∃ j row previous saved between, j ≠ i ∧
    At t moves j (.answered (.updateClock k row previous) (.ok saved)) between ∧
    (i, .answered (.find k.part id) (.ok (some current))) ∈ (t.run between).log ∧
    k.part.rowId row = id ∧ k.version row ≠ k.version current

theorem Overwritten.mono {later : List Move} {current : k.Row} (h : t.Overwritten moves i k id current)
    (suffix : moves <:+ later) : t.Overwritten later i k id current := by
  obtain ⟨j, row, previous, saved, between, hj, hat, hread, hid, hdiffers⟩ := h
  exact ⟨j, row, previous, saved, between, hj, hat.mono suffix, hread, hid, hdiffers⟩

theorem Sound.stands_next (h : t.Sound) (n : t.Next t') {stored : k.Row}
    (given : id ≤ t.world.store.lastId k.part.table)
    (stands : t'.world.store.findPart k.part id = some stored) :
    t.world.store.findPart k.part id = some stored ∨
      ∃ j previous, k.part.rowId stored = id ∧
        t'.log = (j, .answered (.updateClock k stored previous) (.ok stored)) :: t.log := by
  cases n with
  | same => exact .inl stands
  | begun c => exact .inl stands
  | ticked now => exact .inl stands
  | @took j f e rest w flight takes after =>
    change w.store.findPart k.part id = some stored at stands
    cases h.clockFate flight takes after k id with
    | kept same untold => exact .inl (same ▸ stands)
    | gone absent =>
      rw [absent] at stands
      cases stands
    | inserted fresh stored' first told => omega
    | @overwritten order source old row asked own read derived unchanged found stored' entry told =>
      rw [stored'] at stands
      cases stands
      refine .inr ⟨j, k.version old, ?_, entry ▸ rfl⟩
      rw [(Command.order_advances asked derived).1, (h.known j _ _ _ (mem_past.mp read)).own]

theorem Sound.overwritten (h : t.Sound) (start : t.log = []) {current stored : k.Row}
    (read : (i, .answered (.find k.part id) (.ok (some current))) ∈ (t.run moves).log)
    (unwritten : ∀ row previous saved,
      (i, .answered (.updateClock k row previous) (.ok saved)) ∉ (t.run moves).log)
    (stands : (t.run moves).world.store.findPart k.part id = some stored)
    (differs : k.version stored ≠ k.version current) : t.Overwritten moves i k id current := by
  induction moves with
  | nil =>
    change _ ∈ t.log at read
    rw [start] at read
    cases read
  | cons m rest ih =>
    have hnext : (t.run rest).Next (t.run (m :: rest)) := next_step _ m
    have hread : (i, .answered (.find k.part id) (.ok (some current))) ∈ (t.run rest).log := by
      rcases hnext.log_cases with hlog | ⟨j, e, hlog, after⟩
      · exact hlog ▸ read
      · rw [hlog] at read
        rcases List.mem_cons.mp read with heq | hread
        · obtain ⟨-, rfl⟩ := Prod.mk.inj heq
          obtain ⟨hfound, hstore⟩ := after.find
          rw [hstore, hfound] at stands
          cases stands
          exact absurd rfl differs
        · exact hread
    have hgiven := ((h.run rest).known i k.part id current hread).given
    rcases (h.run rest).stands_next hnext hgiven stands with hstood | ⟨j, previous, hid, hlog⟩
    · have hunwritten : ∀ row previous saved,
          (i, .answered (.updateClock k row previous) (.ok saved)) ∉ (t.run rest).log := by
        intro row previous saved hmem
        exact unwritten row previous saved ((log_suffix t (List.suffix_cons m rest)).subset hmem)
      exact (ih hread hunwritten hstood).mono (List.suffix_cons m rest)
    · refine ⟨j, stored, previous, stored, rest, ?_, ⟨m, List.suffix_rfl, hlog⟩, hread, hid, differs⟩
      rintro rfl
      refine unwritten stored previous stored ?_
      rw [hlog]
      exact List.mem_cons_self

theorem Overwritten.version_ne {clock : Instant} {capacity : Nat} {current stored : k.Row}
    (h : (start clock capacity).Overwritten moves i k id current)
    (stands : ((start clock capacity).run moves).world.store.findPart k.part id = some stored) :
    k.version stored ≠ k.version current := by
  obtain ⟨j, row, previous, saved, between, -, hat, hread, rfl, hdiffers⟩ := h
  obtain ⟨m, ⟨later, rfl⟩, hlog, hafter⟩ := hat.after
  obtain ⟨-, -, -, -, hrow⟩ := hafter.updateClock
  have hread' := (log_suffix (start clock capacity) (List.suffix_cons m between)).subset hread
  obtain ⟨hle, -⟩ := (snapshots_run clock capacity (m :: between)).read i k _ current hread' row hrow
  have hdates := ((sound_run clock capacity (m :: between)).dates_run hrow later).1
  rw [run_append] at stands
  obtain ⟨hlater, -⟩ := hdates stored stands
  have hlt : (k.version current).number ≠ (k.version row).number :=
    fun hnumber => hdiffers (Version.ext hnumber.symm)
  intro hsame
  rw [hsame] at hlater
  omega

/-- How a change of a clock comes to a conflict: its caller expects another version than that of the
row that it has read, or another call has overwritten the clock before its own write. -/
inductive Conflict (t : Traffic) (moves : List Move) (i : Nat) (c : Command) (k : ClockKind) (id : Int)
    (expected : Option Version) : Nat → Nat → Prop
  | stale {current : k.Row} {e : Version} {earlier : List Move}
      (read : At t moves i (.answered (.find k.part id) (.ok (some current))) earlier)
      (expects : expected = some e) (differs : e ≠ k.version current) :
    Conflict t moves i c k id expected e.number (k.version current).number
  | raced {current next stored : k.Row} {r : Answer (.updateClock k next (k.version current))}
      {order : ClockOrder k} {earlier : List Move}
      (read : (i, .answered (.find k.part id) (.ok (some current))) ∈ (t.run earlier).log)
      (agrees : ∀ e, expected = some e → e = k.version current)
      (asks : c.order? ((t.run moves).past i).readings k = some order)
      (legal : order.step current = .ok next)
      (write : At t moves i (.answered (.updateClock k next (k.version current)) r) earlier)
      (overwritten : t.Overwritten earlier i k id current)
      (stands : (t.run earlier).world.store.findPart k.part id = some stored) :
    Conflict t moves i c k id expected (expected.getD (k.version current)).number
      (k.version stored).number

variable {clock : Instant} {capacity : Nat} {f : Flight} {expected : Option Version} {x y : Nat}

theorem accounts_run (clock : Instant) (capacity : Nat) (moves : List Move) :
    ((start clock capacity).run moves).KeepTo (fun c => .upTo c.Over)
      fun c past result => Command.Accounts c past result :=
  keepTo_run accounts_action clock capacity moves

theorem Sound.next_own (h : t.Sound) {c : Command} {times : List Instant} {order : ClockOrder k}
    {current next : k.Row} (read : (i, .answered (.find k.part id) (.ok (some current))) ∈ t.log)
    (asks : c.order? times k = some order) (legal : order.step current = .ok next) :
    k.part.rowId next = id :=
  (Command.order_advances asks legal).1.trans (h.known i k.part id current read).own

theorem Sound.read_before (h : t.Sound) {next : k.Row} {previous : Version}
    {r : Answer (.updateClock k next previous)}
    (write : At t moves i (.answered (.updateClock k next previous) r) earlier) :
    ∃ id current, (i, .answered (.find k.part id) (.ok (some current))) ∈ (t.run earlier).log := by
  obtain ⟨m, -, hlog⟩ := write
  have hwrite : .answered (.updateClock k next previous) r ∈ (t.run (m :: earlier)).past i := by
    rw [mem_past, hlog]
    exact List.mem_cons_self
  obtain ⟨f, -, hkeeps⟩ := (h.run (m :: earlier)).disciplined.flight hwrite
  obtain ⟨order, current, -, hread, -⟩ := Command.write_derived hkeeps hwrite
  rw [mem_past, hlog] at hread
  refine ⟨order.id, current, (List.mem_cons.mp hread).resolve_left ?_⟩
  rintro ⟨⟩

theorem Conflict.ne {c : Command}
    (h : (start clock capacity).Conflict moves i c k id expected x y) : x ≠ y := by
  cases h with
  | stale read expects differs => exact fun hnumber => differs (Version.ext hnumber)
  | raced read agrees asks legal write overwritten stands =>
    have hdiffers := overwritten.version_ne stands
    cases expected with
    | none => exact fun hnumber => hdiffers (Version.ext hnumber.symm)
    | some e =>
      intro hnumber
      exact hdiffers ((Version.ext hnumber.symm).trans (agrees e rfl))

theorem Conflict.answered
    (h : (start clock capacity).Conflict moves i f.command k id expected x y)
    (flight : ((start clock capacity).run moves).calls[i]? = some f)
    (changes : f.command.clock? = some (k, id, expected))
    (sturdy : ∀ fault, Move.fail i fault ∉ moves) :
    ∃ result, f.rest = .done result ∧ Conflicted result x y := by
  have hkeeps := accounts_run clock capacity moves i f flight
  cases h with
  | @stale current e earlier read expects differs =>
    have hover : f.command.Over _ :=
      ⟨k, id, expected, changes, .inl ⟨current, e, read.mem_past, expects, differs⟩⟩
    obtain ⟨result, hdone, haccounts⟩ := hkeeps.exists_done hover
    obtain ⟨order, -, rfl, rfl, hanswers⟩ := haccounts k id expected changes
    have hresult := hanswers.refused_of_read read.mem_past expects differs
    exact ⟨result, hdone, hresult ▸ conflicted_versionConflict.mpr ⟨rfl, rfl⟩⟩
  | @raced current next stored r order earlier read agrees asks legal write overwritten stands =>
    have hown := (sound_run clock capacity earlier).next_own read asks legal
    have hr : r = .error (.versionMismatch (k.version current).number (k.version stored).number) := by
      rw [write.answer sturdy]
      refine Store.updateClock_eq_error.mpr (.inr ⟨stored, ?_, overwritten.version_ne stands, rfl⟩)
      rw [hown, stands]
    subst hr
    have hover : f.command.Over _ :=
      ⟨k, id, expected, changes, .inr ⟨next, _, _, write.mem_past⟩⟩
    obtain ⟨result, hdone, haccounts⟩ := hkeeps.exists_done hover
    obtain ⟨order, -, rfl, rfl, hanswers⟩ := haccounts k id expected changes
    have hread := Past.mem_asked.mp (mem_asked_run read write.suffix)
    have hresult := hanswers.unwritten_of_write hread write.mem_past
    exact ⟨result, hdone, hresult ▸ conflicted_versionConflict.mpr ⟨rfl, rfl⟩⟩

theorem conflict_of_answer {result : Except Cause f.command.Result}
    (conflicted : Conflicted result x y) (done : f.rest = .done result)
    (flight : ((start clock capacity).run moves).calls[i]? = some f)
    (changes : f.command.clock? = some (k, id, expected))
    (sturdy : ∀ fault, Move.fail i fault ∉ moves) :
    (start clock capacity).Conflict moves i f.command k id expected x y := by
  have haccounts := accounts_run clock capacity moves i f flight
  rw [done] at haccounts
  obtain ⟨order, hasks, rfl, rfl, hanswers⟩ := haccounts k id expected changes
  cases hanswers with
  | unreadable asked =>
    obtain ⟨earlier, hat⟩ := exists_at_of_asked rfl (asked ▸ List.mem_cons_self)
    cases hat.answer sturdy
  | missing asked => exact absurd conflicted (not_conflicted rfl)
  | illegal asked agrees illegal => exact absurd conflicted (not_conflicted rfl)
  | @refused current e asked expects differs =>
    obtain ⟨rfl, rfl⟩ := conflicted_versionConflict.mp conflicted
    obtain ⟨earlier, hat⟩ := exists_at_of_asked rfl (asked ▸ List.mem_cons_self)
    exact .stale hat expects differs
  | @unwritten current next fault asked agrees legal =>
    obtain ⟨earlier, hat⟩ := exists_at_of_asked rfl (asked ▸ List.mem_cons_self)
    have hread : (i, .answered (.find k.part order.id) (.ok (some current))) ∈
        ((start clock capacity).run earlier).log := by
      obtain ⟨id, current', hread⟩ := (sound_start clock capacity).read_before hat
      have hread' := mem_asked_run hread hat.suffix
      rw [asked] at hread'
      rcases List.mem_cons.mp hread' with heq | hread'
      · cases heq
      · cases List.mem_singleton.mp hread'
        exact hread
    have hunwritten (row : k.Row) (previous : Version) (saved : k.Row) :
        (i, .answered (.updateClock k row previous) (.ok saved)) ∉
          ((start clock capacity).run earlier).log := by
      intro hwrite
      have hwrite' := mem_asked_run hwrite hat.suffix
      rw [asked] at hwrite'
      rcases List.mem_cons.mp hwrite' with heq | hwrite'
      · cases heq
      · cases List.mem_singleton.mp hwrite'
    have hown := (sound_run clock capacity earlier).next_own hread hasks legal
    rcases Store.updateClock_eq_error.mp (hat.answer sturdy).symm with
      ⟨-, rfl⟩ | ⟨stored, hstands, hdiffers, rfl⟩
    · exact absurd conflicted (not_conflicted (by cases k <;> rfl))
    · obtain ⟨rfl, rfl⟩ := conflicted_versionConflict.mp conflicted
      rw [hown] at hstands
      have hoverwritten := (sound_start clock capacity).overwritten rfl hread hunwritten hstands hdiffers
      exact .raced hread agrees hasks legal hat hoverwritten hstands
  | written asked agrees legal =>
    obtain ⟨cause, hcause, -⟩ := conflicted
    cases hcause

/-- A change of a clock is over, and a version conflict, exactly when its caller expects another version
than the one that it has read, where it stood, or another call has overwritten the clock at another
version before the write that it has come to. The versions that it tells differ, and it has neither
changed nor published anything. A transition is refused only where the version was as expected. -/
theorem version_conflict_precise (clock : Instant) (capacity : Nat) (moves : List Move) (i : Nat)
    (f : Flight) (k : ClockKind) (id : Int) (expected : Option Version)
    (flight : ((start clock capacity).run moves).calls[i]? = some f)
    (changes : f.command.clock? = some (k, id, expected))
    (sturdy : ∀ fault, Move.fail i fault ∉ moves) :
    let past := ((start clock capacity).run moves).past i
    (∀ current earlier,
      At (start clock capacity) moves i (.answered (.find k.part id) (.ok (some current))) earlier →
        ((start clock capacity).run earlier).world.store.findPart k.part id = some current) ∧
    (∀ x y, (∃ result, f.rest = .done result ∧ Conflicted result x y) ↔
      (start clock capacity).Conflict moves i f.command k id expected x y) ∧
    (∀ x y, (start clock capacity).Conflict moves i f.command k id expected x y →
      x ≠ y ∧ past.committed = [] ∧ past.announced = []) ∧
    ∀ err, f.rest = .done (.error (.clock err)) →
      ∃ order current, f.command.order? past.readings k = some order ∧
        .answered (.find k.part id) (.ok (some current)) ∈ past ∧
        (∀ e, expected = some e → e = k.version current) ∧ order.step current = .error err := by
  intro past
  refine ⟨?_, fun x y => ⟨?_, fun h => h.answered flight changes sturdy⟩, ?_, ?_⟩
  · intro current earlier hat
    obtain ⟨_, -, -, hafter⟩ := hat.after
    exact hafter.find.1
  · rintro ⟨result, hdone, hconflicted⟩
    exact conflict_of_answer hconflicted hdone flight changes sturdy
  · intro x y h
    obtain ⟨result, hdone, cause, rfl, -⟩ := h.answered flight changes sturdy
    have hended := (sound_run clock capacity moves).ended flight hdone
    exact ⟨h.ne, hended.2, hended.1⟩
  · intro err hdone
    have haccounts := accounts_run clock capacity moves i f flight
    rw [hdone] at haccounts
    obtain ⟨order, hasks, rfl, rfl, hanswers⟩ := haccounts k id expected changes
    obtain ⟨current, hread, hagrees, hillegal⟩ := hanswers.illegal_of_clock rfl
    exact ⟨order, current, hasks, hread, hagrees, hillegal⟩

/-- Two calls have read a clock at its first version when one of them overwrites it. -/
theorem version_conflict_precise_of_race :
    let moves : List Move :=
      [.advance 2, .advance 3, .advance 3, .advance 3, .begin (.resetGameClock 1 none), .advance 2,
        .begin (.resetGameClock 1 none), .advance 1, .advance 1, .advance 1,
        .begin (.createGameClock (.full 1 600)), .advance 0, .advance 0,
        .begin (.createFixture ⟨1, 2, 3, "Final", 1, none⟩)]
    let t := (start .epoch 4).run moves
    ∃ f, t.calls[2]? = some f ∧ f.command.clock? = some (.game, 1, none) ∧
      (∀ fault, Move.fail 2 fault ∉ moves) ∧
      (start .epoch 4).Conflict moves 2 f.command .game 1 none 1 2 ∧
      (t.past 2).committed = [] ∧ (t.past 2).announced = [] := by
  intro moves t
  have hsturdy : ∀ fault, Move.fail 2 fault ∉ moves := by simp [moves]
  obtain ⟨-, hiff, hquiet, -⟩ :=
    version_conflict_precise .epoch 4 moves 2 _ .game 1 none rfl rfl hsturdy
  have hconflict := (hiff 1 2).mp ⟨_, rfl, _, rfl, rfl, rfl⟩
  exact ⟨_, rfl, rfl, hsturdy, hconflict, (hquiet 1 2 hconflict).2⟩

end Traffic

end Matchday
