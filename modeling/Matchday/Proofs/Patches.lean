import Matchday.Proofs.Conduct
import Mathlib.Data.List.DropRight

set_option autoImplicit false

namespace Matchday

namespace Text

theorem trimChars_eq (cs : List Char) :
    trimChars cs = (cs.dropWhile isBlank).rdropWhile isBlank := rfl

theorem trimChars_trimChars (cs : List Char) : trimChars (trimChars cs) = trimChars cs := by
  rw [trimChars_eq cs]
  generalize hrest : cs.dropWhile isBlank = rest
  have hidem : rest.dropWhile isBlank = rest := by
    rw [← hrest]
    exact List.dropWhile_idempotent _ _
  have hfront : (rest.rdropWhile isBlank).dropWhile isBlank = rest.rdropWhile isBlank := by
    rw [List.dropWhile_eq_self_iff] at hidem ⊢
    intro hpos
    have hprefix := rest.rdropWhile_prefix isBlank
    rw [List.IsPrefix.getElem hprefix hpos]
    exact hidem (Nat.lt_of_lt_of_le hpos hprefix.length_le)
  rw [trimChars_eq, hfront]
  exact List.rdropWhile_idempotent _ _

theorem trim_trim (s : String) : trim (trim s) = trim s := by
  rw [trim, trim, String.toList_ofList, trimChars_trimChars]

end Text

/-- The tables whose rows carry no version. -/
inductive Plain
  | fixture
  | scoreboard
  deriving DecidableEq, Repr

namespace Plain

abbrev Row : Plain → Type
  | fixture => Fixture
  | scoreboard => Scoreboard

abbrev Patch : Plain → Type
  | fixture => FixturePatch
  | scoreboard => ScoreboardPatch

def table : Plain → WatchedTable
  | fixture => .fixture
  | scoreboard => .scoreboard

def rowId : (k : Plain) → k.Row → Int
  | fixture, row => row.id
  | scoreboard, row => row.id

inductive Field : Plain → Type
  | tournamentId : Field fixture
  | teamAId : Field fixture
  | teamBId : Field fixture
  | title : Field fixture
  | week : Field fixture
  | matchDate : Field fixture
  | scoreTeamA : Field scoreboard
  | scoreTeamB : Field scoreboard
  | period : Field scoreboard
  | isFlag : Field scoreboard

namespace Field

abbrev Value : {k : Plain} → Field k → Type
  | _, title => String
  | _, matchDate => Option Instant
  | _, isFlag => Bool
  | _, _ => Int

def value : {k : Plain} → (f : Field k) → k.Row → f.Value
  | _, tournamentId, row => row.fields.tournamentId
  | _, teamAId, row => row.fields.teamAId
  | _, teamBId, row => row.fields.teamBId
  | _, title, row => row.fields.title
  | _, week, row => row.fields.week
  | _, matchDate, row => row.fields.matchDate
  | _, scoreTeamA, row => row.fields.scoreTeamA
  | _, scoreTeamB, row => row.fields.scoreTeamB
  | _, period, row => row.fields.period
  | _, isFlag, row => row.fields.isFlag

/-- The value that a patch gives a field, if it names it; a title counts without the blanks around it. -/
def given : {k : Plain} → (f : Field k) → k.Patch → Option f.Value
  | _, tournamentId, patch => patch.tournamentId
  | _, teamAId, patch => patch.teamAId
  | _, teamBId, patch => patch.teamBId
  | _, title, patch => patch.title.map Text.trim
  | _, week, patch => patch.week
  | _, matchDate, patch => patch.matchDate.map some
  | _, scoreTeamA, patch => patch.scoreTeamA
  | _, scoreTeamB, patch => patch.scoreTeamB
  | _, period, patch => patch.period
  | _, isFlag, patch => patch.isFlag

end Field

/-- A row becomes another one by a patch. -/
def Patched : (k : Plain) → k.Row → k.Patch → k.Row → Prop
  | fixture, row, patch, next => row.withPatch patch = .ok next
  | scoreboard, row, patch, next => Scoreboard.withPatch row patch = .ok next

/-- What a row is like that has been checked before it was written. -/
def Tidy : (k : Plain) → k.Row → Prop
  | fixture, row => Text.trim row.fields.title = row.fields.title
  | scoreboard, _ => True

variable {k : Plain} {row next : k.Row} {patch : k.Patch}

theorem Patched.rowId (h : k.Patched row patch next) : k.rowId next = k.rowId row := by
  cases k with
  | fixture => exact (Service.withPatch_fixture h).1
  | scoreboard => exact (Service.withPatch_scoreboard h).1

theorem check_fixture {draft fields : FixtureDraft} (h : draft.check = .ok fields) :
    fields = { draft with title := Text.trim draft.title } := by
  simp only [FixtureDraft.check] at h
  split_ifs at h
  cases h
  rfl

theorem tidy_of_check {draft fields : FixtureDraft} (h : draft.check = .ok fields) :
    Text.trim fields.title = fields.title := by
  rw [check_fixture h]
  exact Text.trim_trim draft.title

theorem Patched.value (h : k.Patched row patch next) (tidy : k.Tidy row) (f : Field k) :
    f.value next = (f.given patch).getD (f.value row) := by
  cases k with
  | fixture =>
    have hfields := check_fixture (Service.withPatch_fixture h).2
    cases f with
    | title =>
      simp only [Field.value, Field.given, hfields, Fixture.merged]
      cases patch.title with
      | none => exact tidy
      | some title => rfl
    | matchDate =>
      simp only [Field.value, Field.given, hfields, Fixture.merged]
      cases patch.matchDate <;> rfl
    | _ => simp only [Field.value, Field.given, hfields, Fixture.merged]
  | scoreboard =>
    have hfields : next.fields = Scoreboard.merged row patch := by
      simp only [Patched, Scoreboard.withPatch, Scoreboard.make] at h
      cases hcheck : (Scoreboard.merged row patch).check <;> rw [hcheck] at h <;> cases h
      rfl
    cases f <;> simp only [Field.value, Field.given, hfields, Scoreboard.merged]

end Plain

def Call.fixture? : Call → Option FixtureDraft
  | .insertFixture fields => some fields
  | .updateFixture row => some row.fields
  | _ => none

theorem Service.Command.Justified.fixture_checked {command : Service.Command} {past : Past} {c : Call}
    {fields : FixtureDraft} (justified : command.Justified past c) (written : fields ∈ c.fixture?) :
    ∃ draft : FixtureDraft, draft.check = .ok fields := by
  cases c with
  | insertFixture given =>
    cases written
    obtain ⟨draft, -, hcheck⟩ := justified
    exact ⟨draft, hcheck⟩
  | updateFixture row =>
    cases written
    obtain ⟨id, current, patch, -, -, hpatch⟩ := justified
    exact ⟨current.merged patch, (Service.withPatch_fixture hpatch).2⟩
  | _ => cases written

namespace Store

def plain (s : Store) : (k : Plain) → Int → Option k.Row
  | .fixture, id => s.fixtures.rows.get? id
  | .scoreboard, id => s.findPart .scoreboard id

variable {s s' : Store} {c : Call} {changes : List RowChange} {k : Plain} {id : Int}

theorem Integrity.plain_own (h : s.Integrity) {row : k.Row} (found : s.plain k id = some row) :
    k.rowId row = id := by
  cases k with
  | fixture => exact h.fixtures.own id row found
  | scoreboard => exact (h.parts .scoreboard).own id row found

theorem deleted_mem_removal_changes {p : Part} {m : Int} (row : Fixture) (owned : id ∈ s.ownedIds p m) :
    .deleted p.table id (some row.id) ∈ (s.removal row m).changes := by
  have hmem : .deleted p.table id (some row.id) ∈
      (s.ownedIds p m).map (RowChange.deleted p.table · (some row.id)) := List.mem_map_of_mem owned
  simp only [Removal.changes, removal, List.mem_append]
  cases p with
  | scoreboard => exact .inl (.inl (.inl hmem))
  | gameclock => exact .inl (.inl (.inr hmem))
  | playclock => exact .inl (.inr hmem)

theorem Effect.findPart_untold (e : s.Effect c changes s') (h : s.Integrity) {p : Part}
    (untold : ∀ change ∈ changes, change.table = p.table → change.rowId ≠ id) :
    s'.findPart p id = s.findPart p id := by
  have hother {q : Part} {t : Numbered q.Row} (hq : q ≠ p) :
      (s.setPart q t).findPart p id = s.findPart p id := findPart_setPart_of_ne s t id (Ne.symm hq)
  cases e with
  | still fixtures parts => rw [findPart, findPart, parts]
  | @spent q draft last message next refused =>
    by_cases hq : q = p
    · subst hq
      rw [findPart_setPart_self, findPart]
    · exact hother hq
  | fixtureInserted next | fixtureUpdated found => cases p <;> rfl
  | @fixtureDeleted m row found =>
    have hkept (r : p.Row) (hr : s.findPart p id = some r) : p.ownerId r ≠ m := by
      rintro rfl
      have howned : id ∈ s.ownedIds p (p.ownerId r) :=
        (mem_ownedIds h).mpr (live_part_eq_some.mpr ⟨r, hr, rfl⟩)
      exact untold _ (deleted_mem_removal_changes row howned) rfl rfl
    rw [findPart_withoutFixture (h.parts p).ordered]
    cases hr : s.findPart p id with
    | none => rfl
    | some r => exact Option.filter_some_pos (by simpa using hkept r hr)
  | @partInserted q draft j row owned free next made =>
    by_cases hq : q = p
    · subst hq
      have hj : j ≠ id := (Part.make_ok made).1 ▸ untold _ List.mem_cons_self rfl
      rw [findPart_setPart_self, Table.get?_insert, if_neg hj.symm, findPart]
    · exact hother hq
  | @partOverwritten _ q old row writes found =>
    by_cases hq : q = p
    · subst hq
      have hj : q.rowId row ≠ id := untold _ List.mem_cons_self rfl
      rw [putPart, findPart_setPart_self, Table.get?_insert, if_neg hj.symm, findPart]
    · exact hother hq
  | @partDeleted q j row found =>
    by_cases hq : q = p
    · subst hq
      have hj : j ≠ id := (h.parts q).own j row found ▸ untold _ List.mem_cons_self rfl
      rw [findPart_setPart_self, Table.get?_erase, if_neg hj.symm, findPart]
    · exact hother hq

theorem Effect.fixture_untold (e : s.Effect c changes s') (h : s.Integrity)
    (untold : ∀ change ∈ changes, change.table = .fixture → change.rowId ≠ id) :
    s'.fixtures.rows.get? id = s.fixtures.rows.get? id := by
  cases e with
  | still fixtures parts => rw [fixtures]
  | spent next refused | partInserted owned free next made | partOverwritten writes found
  | partDeleted found => simp only [putPart, fixtures_setPart]
  | @fixtureInserted fields j next =>
    have hj : j ≠ id := untold _ List.mem_cons_self rfl
    exact (Table.get?_insert _ j id _).trans (if_neg hj.symm)
  | @fixtureUpdated row found =>
    have hj : row.id ≠ id := untold _ List.mem_cons_self rfl
    exact (Table.get?_insert _ row.id id _).trans (if_neg hj.symm)
  | @fixtureDeleted m row found =>
    have hrow : row.id = m := h.fixtures.own m row found
    have hm : m ≠ id := hrow ▸ untold (.deleted .fixture row.id none) (by simp [Removal.changes, removal]) rfl
    exact (Table.get?_erase _ m id).trans (if_neg hm.symm)

theorem Effect.plain_untold (e : s.Effect c changes s') (h : s.Integrity)
    (untold : ∀ change ∈ changes, change.table = k.table → change.rowId ≠ id) :
    s'.plain k id = s.plain k id := by
  cases k with
  | fixture => exact e.fixture_untold h untold
  | scoreboard => exact e.findPart_untold h (p := .scoreboard) untold

def FixturesAre (s : Store) (P : FixtureDraft → Prop) : Prop :=
  ∀ id row, s.fixtures.rows.get? id = some row → P row.fields

def Tidy (s : Store) : Prop := s.FixturesAre fun fields => Text.trim fields.title = fields.title

theorem Tidy.plain (h : s.Tidy) {row : k.Row} (found : s.plain k id = some row) : k.Tidy row := by
  cases k with
  | fixture => exact h id row found
  | scoreboard => trivial

variable {P : FixtureDraft → Prop}

theorem FixturesAre.insert (h : s.FixturesAre P) (row : Fixture) (last : Int) (fields : P row.fields) :
    FixturesAre { s with fixtures := ⟨s.fixtures.rows.insert row.id row, last⟩ } P := by
  intro j r hr
  rw [Table.get?_insert] at hr
  split_ifs at hr
  · cases hr
    exact fields
  · exact h j r hr

theorem Effect.fixturesAre (written : ∀ fields ∈ c.fixture?, P fields) (e : s.Effect c changes s')
    (h : s.FixturesAre P) : s'.FixturesAre P := by
  have hsame (fixtures : s'.fixtures = s.fixtures) : s'.FixturesAre P := by
    intro j r hr
    rw [fixtures] at hr
    exact h j r hr
  cases e with
  | still fixtures parts => exact hsame fixtures
  | spent next refused | partInserted owned free next made | partDeleted found =>
    exact hsame (fixtures_setPart _ _ _)
  | partOverwritten writes found => exact hsame (fixtures_setPart _ _ _)
  | @fixtureInserted fields id next => exact h.insert ⟨id, fields⟩ id (written fields rfl)
  | @fixtureUpdated row found => exact h.insert row _ (written row.fields rfl)
  | @fixtureDeleted m row found =>
    intro j r hr
    rw [fixtures_withoutFixture, Table.get?_erase] at hr
    split_ifs at hr
    exact h j r hr

end Store

theorem Traffic.tidy_run (clock : Instant) (capacity : Nat) (moves : List Traffic.Move) :
    ((Traffic.start clock capacity).run moves).world.store.Tidy := by
  have hboth : ((Traffic.start clock capacity).run moves).Sound ∧
      ((Traffic.start clock capacity).run moves).world.store.Tidy := by
    refine run_induction (I := fun t => t.Sound ∧ t.world.store.Tidy) ?_ ?_ moves
    · exact ⟨sound_start clock capacity, nofun⟩
    · rintro t t' ⟨hsound, htidy⟩ n
      refine ⟨hsound.next n, ?_⟩
      cases n with
      | same | begun c | ticked now => exact htidy
      | @took i f e rest w flight takes after =>
        have hallows := hsound.disciplined.allows flight takes
        rcases after.effect with ⟨c, r, rfl, heffect⟩ | ⟨hstore, -⟩
        · refine heffect.fixturesAre (fun fields hfields => ?_) htidy
          obtain ⟨draft, hcheck⟩ := hallows.2.fixture_checked hfields
          exact Plain.tidy_of_check hcheck
        · change w.store.Tidy
          rw [hstore]
          exact htidy
  exact hboth.2

namespace Plain

def found : (k : Plain) → Int → k.Row → Entry
  | fixture, id, row => .answered (.findFixture id) (.ok (some row))
  | scoreboard, id, row => .answered (.find .scoreboard id) (.ok (some row))

def written : (k : Plain) → (row saved : k.Row) → Entry
  | fixture, row, saved => .answered (.updateFixture row) (.ok (some saved))
  | scoreboard, row, saved => .answered (.updateScoreboard row) (.ok (some saved))

end Plain

namespace World.After

variable {w w' : World Store} {k : Plain} {id : Int}

theorem found {row : k.Row} (a : w.After (k.found id row) w') :
    w.store.plain k id = some row ∧ w'.store = w.store := by
  cases k with
  | fixture =>
    rcases of_answered a with ⟨hanswer, hstore⟩ | ⟨fault, hfault, -⟩
    · exact ⟨(Except.ok.inj hanswer).symm, hstore⟩
    · cases hfault
  | scoreboard => exact a.find

theorem written {row saved : k.Row} (a : w.After (k.written row saved) w') :
    saved = row ∧ w'.store.plain k (k.rowId row) = some row := by
  cases k with
  | fixture =>
    rcases of_answered a with ⟨hanswer, hstore⟩ | ⟨fault, hfault, -⟩
    · rw [hstore]
      simp only [Store.answer, Store.updateFixture, Prod.map] at hanswer ⊢
      split_ifs at hanswer ⊢
      · cases hanswer
        exact ⟨rfl, (Table.get?_insert _ _ _ _).trans (if_pos rfl)⟩
      · cases hanswer
    · cases hfault
  | scoreboard =>
    rcases of_answered a with ⟨hanswer, hstore⟩ | ⟨fault, hfault, -⟩
    · rw [hstore]
      simp only [Store.answer, Store.updateScoreboard, Prod.map] at hanswer ⊢
      split_ifs at hanswer ⊢
      · cases hanswer
        exact ⟨rfl, (Table.get?_insert _ _ _ _).trans (if_pos rfl)⟩
      · cases hanswer
    · cases hfault

end World.After

end Matchday
