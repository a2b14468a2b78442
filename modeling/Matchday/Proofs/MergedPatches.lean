import Matchday.Proofs.Entities

set_option autoImplicit false

namespace Matchday

def FixturePatch.onto (upper lower : FixturePatch) : FixturePatch where
  tournamentId := upper.tournamentId.or lower.tournamentId
  teamAId := upper.teamAId.or lower.teamAId
  teamBId := upper.teamBId.or lower.teamBId
  title := upper.title.or lower.title
  week := upper.week.or lower.week
  matchDate := upper.matchDate.or lower.matchDate

def ScoreboardPatch.onto (upper lower : ScoreboardPatch) : ScoreboardPatch where
  scoreTeamA := upper.scoreTeamA.or lower.scoreTeamA
  scoreTeamB := upper.scoreTeamB.or lower.scoreTeamB
  period := upper.period.or lower.period
  isFlag := upper.isFlag.or lower.isFlag

def PlayClockPatch.onto (upper lower : PlayClockPatch) : PlayClockPatch where
  playclock := upper.playclock.or lower.playclock
  status := upper.status.or lower.status

theorem FixturePatch.onto_self (p : FixturePatch) : p.onto p = p := by
  simp [onto]

theorem ScoreboardPatch.onto_self (p : ScoreboardPatch) : p.onto p = p := by
  simp [onto]

theorem PlayClockPatch.onto_self (p : PlayClockPatch) : p.onto p = p := by
  simp [onto]

structure FixturePatch.Restates (p : FixturePatch) (d : FixtureDraft) : Prop where
  tournamentId : ∀ n ∈ p.tournamentId, n = d.tournamentId
  teamAId : ∀ n ∈ p.teamAId, n = d.teamAId
  teamBId : ∀ n ∈ p.teamBId, n = d.teamBId
  title : ∀ s ∈ p.title, s = d.title
  week : ∀ n ∈ p.week, n = d.week
  matchDate : ∀ i ∈ p.matchDate, some i = d.matchDate

structure ScoreboardPatch.Restates (p : ScoreboardPatch) (d : ScoreboardDraft) : Prop where
  scoreTeamA : ∀ n ∈ p.scoreTeamA, n = d.scoreTeamA
  scoreTeamB : ∀ n ∈ p.scoreTeamB, n = d.scoreTeamB
  period : ∀ n ∈ p.period, n = d.period
  isFlag : ∀ b ∈ p.isFlag, b = d.isFlag

structure PlayClockPatch.Restates (p : PlayClockPatch) (d : PlayClockDraft) : Prop where
  playclock : ∀ n ∈ p.playclock, some n = d.playclock
  status : ∀ s ∈ p.status, s = d.status

section

variable {α : Type}

theorem getD_of_forall_mem {o : Option α} {a : α} (h : ∀ b ∈ o, b = a) : o.getD a = a := by
  cases o with
  | none => rfl
  | some b => exact h b rfl

theorem or_of_forall_mem {o a : Option α} (h : ∀ b ∈ o, some b = a) : o.or a = a := by
  cases o with
  | none => rfl
  | some b => exact h b rfl

end

def FixtureDraft.tidied (d : FixtureDraft) : FixtureDraft := { d with title := Text.trim d.title }

namespace Fixture

variable {m next last : Fixture} {p q : FixturePatch}

theorem withPatch_eq_ok_iff :
    m.withPatch p = .ok next ↔
      next.id = m.id ∧ next.fields = (m.merged p).tidied ∧ next.fields.Sound := make_eq_ok_iff

theorem tidied_merged_onto (h : next.fields = (m.merged p).tidied) (q : FixturePatch) :
    (next.merged q).tidied = (m.merged (q.onto p)).tidied := by
  have htitle : Text.trim (q.title.getD (Text.trim (p.title.getD m.fields.title))) =
      Text.trim ((q.title.or p.title).getD m.fields.title) := by
    cases q.title with
    | none => exact Text.trim_trim _
    | some title => rfl
  simp [merged, FixtureDraft.tidied, FixturePatch.onto, h, htitle, Option.or_assoc]

theorem tidied_merged_restated (sound : m.fields.Sound) (h : p.Restates m.fields) :
    (m.merged p).tidied = m.fields := by
  have hmerged : m.merged p = m.fields := by
    simp [merged, getD_of_forall_mem h.tournamentId, getD_of_forall_mem h.teamAId,
      getD_of_forall_mem h.teamBId, getD_of_forall_mem h.title, getD_of_forall_mem h.week,
      or_of_forall_mem h.matchDate]
  rw [hmerged, FixtureDraft.tidied, sound.trimmed]

theorem withPatch_onto (hnext : m.withPatch p = .ok next) (hlast : next.withPatch q = .ok last) :
    m.withPatch (q.onto p) = .ok last := by
  rw [withPatch_eq_ok_iff] at hnext hlast ⊢
  obtain ⟨hid, hfields, -⟩ := hnext
  obtain ⟨hid', hfields', hsound⟩ := hlast
  exact ⟨hid'.trans hid, hfields'.trans (tidied_merged_onto hfields q), hsound⟩

theorem withPatch_again (h : m.withPatch p = .ok next) : next.withPatch p = .ok next := by
  obtain ⟨-, hfields, hsound⟩ := withPatch_eq_ok_iff.mp h
  have hmerged : (next.merged p).tidied = (m.merged p).tidied := by
    rw [tidied_merged_onto hfields, p.onto_self]
  exact withPatch_eq_ok_iff.mpr ⟨rfl, hfields.trans hmerged.symm, hsound⟩

theorem withPatch_restated (sound : m.fields.Sound) (h : p.Restates m.fields) :
    m.withPatch p = .ok m :=
  withPatch_eq_ok_iff.mpr ⟨rfl, (tidied_merged_restated sound h).symm, sound⟩

end Fixture

namespace Scoreboard

variable {s next last : Scoreboard} {p q : ScoreboardPatch}

theorem withPatch_eq_ok_iff :
    s.withPatch p = .ok next ↔ (s.merged p).Sound ∧ ⟨s.id, s.merged p⟩ = next := make_eq_ok_iff

theorem merged_onto (id : Int) :
    merged ⟨id, s.merged p⟩ q = s.merged (q.onto p) := by
  simp [merged, ScoreboardPatch.onto]

theorem merged_restated (h : p.Restates s.fields) : s.merged p = s.fields := by
  simp [merged, getD_of_forall_mem h.scoreTeamA, getD_of_forall_mem h.scoreTeamB,
    getD_of_forall_mem h.period, getD_of_forall_mem h.isFlag]

theorem withPatch_onto (hnext : s.withPatch p = .ok next) (hlast : next.withPatch q = .ok last) :
    s.withPatch (q.onto p) = .ok last := by
  obtain ⟨-, rfl⟩ := withPatch_eq_ok_iff.mp hnext
  rw [withPatch_eq_ok_iff, merged_onto] at hlast
  exact withPatch_eq_ok_iff.mpr hlast

theorem withPatch_again (h : s.withPatch p = .ok next) : next.withPatch p = .ok next := by
  obtain ⟨hsound, rfl⟩ := withPatch_eq_ok_iff.mp h
  rw [withPatch_eq_ok_iff, merged_onto, p.onto_self]
  exact ⟨hsound, rfl⟩

theorem withPatch_restated (sound : s.fields.Sound) (h : p.Restates s.fields) :
    s.withPatch p = .ok s := by
  rw [withPatch_eq_ok_iff, merged_restated h]
  exact ⟨sound, rfl⟩

end Scoreboard

namespace PlayClock

variable {c next last : PlayClock} {p q : PlayClockPatch}

theorem merged_onto : (c.advance (c.merged p)).merged q = c.merged (q.onto p) := by
  simp [merged, advance, PlayClockPatch.onto, Option.or_assoc]

theorem merged_restated (h : p.Restates c.fields) : c.merged p = c.fields := by
  simp [merged, or_of_forall_mem h.playclock, getD_of_forall_mem h.status]

theorem withPatch_onto (hnext : c.withPatch p = .ok next) (hlast : next.withPatch q = .ok last) :
    c.withPatch (q.onto p) = .ok (c.advance last.fields) := by
  obtain ⟨-, rfl⟩ := withPatch_eq_ok_iff.mp hnext
  obtain ⟨hsound, rfl⟩ := withPatch_eq_ok_iff.mp hlast
  rw [merged_onto] at hsound ⊢
  exact withPatch_eq_ok_iff.mpr ⟨hsound, rfl⟩

theorem withPatch_again (h : c.withPatch p = .ok next) :
    next.withPatch p = .ok (next.advance next.fields) := by
  obtain ⟨hsound, rfl⟩ := withPatch_eq_ok_iff.mp h
  rw [withPatch_eq_ok_iff, merged_onto, p.onto_self]
  exact ⟨hsound, rfl⟩

theorem withPatch_restated (sound : c.fields.Sound) (h : p.Restates c.fields) :
    c.withPatch p = .ok (c.advance c.fields) := by
  rw [withPatch_eq_ok_iff, merged_restated h]
  exact ⟨sound, rfl⟩

end PlayClock

/-- The tables whose rows a patch changes in the same way at all times. -/
inductive Patchable
  | fixture
  | scoreboard
  | playclock
  deriving DecidableEq, Repr

namespace Patchable

abbrev table : Patchable → WatchedTable
  | fixture => .fixture
  | scoreboard => .scoreboard
  | playclock => .playclock

abbrev Patch : Patchable → Type
  | fixture => FixturePatch
  | scoreboard => ScoreboardPatch
  | playclock => PlayClockPatch

def withPatch : (k : Patchable) → k.table.Row → k.Patch → Except k.table.Reason k.table.Row
  | fixture, row, p => Fixture.withPatch row p
  | scoreboard, row, p => Scoreboard.withPatch row p
  | playclock, row, p => PlayClock.withPatch row p

def onto : (k : Patchable) → (upper lower : k.Patch) → k.Patch
  | fixture, upper, lower => FixturePatch.onto upper lower
  | scoreboard, upper, lower => ScoreboardPatch.onto upper lower
  | playclock, upper, lower => PlayClockPatch.onto upper lower

def Restates : (k : Patchable) → k.Patch → k.table.Row → Prop
  | fixture, p, row => FixturePatch.Restates p row.fields
  | scoreboard, p, row => ScoreboardPatch.Restates p row.fields
  | playclock, p, row => PlayClockPatch.Restates p row.fields

def nothing : (k : Patchable) → k.Patch
  | fixture => ({} : FixturePatch)
  | scoreboard => ({} : ScoreboardPatch)
  | playclock => ({} : PlayClockPatch)

/-- The patch succeeds and leaves the row with the fields of another one: a play clock one version on, up
to the greatest, and a row that has no version as that other row. -/
def Brings (k : Patchable) (p : k.Patch) (row like : k.table.Row) : Prop :=
  ∃ next, k.withPatch row p = .ok next ∧ k.table.fields next = k.table.fields like ∧
    k.table.rowId next = k.table.rowId row ∧
    ((k.table.version? next).map Version.number =
      (k.table.version? row).map fun v => min (v.number + 1) greatestVersion) ∧
    (k ≠ .playclock → next = like)

variable {k : Patchable} {row next last : k.table.Row} {p q : k.Patch}

theorem brings_fixture {p : FixturePatch} {row like : Fixture} (h : row.withPatch p = .ok like) :
    Brings .fixture p row like :=
  ⟨like, h, rfl, (Fixture.withPatch_eq_ok_iff.mp h).1, rfl, fun _ => rfl⟩

theorem brings_scoreboard {p : ScoreboardPatch} {row like : Scoreboard}
    (h : row.withPatch p = .ok like) : Brings .scoreboard p row like := by
  obtain ⟨-, rfl⟩ := Scoreboard.withPatch_eq_ok_iff.mp h
  exact ⟨_, h, rfl, rfl, rfl, fun _ => rfl⟩

theorem brings_playclock {p : PlayClockPatch} {row like : PlayClock}
    (h : row.withPatch p = .ok (row.advance like.fields)) : Brings .playclock p row like :=
  ⟨_, h, rfl, rfl, congrArg some row.version.number_next, fun h => absurd rfl h⟩

theorem brings_self (h : k.withPatch row p = .ok next) : k.Brings p row next := by
  cases k with
  | fixture => exact brings_fixture h
  | scoreboard => exact brings_scoreboard h
  | playclock =>
    obtain ⟨hsound, rfl⟩ := PlayClock.withPatch_eq_ok_iff.mp h
    exact brings_playclock h

theorem brings_onto (hnext : k.withPatch row p = .ok next) (hlast : k.withPatch next q = .ok last) :
    k.Brings (k.onto q p) row last := by
  cases k with
  | fixture => exact brings_fixture (Fixture.withPatch_onto hnext hlast)
  | scoreboard => exact brings_scoreboard (Scoreboard.withPatch_onto hnext hlast)
  | playclock => exact brings_playclock (PlayClock.withPatch_onto hnext hlast)

theorem brings_again (h : k.withPatch row p = .ok next) : k.Brings p next next := by
  cases k with
  | fixture => exact brings_fixture (Fixture.withPatch_again h)
  | scoreboard => exact brings_scoreboard (Scoreboard.withPatch_again h)
  | playclock => exact brings_playclock (PlayClock.withPatch_again h)

theorem brings_restated (sound : k.table.Sound (k.table.fields row)) (h : k.Restates p row) :
    k.Brings p row row := by
  cases k with
  | fixture => exact brings_fixture (Fixture.withPatch_restated sound h)
  | scoreboard => exact brings_scoreboard (Scoreboard.withPatch_restated sound h)
  | playclock => exact brings_playclock (PlayClock.withPatch_restated sound h)

theorem restates_nothing (row : k.table.Row) : k.Restates k.nothing row := by
  cases k <;> constructor <;> exact nofun

/-- For a row that its own fields make: two patches in turn come to the second one laid over the first;
a patch that is applied again changes no field, nor does one that names fields with the values they have,
of which the empty patch is one. Every patch that succeeds takes a play clock one version on, up to the
greatest; the other rows have no version and come out the same. -/
theorem patches_compose (valid : k.table.remake row = .ok row) :
    (∀ p q next last, k.withPatch row p = .ok next → k.withPatch next q = .ok last →
      k.Brings (k.onto q p) row last) ∧
    (∀ p next, k.withPatch row p = .ok next → k.Brings p row next ∧ k.Brings p next next) ∧
    (∀ p, k.Restates p row → k.Brings p row row) ∧ k.Restates k.nothing row := by
  have hsound := (WatchedTable.make_eq_ok valid).1
  refine ⟨?_, ?_, ?_, restates_nothing row⟩
  · intro p q next last hnext hlast
    exact brings_onto hnext hlast
  · intro p next h
    exact ⟨brings_self h, brings_again h⟩
  · intro p h
    exact brings_restated hsound h

theorem patches_compose_of_title_and_clock :
    let p : FixturePatch := { title := some " Cup", teamBId := some 6 }
    let q : FixturePatch := { title := some "Final\u3000", week := some 2 }
    let clock : PlayClock := ⟨5, ⟨2147483646, by decide, by decide⟩, ⟨3, some 40, .running⟩⟩
    Fixture.withPatch ⟨7, ⟨1, 4, 5, "Derby", 0, none⟩⟩ (q.onto p) =
        .ok ⟨7, ⟨1, 4, 6, "Final", 2, none⟩⟩ ∧
      ∃ once, clock.withPatch { playclock := some 25, status := some .stopped } = .ok once ∧
        once.fields = ⟨3, some 25, .stopped⟩ ∧ once.version = .greatest := by
  intro p q clock
  have hvalid : WatchedTable.remake .fixture ⟨7, ⟨1, 4, 5, "Derby", 0, none⟩⟩ =
      .ok ⟨7, ⟨1, 4, 5, "Derby", 0, none⟩⟩ := by rfl
  have hnext : Fixture.withPatch ⟨7, ⟨1, 4, 5, "Derby", 0, none⟩⟩
      { title := some " Cup", teamBId := some 6 } = .ok ⟨7, ⟨1, 4, 6, "Cup", 0, none⟩⟩ := by rfl
  have hlast : Fixture.withPatch ⟨7, ⟨1, 4, 6, "Cup", 0, none⟩⟩
      { title := some "Final\u3000", week := some 2 } = .ok ⟨7, ⟨1, 4, 6, "Final", 2, none⟩⟩ := by rfl
  obtain ⟨hfixture, -⟩ := @patches_compose .fixture ⟨7, ⟨1, 4, 5, "Derby", 0, none⟩⟩ hvalid
  obtain ⟨both, hboth, -, -, -, hsame⟩ := hfixture p q _ _ hnext hlast
  obtain ⟨hclock, -⟩ := @patches_compose .playclock clock rfl
  obtain ⟨once, honce, hfields, -, hversion, -⟩ :=
    hclock { playclock := some 25 } { status := some .stopped } _ _ rfl rfl
  refine ⟨hsame (by decide) ▸ hboth, once, honce, hfields, Version.ext ?_⟩
  exact Option.some.inj hversion

end Patchable

end Matchday
