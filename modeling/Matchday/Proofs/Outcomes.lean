import Matchday.Proofs.Execution

set_option autoImplicit false

namespace Matchday.Service

open Matchday

variable {now : Instant} {s s' : Store}

theorem yields_getFixture {id : Int} {row : Fixture} :
    Yields now s (getFixture id) row s' ↔ s.fixtures.rows.get? id = some row ∧ s = s' := by
  simp [getFixture, yields_bind, Prog.ask, Prog.exec, Store.answer]

theorem yields_getPart {p : Part} {id : Int} {row : p.Row} :
    Yields now s (getPart p id) row s' ↔ s.findPart p id = some row ∧ s = s' := by
  simp [getPart, yields_bind, Prog.ask, Prog.exec, Store.answer]

theorem yields_getPartByMatch {p : Part} {m : Int} {row : p.Row} :
    Yields now s (getPartByMatch p m) row s' ↔ s.findPartByMatch p m = some row ∧ s = s' := by
  simp [getPartByMatch, yields_bind, Prog.ask, Prog.exec, Store.answer]

theorem yields_getThrottle {m : Int} {record : ThrottleRecord} :
    Yields now s (getThrottle m) record s' ↔ s.throttle.get? m = some record ∧ s = s' := by
  simp [getThrottle, yields_bind, Prog.ask, Prog.exec, Store.answer]

theorem yields_announceAll {changes : List RowChange} {u : Unit} :
    Yields now s (announceAll changes) u s' ↔ s = s' := by
  induction changes generalizing s with
  | nil => simp [announceAll]
  | cons change rest ih => simp [announceAll, yields_bind, ih]

theorem yields_createFixture {draft : FixtureDraft} {row : Fixture}
    (h : Yields now s (createFixture draft) row s') :
    draft.check = .ok row.fields ∧
      s' = { s with fixtures := ⟨s.fixtures.rows.insert row.id row, row.id⟩ } := by
  simp only [createFixture, yields_bind, yields_ofExcept, yields_ask, yields_announce, yields_pure,
    Prog.ask, Prog.exec, Store.answer, Store.insertFixture] at h
  obtain ⟨fields, u, ⟨hcheck, rfl⟩, created, v, ⟨hcreated, hstore⟩, -, w, rfl, rfl, rfl⟩ := h
  cases hnext : s.fixtures.nextId? with
  | none =>
    rw [hnext] at hcreated
    cases hcreated
  | some id =>
    rw [hnext] at hcreated hstore
    cases hcreated
    exact ⟨hcheck, hstore.symm⟩

theorem yields_updateFixture {id : Int} {patch : FixturePatch} {row : Fixture}
    (h : Yields now s (updateFixture id patch) row s') :
    (∃ old, s.fixtures.rows.get? id = some old ∧ old.withPatch patch = .ok row) ∧
      s' = { s with fixtures.rows := s.fixtures.rows.insert row.id row } := by
  simp only [updateFixture, yields_bind, yields_getFixture, yields_ofExcept, yields_ask, yields_require,
    yields_announce, yields_pure, Prog.ask, Prog.exec, Store.answer, Store.updateFixture] at h
  obtain ⟨old, u, ⟨hold, rfl⟩, next, v, ⟨hnext, rfl⟩, written, w, ⟨hwritten, hstore⟩, saved, x,
    ⟨rfl, rfl⟩, -, y, rfl, rfl, rfl⟩ := h
  split_ifs at hwritten hstore
  · cases hwritten
    exact ⟨⟨old, hold, hnext⟩, hstore.symm⟩
  · cases hwritten

theorem yields_deleteFixture {id : Int} {row : Fixture}
    (h : Yields now s (deleteFixture id) row s') :
    s.fixtures.rows.get? id = some row ∧ s' = s.withoutFixture id := by
  simp only [deleteFixture, yields_bind, yields_ask, yields_require, yields_announceAll, yields_pure,
    Prog.ask, Prog.exec, Store.answer, Store.deleteFixture] at h
  obtain ⟨removed, u, ⟨hremoved, hstore⟩, removal, v, ⟨rfl, rfl⟩, -, w, rfl, rfl, rfl⟩ := h
  cases hfound : s.fixtures.rows.get? id with
  | none =>
    rw [hfound] at hremoved
    cases hremoved
  | some old =>
    rw [hfound] at hremoved hstore
    cases hremoved
    exact ⟨rfl, hstore.symm⟩

theorem yields_createPart {p : Part} {draft : p.Draft} {row : p.Row}
    (h : Yields now s (createPart p draft) row s') :
    (s.findPartByMatch p (p.ownerId row) = none ∧ (s.part p).nextId? = some (p.rowId row) ∧
        p.make (p.rowId row) draft = .ok row) ∧
      s' = s.setPart p ⟨(s.part p).rows.insert (p.rowId row) row, p.rowId row⟩ := by
  simp only [createPart, yields_bind, yields_getFixture, yields_ask, yields_announce, yields_pure,
    Prog.ask, Prog.exec, Store.answer] at h
  obtain ⟨fixture, u, ⟨-, rfl⟩, created, v, ⟨hcreated, hstore⟩, -, w, rfl, rfl, rfl⟩ := h
  rw [Store.insertPart] at hcreated hstore
  split_ifs at hcreated hstore with howned htaken
  cases hnext : (s.part p).nextId? with
  | none =>
    rw [hnext] at hcreated
    cases hcreated
  | some id =>
    cases hmade : p.make id draft with
    | error message =>
      simp only [hnext, hmade] at hcreated
      cases hcreated
    | ok made =>
      simp only [hnext, hmade] at hcreated hstore
      cases hcreated
      obtain ⟨hid, howner⟩ := Part.make_ok hmade
      rw [hid, howner]
      exact ⟨⟨by simpa using htaken, rfl, hmade⟩, hstore.symm⟩

theorem yields_deletePart {p : Part} {id : Int} {row : p.Row}
    (h : Yields now s (deletePart p id) row s') :
    s.findPart p id = some row ∧
      s' = s.setPart p { s.part p with rows := (s.part p).rows.erase id } := by
  simp only [deletePart, yields_bind, yields_ask, yields_require, yields_announce, yields_pure,
    Prog.ask, Prog.exec, Store.answer, Store.deletePart] at h
  obtain ⟨removed, u, ⟨hremoved, hstore⟩, old, v, ⟨rfl, rfl⟩, -, w, rfl, rfl, rfl⟩ := h
  cases hfound : s.findPart p id with
  | none =>
    rw [hfound] at hremoved
    cases hremoved
  | some old =>
    rw [hfound] at hremoved hstore
    cases hremoved
    exact ⟨rfl, hstore.symm⟩

theorem yields_updateScoreboard {id : Int} {patch : ScoreboardPatch} {row : Scoreboard}
    (h : Yields now s (updateScoreboard id patch) row s') :
    (∃ old, s.findPart .scoreboard id = some old ∧ row.id = old.id ∧
        row.fields.matchId = old.fields.matchId) ∧
      s' = s.putPart .scoreboard row := by
  simp only [updateScoreboard, yields_bind, yields_ofExcept, yields_ask, yields_require,
    yields_announce, yields_pure, Prog.ask, Prog.exec, Store.answer, Store.updateScoreboard] at h
  obtain ⟨old, u, hread, next, v, ⟨hnext, rfl⟩, written, w, ⟨hwritten, hstore⟩, saved, x,
    ⟨rfl, rfl⟩, -, y, rfl, rfl, rfl⟩ := h
  obtain ⟨hold, rfl⟩ := yields_getPart.mp hread
  split_ifs at hwritten hstore
  · cases hwritten
    exact ⟨⟨old, hold, withPatch_scoreboard hnext⟩, hstore.symm⟩
  · cases hwritten

theorem yields_checkVersion {k : ClockKind} {id : Int} {expected : Option Version} {current : Version}
    {u : Unit} (h : Yields now s (checkVersion k id expected current) u s') : s = s' := by
  unfold checkVersion at h
  split at h
  · split_ifs at h
    · exact (yields_pure.mp h).2
    · exact absurd h not_yields_fail
  · exact (yields_pure.mp h).2

theorem yields_transition {k : ClockKind} {id : Int} {expected : Option Version}
    {step : k.Row → Except ClockError k.Row} {row : k.Row}
    (h : Yields now s (transition k id expected step) row s') :
    (∃ old, s.findPart k.part id = some old ∧ step old = .ok row) ∧ s' = s.putPart k.part row := by
  simp only [transition, yields_bind, yields_getPart, yields_ofExcept, yields_ask,
    yields_announce, yields_pure, Prog.ask, Prog.exec, Store.answer] at h
  obtain ⟨old, u, ⟨hold, rfl⟩, agreed, v, hversion, next, w, ⟨hnext, rfl⟩, saved, x, ⟨hsaved, hstore⟩, -, y,
    rfl, rfl, rfl⟩ := h
  obtain rfl := yields_checkVersion hversion
  rcases s.updateClock_cases k next (k.version old) with ⟨stored, -, -, hupdate⟩ | ⟨fault, hupdate⟩
  · rw [hupdate] at hsaved hstore
    cases hsaved
    exact ⟨⟨old, hold, hnext⟩, hstore.symm⟩
  · rw [hupdate] at hsaved
    cases hsaved

@[simp] theorem yields_timeMs {t : Int} :
    Yields now s timeMs t s' ↔ now.toMillis = t ∧ s = s' := by
  simp only [timeMs, yields_bind, yields_time, yields_pure]
  constructor
  · rintro ⟨_, _, ⟨rfl, rfl⟩, ht⟩
    exact ht
  · rintro ⟨ht, hs⟩
    exact ⟨now, s, ⟨rfl, rfl⟩, ht, hs⟩

theorem yields_startedDraft {draft started : GameClockDraft}
    (h : Yields now s (startedDraft draft) started s') : s = s' := by
  unfold startedDraft at h
  split_ifs at h
  · simp only [yields_bind, yields_timeMs, yields_pure] at h
    obtain ⟨t, u, ⟨-, rfl⟩, -, rfl⟩ := h
    rfl
  · exact (yields_pure.mp h).2

theorem yields_touchThrottle {m : Int} {time : Option Instant} {record : ThrottleRecord}
    (h : Yields now s (touchThrottle m time) record s') :
    record = ⟨m, time.getD now⟩ ∧ s' = { s with throttle := s.throttle.insert m record } := by
  simp only [touchThrottle, yields_ask, Prog.ask, Prog.exec, Store.answer, Store.touchThrottle] at h
  obtain ⟨hrecord, hstore⟩ := h
  cases hrecord
  exact ⟨rfl, hstore.symm⟩

theorem exec_acquireThrottle {interval : Duration} {m : Int} :
    (acquireThrottle interval m).run.exec now s =
      match pendingWait interval now (s.throttle.get? m) with
      | some (last, wait) => ⟨.ok (.suppress last wait), s, []⟩
      | none =>
        ⟨.ok (.emit ⟨m, now⟩), { s with throttle := s.throttle.insert m ⟨m, now⟩ }, []⟩ := by
  have hstart : (acquireThrottle interval m).run.exec now s =
      (match pendingWait interval now (s.throttle.get? m) with
        | some (last, wait) => pure (.suppress last wait)
        | none => do
          let record ← touchThrottle m (some now)
          pure (.emit record) : Action ThrottleDecision).run.exec now s := rfl
  rw [hstart]
  cases pendingWait interval now (s.throttle.get? m) <;> rfl

theorem yields_acquireThrottle {interval : Duration} {m : Int} {decision : ThrottleDecision}
    (h : Yields now s (acquireThrottle interval m) decision s') :
    (decision = .emit ⟨m, now⟩ ∧ s' = { s with throttle := s.throttle.insert m ⟨m, now⟩ }) ∨
      ∃ last wait, decision = .suppress last wait ∧ s' = s := by
  rw [Yields, exec_acquireThrottle] at h
  cases hwait : pendingWait interval now (s.throttle.get? m) with
  | none =>
    rw [hwait] at h
    obtain ⟨hvalue, hstore⟩ := h
    cases hvalue
    exact .inl ⟨rfl, hstore.symm⟩
  | some wait =>
    rw [hwait] at h
    obtain ⟨hvalue, hstore⟩ := h
    cases hvalue
    exact .inr ⟨wait.1, wait.2, rfl, hstore.symm⟩

theorem yields_clearThrottle {m : Int} {u : Unit} (h : Yields now s (clearThrottle m) u s') :
    s' = { s with throttle := s.throttle.erase m } := by
  simp only [clearThrottle, yields_bind, yields_ask, Prog.ask, Prog.exec, Store.answer,
    Store.deleteThrottle] at h
  obtain ⟨removed, v, ⟨-, hstore⟩, hend⟩ := h
  split_ifs at hend
  · exact (hstore.trans (yields_pure.mp hend).2).symm
  · exact absurd hend not_yields_fail

end Matchday.Service
