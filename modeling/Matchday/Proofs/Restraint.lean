import Matchday.Proofs.Alone

set_option autoImplicit false

namespace Matchday

open Service

variable {α β ε : Type}

/-- The world stays as it is, unless the action returns a value for which it writes. -/
def Spares (writes : α → Prop) (a : ExceptT ε Prog α) : Prop :=
  ∀ w : World Store, (a.run.run Store.storage w).2 = w ∨
    ∃ x, (a.run.run Store.storage w).1 = .ok x ∧ writes x

/-- The action does not fail, and returns such a value. -/
def Returns (good : α → Prop) (a : ExceptT ε Prog α) : Prop :=
  ∀ w : World Store, ∃ x, (a.run.run Store.storage w).1 = .ok x ∧ good x

variable {P : α → Prop} {Q : β → Prop} {a : ExceptT ε Prog α} {f : α → ExceptT ε Prog β}

theorem run_bind_ok {w : World Store} {x : α} (h : (a.run.run Store.storage w).1 = .ok x) :
    (a >>= f).run.run Store.storage w =
      (f x).run.run Store.storage (a.run.run Store.storage w).2 := by
  change (a.run.bind _).run Store.storage w = _
  rw [Prog.run_bind, h]
  rfl

theorem run_bind_error {w : World Store} {e : ε} (h : (a.run.run Store.storage w).1 = .error e) :
    (a >>= f).run.run Store.storage w = (.error e, (a.run.run Store.storage w).2) := by
  change (a.run.bind _).run Store.storage w = _
  rw [Prog.run_bind, h]
  rfl

namespace Returns

theorem pure {x : α} (good : P x) : Returns P (Pure.pure x : ExceptT ε Prog α) :=
  fun _ => ⟨x, rfl, good⟩

theorem bind (ha : Returns P a) (hf : ∀ x, P x → Returns Q (f x)) : Returns Q (a >>= f) := by
  intro w
  obtain ⟨x, hx, hP⟩ := ha w
  rw [run_bind_ok hx]
  exact hf x hP _

theorem announce (change : RowChange) : Returns (fun _ => True) (Action.announce change) :=
  fun _ => ⟨(), rfl, trivial⟩

theorem announceAll (changes : List RowChange) :
    Returns (fun _ => True) (Service.announceAll changes) := by
  induction changes with
  | nil => exact pure trivial
  | cons change rest ih => exact (announce change).bind fun _ _ => ih

theorem announced {x : α} (good : P x) (change : RowChange) :
    Returns P (do Action.announce change; Pure.pure x) :=
  (announce change).bind fun _ _ => pure good

theorem touchThrottle (matchId : Int) (time : Option Instant) :
    Returns (fun _ => True) (Service.touchThrottle matchId time) :=
  fun _ => ⟨_, rfl, trivial⟩

end Returns

namespace Spares

theorem mono {P' : α → Prop} (h : Spares P a) (weaker : ∀ x, P x → P' x) : Spares P' a := by
  intro w
  rcases h w with hsame | ⟨x, hx, hP⟩
  · exact .inl hsame
  · exact .inr ⟨x, hx, weaker x hP⟩

theorem of_returns (h : Returns P a) : Spares P a := fun w => .inr (h w)

theorem of_done {r : Except ε α} : Spares P (ExceptT.mk (.done r)) := fun _ => .inl rfl

theorem bind (ha : Spares P a) (idle : ∀ x, Spares Q (f x)) (busy : ∀ x, P x → Returns Q (f x)) :
    Spares Q (a >>= f) := by
  intro w
  rcases ha w with hsame | ⟨x, hx, hP⟩
  · cases hresult : (a.run.run Store.storage w).1 with
    | error e =>
      rw [run_bind_error hresult]
      exact .inl hsame
    | ok x =>
      rw [run_bind_ok hresult, hsame]
      exact idle x w
  · rw [run_bind_ok hx]
    exact .inr (busy x hP _)

theorem before (ha : Spares (fun _ => False) a) (hf : ∀ x, Spares Q (f x)) : Spares Q (a >>= f) :=
  ha.bind hf fun _ h => h.elim

theorem bind_returns (ha : Spares P a) (hf : ∀ x, Returns Q (f x)) : Spares Q (a >>= f) :=
  ha.bind (fun x => of_returns (hf x)) fun x _ => hf x

theorem ask {ε' : Type} {g : ε' → Cause} {p : Prog (Except ε' α)} (h : Spares P (ExceptT.mk p)) :
    Spares P (Action.ask g p) := by
  intro w
  have hrun : (Action.ask g p).run.run Store.storage w =
      ((p.run Store.storage w).1.mapError g, (p.run Store.storage w).2) := Prog.run_bind _ _ _ _
  rw [hrun]
  rcases h w with hsame | ⟨x, hx, hP⟩
  · exact .inl hsame
  · have hvalue : (p.run Store.storage w).1 = .ok x := hx
    rw [hvalue]
    exact .inr ⟨x, rfl, hP⟩

theorem required {p : Action (Option α)} {g : α → Action β} {cause : Cause}
    (hp : Spares (fun found => found.isSome = true) p) (hg : ∀ x, Returns Q (g x)) :
    Spares Q (do let found ← p; let x ← Action.require cause found; g x) := by
  have hsome (x : α) : Returns Q (do let x ← Action.require cause (some x); g x) :=
    Returns.bind (P := fun y => y = x) (fun _ => ⟨x, rfl, rfl⟩) fun y _ => hg y
  refine hp.bind ?_ ?_
  · rintro (_ | x)
    · exact .before of_done fun x => of_returns (hg x)
    · exact of_returns (hsome x)
  · rintro (_ | x) hfound
    · cases hfound
    · exact hsome x

theorem insertFixture (fields : FixtureDraft) :
    Spares (fun _ => True) (ExceptT.mk (Prog.ask (.insertFixture fields))) := by
  intro w
  change { w with store := (w.store.insertFixture fields).2 } = w ∨
    ∃ row, (w.store.insertFixture fields).1 = .ok row ∧ True
  rw [Store.insertFixture]
  cases w.store.fixtures.nextId? with
  | none => exact .inl rfl
  | some id => exact .inr ⟨_, rfl, trivial⟩

theorem insertPart {p : Part} {draft : p.Draft} (fits : ∀ id, ∃ row, p.make id draft = .ok row) :
    Spares (fun _ => True) (ExceptT.mk (Prog.ask (.insert p draft))) := by
  intro w
  change { w with store := (w.store.insertPart p draft).2 } = w ∨
    ∃ row, (w.store.insertPart p draft).1 = .ok row ∧ True
  rw [Store.insertPart]
  split_ifs
  · exact .inl rfl
  · exact .inl rfl
  · cases (w.store.part p).nextId? with
    | none => exact .inl rfl
    | some id =>
      obtain ⟨row, hrow⟩ := fits id
      simp only [hrow]
      exact .inr ⟨row, rfl, trivial⟩

theorem updateFixture (row : Fixture) :
    Spares (fun found => found.isSome = true) (ExceptT.mk (Prog.ask (.updateFixture row))) := by
  intro w
  change { w with store := (w.store.updateFixture row).2 } = w ∨
    ∃ found, Except.ok (w.store.updateFixture row).1 = .ok found ∧ found.isSome = true
  rw [Store.updateFixture]
  split_ifs
  · exact .inr ⟨_, rfl, rfl⟩
  · exact .inl rfl

theorem deleteFixture (id : Int) :
    Spares (fun found => found.isSome = true) (ExceptT.mk (Prog.ask (.deleteFixture id))) := by
  intro w
  change { w with store := (w.store.deleteFixture id).2 } = w ∨
    ∃ found, Except.ok (w.store.deleteFixture id).1 = .ok found ∧ found.isSome = true
  rw [Store.deleteFixture]
  cases w.store.fixtures.rows.get? id with
  | none => exact .inl rfl
  | some row => exact .inr ⟨_, rfl, rfl⟩

theorem deletePart (p : Part) (id : Int) :
    Spares (fun found => found.isSome = true) (ExceptT.mk (Prog.ask (.delete p id))) := by
  intro w
  change { w with store := (w.store.deletePart p id).2 } = w ∨
    ∃ found, Except.ok (w.store.deletePart p id).1 = .ok found ∧ found.isSome = true
  rw [Store.deletePart]
  cases w.store.findPart p id with
  | none => exact .inl rfl
  | some row => exact .inr ⟨_, rfl, rfl⟩

theorem updateScoreboard (row : Scoreboard) :
    Spares (fun found => found.isSome = true) (ExceptT.mk (Prog.ask (.updateScoreboard row))) := by
  intro w
  change { w with store := (w.store.updateScoreboard row).2 } = w ∨
    ∃ found, Except.ok (w.store.updateScoreboard row).1 = .ok found ∧ found.isSome = true
  rw [Store.updateScoreboard]
  split_ifs
  · exact .inr ⟨_, rfl, rfl⟩
  · exact .inl rfl

theorem updateClock (k : ClockKind) (row : k.Row) (previous : Version) :
    Spares (fun _ => True) (ExceptT.mk (Prog.ask (.updateClock k row previous))) := by
  intro w
  change { w with store := (w.store.updateClock k row previous).2 } = w ∨
    ∃ saved, (w.store.updateClock k row previous).1 = .ok saved ∧ True
  rcases w.store.updateClock_cases k row previous with ⟨old, -, -, hupdate⟩ | ⟨fault, hupdate⟩
  · rw [hupdate]
    exact .inr ⟨row, rfl, trivial⟩
  · rw [hupdate]
    exact .inl rfl

theorem deleteThrottle (matchId : Int) :
    Spares (fun removed => removed = true) (ExceptT.mk (Prog.ask (.deleteThrottle matchId))) := by
  intro w
  change { w with store := (w.store.deleteThrottle matchId).2 } = w ∨
    ∃ removed, Except.ok (w.store.deleteThrottle matchId).1 = .ok removed ∧ removed = true
  rw [Store.deleteThrottle]
  cases hfound : w.store.throttle.contains matchId with
  | true => exact .inr ⟨true, rfl, rfl⟩
  | false =>
    have hsame : w.store.throttle.erase matchId = w.store.throttle := Table.erase_of_absent hfound
    rw [hsame]
    exact .inl rfl

theorem getFixture (id : Int) : Spares (fun _ => False) (Service.getFixture id) :=
  .before (.ask fun _ => .inl rfl) fun found => by cases found <;> exact of_done

theorem getPart (p : Part) (id : Int) : Spares (fun _ => False) (Service.getPart p id) :=
  .before (.ask fun _ => .inl rfl) fun found => by cases found <;> exact of_done

theorem getPartByMatch (p : Part) (matchId : Int) :
    Spares (fun _ => False) (Service.getPartByMatch p matchId) :=
  .before (.ask fun _ => .inl rfl) fun found => by cases found <;> exact of_done

theorem getThrottle (matchId : Int) : Spares (fun _ => False) (Service.getThrottle matchId) :=
  .before (.ask fun _ => .inl rfl) fun found => by cases found <;> exact of_done

theorem createPart {p : Part} {draft : p.Draft} (fits : ∀ id, ∃ row, p.make id draft = .ok row) :
    Spares (fun _ => True) (Service.createPart p draft) := by
  refine .before (getFixture _) fun fixture => ?_
  exact (Spares.ask (insertPart fits)).bind_returns fun row => .announced trivial _

theorem checked {p : Part} {draft : p.Draft} {g : ε → Cause} {check : Except ε Unit}
    (fits : ∀ u, check = .ok u → ∀ id, ∃ row, p.make id draft = .ok row) :
    Spares (fun _ => True) (do Action.ofExcept g check; Service.createPart p draft) := by
  cases hcheck : check with
  | error e => exact of_done
  | ok u => exact .before of_done fun _ => createPart (fits u hcheck)

theorem timed {g : Int → Action α} (h : ∀ now, Spares P (g now)) :
    Spares P (do let now ← timeMs; g now) := by
  have htime : Spares (fun _ => False) timeMs := fun _ => .inl rfl
  exact .before htime h

theorem createGameClock (draft : GameClockDraft) :
    Spares (fun _ => True) (Service.createGameClock draft) := by
  have hstarted : Spares (fun _ => False) (startedDraft draft) := by
    rw [startedDraft]
    split_ifs
    · exact timed fun now => of_done
    · exact of_done
  exact .before hstarted fun started => checked fun u => make_gameclock

theorem transition (k : ClockKind) (id : Int) (expected : Option Version)
    (step : k.Row → Except ClockError k.Row) :
    Spares (fun _ => True) (Service.transition k id expected step) := by
  refine .before (getPart k.part id) fun current => ?_
  have hcheck : Spares (fun _ => False) (checkVersion k id expected (k.version current)) := by
    unfold checkVersion
    split
    · split_ifs <;> exact of_done
    · exact of_done
  refine .before hcheck fun _ => .before of_done fun next => ?_
  exact (Spares.ask (updateClock k next _)).bind_returns fun saved => .announced trivial _

theorem acquireThrottle (interval : Duration) (matchId : Int) :
    Spares (fun decision => decision.shouldEmit = true)
      (Service.acquireThrottle interval matchId) := by
  have htime : Spares (fun _ => False) Action.time := fun _ => .inl rfl
  refine .before htime fun now => .before (.ask fun _ => .inl rfl) fun found => ?_
  cases pendingWait interval now found with
  | some wait => exact of_done
  | none => exact of_returns ((Returns.touchThrottle _ _).bind fun record _ => .pure rfl)

theorem clearThrottle (matchId : Int) : Spares (fun _ => True) (Service.clearThrottle matchId) := by
  refine (Spares.ask (deleteThrottle matchId)).bind ?_ ?_
  · rintro (_ | _) <;> exact of_done
  · rintro _ rfl
    exact .pure trivial

theorem action (c : Command) : Spares (fun _ => True) c.action := by
  cases c with
  | getFixture id => exact (getFixture id).mono fun _ _ => trivial
  | createFixture draft =>
    refine .before of_done fun fields => ?_
    exact (Spares.ask (insertFixture fields)).bind_returns fun row => .announced trivial _
  | updateFixture id patch =>
    refine .before (getFixture id) fun current => .before of_done fun next => ?_
    exact required (.ask (updateFixture next)) fun saved => .announced trivial _
  | deleteFixture id =>
    refine required (.ask (deleteFixture id)) fun removal => ?_
    exact (Returns.announceAll removal.changes).bind fun _ _ => .pure trivial
  | getPart p id => exact (getPart p id).mono fun _ _ => trivial
  | getPartByMatch p matchId => exact (getPartByMatch p matchId).mono fun _ _ => trivial
  | deletePart p id => exact required (.ask (deletePart p id)) fun row => .announced trivial _
  | createScoreboard draft => exact checked fun u => make_scoreboard
  | updateScoreboard id patch =>
    refine .before (getPart .scoreboard id) fun current => .before of_done fun next => ?_
    exact required (.ask (updateScoreboard next)) fun saved => .announced trivial _
  | createGameClock draft => exact createGameClock draft
  | updateGameClock id patch expected => exact timed fun now => transition .game id expected _
  | startGameClock id expected => exact timed fun now => transition .game id expected _
  | pauseGameClock id expected => exact timed fun now => transition .game id expected _
  | resetGameClock id expected => exact transition .game id expected _
  | createPlayClock draft => exact checked fun u => make_playclock
  | updatePlayClock id patch expected => exact transition .play id expected _
  | startPlayClock id seconds expected => exact transition .play id expected _
  | stopPlayClock id expected => exact transition .play id expected _
  | getThrottle matchId => exact (getThrottle matchId).mono fun _ _ => trivial
  | touchThrottle matchId time => exact of_returns (Returns.touchThrottle matchId time)
  | acquireThrottle interval matchId =>
    exact (acquireThrottle interval matchId).mono fun _ _ => trivial
  | clearThrottle matchId => exact clearThrottle matchId

end Spares

end Matchday
