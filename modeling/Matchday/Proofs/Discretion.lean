import Matchday.Proofs.Command
import Matchday.Proofs.Execution
import Matchday.Store.Disturbance

set_option autoImplicit false

namespace Matchday

open Service

def Call.Alike (c : Call) (a b : Answer c) : Prop :=
  a = b ∨ ∃ m n, a = c.failWith (.query m) ∧ b = c.failWith (.query n)

namespace Storage

variable {σ τ : Type}

def after (storage : Storage σ) (s : σ) : List (Instant × Call) → σ
  | [] => s
  | (now, c) :: earlier => (storage.answer (storage.after s earlier) now c).2

theorem after_append (storage : Storage σ) (s : σ) (later earlier : List (Instant × Call)) :
    storage.after s (later ++ earlier) = storage.after (storage.after s earlier) later := by
  induction later with
  | nil => rfl
  | cons call later ih => exact congrArg (fun s => (storage.answer s call.1 call.2).2) ih

/-- Whatever they have been asked before, the stores answer each call alike. -/
def Alike (a : Storage σ) (s : σ) (b : Storage τ) (t : τ) : Prop :=
  ∀ earlier now (c : Call),
    c.Alike (a.answer (a.after s earlier) now c).1 (b.answer (b.after t earlier) now c).1

variable {a : Storage σ} {b : Storage τ} {s : σ} {t : τ}

theorem Alike.answer (h : Alike a s b t) (now : Instant) (c : Call) :
    c.Alike (a.answer s now c).1 (b.answer t now c).1 := h [] now c

theorem Alike.next (h : Alike a s b t) (now : Instant) (c : Call) :
    Alike a (a.answer s now c).2 b (b.answer t now c).2 := by
  intro earlier now' c'
  have hlater := h (earlier ++ [(now, c)]) now' c'
  rwa [after_append, after_append] at hlater

theorem Alike.of_relation {I : σ → τ → Prop}
    (kept : ∀ s t now c, I s t → c.Alike (a.answer s now c).1 (b.answer t now c).1 ∧
      I (a.answer s now c).2 (b.answer t now c).2) (h : I s t) : Alike a s b t := by
  intro earlier now c
  have hstates : I (a.after s earlier) (b.after t earlier) := by
    induction earlier with
    | nil => exact h
    | cons call earlier ih => exact (kept _ _ call.1 call.2 ih).2
  exact (kept _ _ now c hstates).1

end Storage

/-- The fault with another text if it is a refused query. -/
def AccessFault.reworded (f : String → String) : AccessFault → AccessFault
  | .query text => .query (f text)
  | .connection text => .connection text

def Disturbance.reworded (f : String → String) : Disturbance → Disturbance
  | .access fault => .access (fault.reworded f)
  | .clock (.access fault) => .clock (.access (fault.reworded f))
  | d => d

def Armed.reworded (f : String → String) (a : Armed) : Armed :=
  { a with disturbance := a.disturbance.reworded f }

theorem Call.alike_failWith (f : String → String) (c : Call) (fault : AccessFault) :
    c.Alike (c.failWith fault) (c.failWith (fault.reworded f)) := by
  cases fault with
  | connection text => exact .inl rfl
  | query text => exact .inr ⟨text, f text, rfl, rfl⟩

theorem Call.failClock?_cases (c : Call) :
    (∀ fault, c.failClock? fault = none) ∨
      ∀ fault, c.failClock? (.access fault) = some (c.failWith fault) := by
  cases c with
  | updateClock k row previous => exact .inr fun _ => rfl
  | find p | findByMatch p | insert p | delete p =>
    cases p with
    | scoreboard => exact .inl fun _ => rfl
    | gameclock | playclock => exact .inr fun _ => rfl
  | _ => exact .inl fun _ => rfl

namespace DisturbedStore

def reworded (f : String → String) (s : DisturbedStore) : DisturbedStore :=
  { s with armed := s.armed.map (Armed.reworded f) }

variable (f : String → String) (s : DisturbedStore) (now : Instant) (c : Call)

theorem struck_reworded (d : Disturbance) :
    c.Alike (s.struck now c d).1 ((s.reworded f).struck now c (d.reworded f)).1 ∧
      ((s.reworded f).struck now c (d.reworded f)).2 = (s.struck now c d).2.reworded f := by
  cases d with
  | access fault => exact ⟨c.alike_failWith f fault, rfl⟩
  | vanish | race => exact ⟨.inl rfl, rfl⟩
  | clock fault =>
    cases fault with
    | access fault =>
      simp only [Disturbance.reworded, struck]
      rcases c.failClock?_cases with hother | hclock
      · rw [hother, hother]
        exact ⟨.inl rfl, rfl⟩
      · rw [hclock, hclock]
        exact ⟨c.alike_failWith f fault, rfl⟩
    | _ =>
      simp only [Disturbance.reworded, struck]
      split
      · exact ⟨.inl rfl, rfl⟩
      · exact ⟨.inl rfl, rfl⟩

theorem answer_reworded :
    c.Alike (s.answer now c).1 ((s.reworded f).answer now c).1 ∧
      ((s.reworded f).answer now c).2 = (s.answer now c).2.reworded f := by
  have hawaits : (fun a : Armed => a.awaits c) ∘ Armed.reworded f = fun a => a.awaits c := rfl
  simp only [answer, reworded, List.find?_map, List.eraseP_map, hawaits]
  cases s.armed.find? fun a => a.awaits c with
  | none => exact ⟨.inl rfl, rfl⟩
  | some a =>
    exact struck_reworded f { s with armed := s.armed.eraseP fun a => a.awaits c } now c a.disturbance

theorem alike_reworded : Storage.Alike storage s storage (s.reworded f) := by
  refine Storage.Alike.of_relation (I := fun s t => t = s.reworded f) ?_ rfl
  rintro s _ now c rfl
  exact answer_reworded f s now c

end DisturbedStore

namespace Prog

variable {α β γ δ : Type}

/-- Two programs that take the same steps as long as their calls are answered alike, and end in values
that are so related. -/
inductive Alike (R : α → β → Prop) : Prog α → Prog β → Prop
  | done {x : α} {y : β} (related : R x y) : Alike R (.done x) (.done y)
  | call {c : Call} {p : Answer c → Prog α} {q : Answer c → Prog β}
      (next : ∀ x y, c.Alike x y → Alike R (p x) (q y)) : Alike R (.call c p) (.call c q)
  | now {p : Instant → Prog α} {q : Instant → Prog β} (next : ∀ t, Alike R (p t) (q t)) :
    Alike R (.now p) (.now q)
  | fire {change : RowChange} {p : Prog α} {q : Prog β} (next : Alike R p q) :
    Alike R (.fire change p) (.fire change q)

namespace Alike

variable {R : α → β → Prop} {S : γ → δ → Prop}

theorem ask (c : Call) : Alike c.Alike (Prog.ask c) (Prog.ask c) := .call fun _ _ h => .done h

theorem bind {p : Prog α} {q : Prog β} (h : Alike R p q) {f : α → Prog γ} {g : β → Prog δ}
    (next : ∀ x y, R x y → Alike S (f x) (g y)) : Alike S (p.bind f) (q.bind g) := by
  induction h with
  | done related => exact next _ _ related
  | call _ ih => exact .call fun x y h => ih x y h
  | now _ ih => exact .now fun t => ih t
  | fire _ ih => exact .fire ih

end Alike

end Prog

def World.backedBy {σ τ : Type} (w : World σ) (t : τ) : World τ := { w with store := t }

/-- Programs that are alike, run over row stores that are alike, come to related values and leave worlds
that differ in the row stores only, which are still alike. -/
theorem Prog.Alike.run {σ τ α β : Type} {R : α → β → Prop} {p : Prog α} {q : Prog β} {a : Storage σ}
    {b : Storage τ} {w : World σ} {t : τ} (h : Alike R p q) (stores : Storage.Alike a w.store b t) :
    ∃ y t', q.run b (w.backedBy t) = (y, (p.run a w).2.backedBy t') ∧ R (p.run a w).1 y ∧
      Storage.Alike a (p.run a w).2.store b t' := by
  -- By induction on the relation: each call is answered alike and leaves stores that are alike.
  induction h generalizing w t with
  | @done x y related => exact ⟨y, t, rfl, related, stores⟩
  | @call c p q _ ih =>
    let after : World σ := { w with store := (a.answer w.store w.clock c).2 }
    have hafter : Storage.Alike a after.store b (b.answer t w.clock c).2 := stores.next w.clock c
    exact ih _ _ (stores.answer w.clock c) hafter
  | now _ ih => exact ih w.clock stores
  | @fire change p q _ ih =>
    have hfire : (w.backedBy t).fire change = (w.fire change).backedBy t := w.fire_withStore change t
    change ∃ y t', q.run b ((w.backedBy t).fire change) = (y, (p.run a (w.fire change)).2.backedBy t') ∧ _
    rw [hfire]
    exact ih ((w.store_fire change).symm ▸ stores)

def Cause.told (c : Cause) : Failure := c.failure.disclosed

/-- On answers that are alike the service call takes the same steps, and what may be told of its outcome is
the same. -/
def Discreet {α : Type} (a : Action α) : Prop :=
  Prog.Alike (fun x y => x.mapError Cause.told = y.mapError Cause.told) a.run a.run

namespace Discreet

variable {α β ε : Type}

theorem of_done (r : Except Cause α) : Discreet (ExceptT.mk (.done r)) := .done rfl

theorem bind {a : Action α} {f : α → Action β} (ha : Discreet a) (hf : ∀ x, Discreet (f x)) :
    Discreet (a >>= f) := by
  refine Prog.Alike.bind ha ?_
  rintro (c | x) (d | y) h
  · have htold : c.told = d.told := Except.error.inj h
    exact .done (congrArg Except.error htold)
  · cases h
  · cases h
  · cases h
    exact hf x

theorem ask {f : ε → Cause} {p : Prog (Except ε α)} {refused : String → ε}
    (h : Prog.Alike (fun x y => x = y ∨ ∃ m n, x = .error (refused m) ∧ y = .error (refused n)) p p)
    (hides : ∀ m n, (f (refused m)).told = (f (refused n)).told) : Discreet (Action.ask f p) := by
  refine Prog.Alike.bind h ?_
  rintro x y (rfl | ⟨m, n, rfl, rfl⟩)
  · exact .done rfl
  · exact .done (congrArg Except.error (hides m n))

theorem require (c : Cause) (found : Option α) : Discreet (Action.require c found) := by
  cases found <;> exact of_done _

theorem announce (change : RowChange) : Discreet (Action.announce change) := .fire (.done rfl)

theorem time : Discreet Action.time := .now fun _ => .done rfl

theorem announceAll (changes : List RowChange) : Discreet (Service.announceAll changes) := by
  induction changes with
  | nil => exact of_done _
  | cons change rest ih => exact (announce change).bind fun _ => ih

theorem announced (change : RowChange) (x : α) : Discreet (do Action.announce change; pure x) :=
  (announce change).bind fun _ => of_done _

theorem told_ofPart (p : Part) (m n : String) :
    (Cause.ofPart p (p.access (.query m))).told = (Cause.ofPart p (p.access (.query n))).told := by
  cases p <;> rfl

theorem getFixture (id : Int) : Discreet (Service.getFixture id) :=
  (ask (.ask (.findFixture id)) fun _ _ => rfl).bind fun _ => require _ _

theorem getPart (p : Part) (id : Int) : Discreet (Service.getPart p id) :=
  (ask (.ask (.find p id)) (told_ofPart p)).bind fun _ => require _ _

theorem createPart (p : Part) (draft : p.Draft) : Discreet (Service.createPart p draft) :=
  (getFixture _).bind fun _ =>
    (ask (.ask (.insert p draft)) (told_ofPart p)).bind fun _ => announced _ _

theorem checkVersion (k : ClockKind) (id : Int) (expected : Option Version) (current : Version) :
    Discreet (Service.checkVersion k id expected current) := by
  unfold Service.checkVersion
  split
  · split_ifs <;> exact of_done _
  · exact of_done _

theorem transition (k : ClockKind) (id : Int) (expected : Option Version)
    (step : k.Row → Except ClockError k.Row) : Discreet (Service.transition k id expected step) := by
  refine (getPart k.part id).bind fun current => (checkVersion k id expected _).bind fun _ => ?_
  refine (of_done _).bind fun next => ?_
  exact (ask (.ask (.updateClock k next (k.version current))) fun _ _ => rfl).bind fun _ => announced _ _

theorem timed {g : Int → Action α} (h : ∀ now, Discreet (g now)) :
    Discreet (do let now ← timeMs; g now) :=
  (time.bind fun _ => of_done _).bind h

theorem createGameClock (draft : GameClockDraft) : Discreet (Service.createGameClock draft) := by
  have hstarted : Discreet (startedDraft draft) := by
    rw [startedDraft]
    split_ifs
    · exact timed fun _ => of_done _
    · exact of_done _
  exact hstarted.bind fun started => (of_done _).bind fun _ => createPart .gameclock started

theorem touchThrottle (matchId : Int) (time : Option Instant) :
    Discreet (Service.touchThrottle matchId time) :=
  ask (.ask (.touchThrottle matchId time)) fun _ _ => rfl

theorem acquireThrottle (interval : Duration) (matchId : Int) :
    Discreet (Service.acquireThrottle interval matchId) := by
  refine time.bind fun now => (ask (.ask (.findThrottle matchId)) fun _ _ => rfl).bind fun found => ?_
  cases pendingWait interval now found with
  | some wait => exact of_done _
  | none => exact (touchThrottle matchId (some now)).bind fun _ => of_done _

theorem clearThrottle (matchId : Int) : Discreet (Service.clearThrottle matchId) := by
  refine (ask (.ask (.deleteThrottle matchId)) fun _ _ => rfl).bind ?_
  rintro (_ | _) <;> exact of_done _

theorem action (c : Command) : Discreet c.action := by
  cases c with
  | getFixture id => exact getFixture id
  | createFixture draft =>
    refine (of_done _).bind fun fields => ?_
    exact (ask (.ask (.insertFixture fields)) fun _ _ => rfl).bind fun _ => announced _ _
  | updateFixture id patch =>
    refine (getFixture id).bind fun current => (of_done _).bind fun next => ?_
    refine (ask (.ask (.updateFixture next)) fun _ _ => rfl).bind fun written => ?_
    exact (require _ _).bind fun _ => announced _ _
  | deleteFixture id =>
    refine (ask (.ask (.deleteFixture id)) fun _ _ => rfl).bind fun removed => ?_
    exact (require _ _).bind fun removal => (announceAll removal.changes).bind fun _ => of_done _
  | getPart p id => exact getPart p id
  | getPartByMatch p matchId =>
    exact (ask (.ask (.findByMatch p matchId)) (told_ofPart p)).bind fun _ => require _ _
  | deletePart p id =>
    refine (ask (.ask (.delete p id)) (told_ofPart p)).bind fun removed => ?_
    exact (require _ _).bind fun _ => announced _ _
  | createScoreboard draft => exact (of_done _).bind fun _ => createPart .scoreboard draft
  | updateScoreboard id patch =>
    refine (getPart .scoreboard id).bind fun current => (of_done _).bind fun next => ?_
    refine (ask (.ask (.updateScoreboard next)) fun _ _ => rfl).bind fun written => ?_
    exact (require _ _).bind fun _ => announced _ _
  | createGameClock draft => exact createGameClock draft
  | updateGameClock id patch expected => exact timed fun now => transition .game id expected _
  | startGameClock id expected => exact timed fun now => transition .game id expected _
  | pauseGameClock id expected => exact timed fun now => transition .game id expected _
  | resetGameClock id expected => exact transition .game id expected _
  | createPlayClock draft => exact (of_done _).bind fun _ => createPart .playclock draft
  | updatePlayClock id patch expected => exact transition .play id expected _
  | startPlayClock id seconds expected => exact transition .play id expected _
  | stopPlayClock id expected => exact transition .play id expected _
  | getThrottle matchId =>
    exact (ask (.ask (.findThrottle matchId)) fun _ _ => rfl).bind fun _ => require _ _
  | touchThrottle matchId time => exact touchThrottle matchId time
  | acquireThrottle interval matchId => exact acquireThrottle interval matchId
  | clearThrottle matchId => exact clearThrottle matchId

end Discreet

end Matchday
