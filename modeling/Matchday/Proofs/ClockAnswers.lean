import Matchday.Proofs.Command

set_option autoImplicit false

namespace Matchday

open Service

namespace Service

namespace Command

def clock? : Command → Option (ClockKind × Int × Option Version)
  | updateGameClock id _ expected => some (.game, id, expected)
  | startGameClock id expected => some (.game, id, expected)
  | pauseGameClock id expected => some (.game, id, expected)
  | resetGameClock id expected => some (.game, id, expected)
  | updatePlayClock id _ expected => some (.play, id, expected)
  | startPlayClock id _ expected => some (.play, id, expected)
  | stopPlayClock id expected => some (.play, id, expected)
  | _ => none

end Command

theorem ofAccess_ne_clock (r : Repository) (fault : AccessFault) (err : ClockError) :
    Cause.ofAccess r fault ≠ .clock err := by
  cases fault <;> exact nofun

theorem ofPart_ne_clock (p : Part) (fault : p.Fault) (err : ClockError) :
    Cause.ofPart p fault ≠ .clock err := by
  cases p <;> cases fault <;> first | exact ofAccess_ne_clock _ _ _ | exact nofun

theorem causeOfWrite_ne_clock (k : ClockKind) (id : Int) (expected : Version) (fault : ClockFault)
    (err : ClockError) : causeOfWrite k id expected fault ≠ .clock err := by
  cases fault with
  | access fault => exact ofAccess_ne_clock _ fault err
  | unknownMatch matchId => exact nofun
  | duplicate matchId => exact nofun
  | notFound id => exact nofun
  | versionMismatch expected actual => exact nofun

namespace ClockOrder

variable {k : ClockKind} {α : Type}

/-- The caller expects no other version than that of a row. -/
def Agrees (order : ClockOrder k) (current : k.Row) : Prop :=
  ∀ e, order.expected = some e → e = k.version current

inductive Answers (order : ClockOrder k) (past : Past) : Except Cause α → Prop
  | unreadable {fault : k.part.Fault}
      (asked : past.asked = [.answered (.find k.part order.id) (.error fault)]) :
    Answers order past (.error (Cause.ofPart k.part fault))
  | missing (asked : past.asked = [.answered (.find k.part order.id) (.ok none)]) :
    Answers order past (.error (.missing k.part.table order.id))
  | refused {current : k.Row} {e : Version}
      (asked : past.asked = [.answered (.find k.part order.id) (.ok (some current))])
      (expected : order.expected = some e) (differs : e ≠ k.version current) :
    Answers order past (.error (.versionConflict k.part order.id e.number (k.version current).number))
  | illegal {current : k.Row} {err : ClockError}
      (asked : past.asked = [.answered (.find k.part order.id) (.ok (some current))])
      (agrees : order.Agrees current) (illegal : order.step current = .error err) :
    Answers order past (.error (.clock err))
  | unwritten {current next : k.Row} {fault : ClockFault}
      (asked : past.asked = [.answered (.updateClock k next (k.version current)) (.error fault),
        .answered (.find k.part order.id) (.ok (some current))])
      (agrees : order.Agrees current) (legal : order.step current = .ok next) :
    Answers order past
      (.error (causeOfWrite k order.id (order.expected.getD (k.version current)) fault))
  | written {current next saved : k.Row} {x : α}
      (asked : past.asked = [.answered (.updateClock k next (k.version current)) (.ok saved),
        .answered (.find k.part order.id) (.ok (some current))])
      (agrees : order.Agrees current) (legal : order.step current = .ok next) :
    Answers order past (.ok x)

variable {order : ClockOrder k} {past : Past} {result : Except Cause α}

theorem Answers.refused_of_read (h : order.Answers past result) {current : k.Row} {e : Version}
    (read : .answered (.find k.part order.id) (.ok (some current)) ∈ past)
    (expected : order.expected = some e) (differs : e ≠ k.version current) :
    result = .error (.versionConflict k.part order.id e.number (k.version current).number) := by
  have hread := Past.mem_asked.mpr read
  cases h with
  | unreadable asked | missing asked =>
    rw [asked] at hread
    cases List.mem_singleton.mp hread
  | refused asked expected' differs' =>
    rw [asked] at hread
    cases List.mem_singleton.mp hread
    cases expected.symm.trans expected'
    rfl
  | illegal asked agrees illegal =>
    rw [asked] at hread
    cases List.mem_singleton.mp hread
    exact absurd (agrees e expected) differs
  | unwritten asked agrees legal | written asked agrees legal =>
    rw [asked] at hread
    rcases List.mem_cons.mp hread with heq | hread
    · cases heq
    · cases List.mem_singleton.mp hread
      exact absurd (agrees e expected) differs

theorem Answers.unwritten_of_write (h : order.Answers past result) {current next : k.Row}
    {previous : Version} {fault : ClockFault}
    (read : .answered (.find k.part order.id) (.ok (some current)) ∈ past)
    (write : .answered (.updateClock k next previous) (.error fault) ∈ past) :
    result = .error (causeOfWrite k order.id (order.expected.getD (k.version current)) fault) := by
  have hread := Past.mem_asked.mpr read
  have hwrite := Past.mem_asked.mpr write
  cases h with
  | unreadable asked | missing asked | refused asked _ _ | illegal asked _ _ =>
    rw [asked] at hwrite
    cases List.mem_singleton.mp hwrite
  | unwritten asked agrees legal =>
    rw [asked] at hread hwrite
    rcases List.mem_cons.mp hwrite with heq | hwrite
    · cases heq
      rcases List.mem_cons.mp hread with heq | hread
      · cases heq
      · cases List.mem_singleton.mp hread
        rfl
    · cases List.mem_singleton.mp hwrite
  | written asked agrees legal =>
    rw [asked] at hwrite
    rcases List.mem_cons.mp hwrite with heq | hwrite
    · cases heq
    · cases List.mem_singleton.mp hwrite

theorem Answers.illegal_of_clock (h : order.Answers past result) {err : ClockError}
    (refused : result = .error (.clock err)) :
    ∃ current, .answered (.find k.part order.id) (.ok (some current)) ∈ past ∧ order.Agrees current ∧
      order.step current = .error err := by
  cases h with
  | @unreadable fault asked => exact absurd (Except.error.inj refused) (ofPart_ne_clock k.part fault err)
  | missing asked => cases refused
  | refused asked expects differs => cases refused
  | @illegal current err' asked agrees illegal =>
    cases refused
    exact ⟨current, Past.mem_asked.mp (asked ▸ List.mem_cons_self), agrees, illegal⟩
  | @unwritten current next fault asked agrees legal =>
    exact absurd (Except.error.inj refused) (causeOfWrite_ne_clock k _ _ fault err)
  | written asked agrees legal => cases refused

end ClockOrder

def Refused (k : ClockKind) (id : Int) (expected : Option Version) (past : Past) : Prop :=
  (∃ current e, .answered (.find k.part id) (.ok (some current)) ∈ past ∧ expected = some e ∧
    e ≠ k.version current) ∨
  ∃ next previous fault, .answered (.updateClock k next previous) (.error fault) ∈ past

namespace Command

def Accounts {α : Type} (c : Command) (past : Past) (result : Except Cause α) : Prop :=
  ∀ k id expected, c.clock? = some (k, id, expected) →
    ∃ order : ClockOrder k, c.order? past.readings k = some order ∧ order.id = id ∧
      order.expected = expected ∧ order.Answers past result

def Over (c : Command) (past : Past) : Prop :=
  ∃ k id expected, c.clock? = some (k, id, expected) ∧ Refused k id expected past

end Command

open Command

variable {c : Command} {past : Past} {k : ClockKind}

theorem refused_asked {id : Int} {expected : Option Version} :
    Refused k id expected past.asked ↔ Refused k id expected past := by
  simp only [Refused, Past.mem_asked]

theorem not_over (order : ClockOrder k) (clock : c.clock? = some (k, order.id, order.expected))
    (h : ¬Refused k order.id order.expected past.asked) : ¬c.Over past := by
  rintro ⟨k', id, expected, hclock, hrefused⟩
  rw [clock] at hclock
  cases hclock
  exact h (refused_asked.mpr hrefused)

theorem not_refused_nil {id : Int} {expected : Option Version} : ¬Refused k id expected [] := by
  simp [Refused]

theorem not_refused_find {order : ClockOrder k} {current : k.Row} (agrees : order.Agrees current) :
    ¬Refused k order.id order.expected
      [.answered (.find k.part order.id) (.ok (some current))] := by
  rintro (⟨row, e, hmem, hexpected, hdiffers⟩ | ⟨next, previous, fault, hmem⟩)
  · cases List.mem_singleton.mp hmem
    exact hdiffers (agrees e hexpected)
  · cases List.mem_singleton.mp hmem

theorem not_refused_write {order : ClockOrder k} {current next saved : k.Row} {previous : Version}
    (agrees : order.Agrees current) :
    ¬Refused k order.id order.expected [.answered (.updateClock k next previous) (.ok saved),
      .answered (.find k.part order.id) (.ok (some current))] := by
  rintro (⟨row, e, hmem, hexpected, hdiffers⟩ | ⟨next, previous, fault, hmem⟩)
  · rcases List.mem_cons.mp hmem with heq | hmem
    · cases heq
    · exact not_refused_find agrees (.inl ⟨row, e, hmem, hexpected, hdiffers⟩)
  · rcases List.mem_cons.mp hmem with heq | hmem
    · cases heq
    · exact not_refused_find agrees (.inr ⟨next, previous, fault, hmem⟩)

theorem accounts_transition (order : ClockOrder k) (unasked : past.asked = [])
    (clock : c.clock? = some (k, order.id, order.expected))
    (asks : c.order? past.readings k = some order) :
    Action.Within (.upTo c.Over) (fun later r => Accounts c later r) past
      (transition k order.id order.expected order.step) := by
  have hdone (later : Past) (result : Except Cause k.Row) (readings : later.readings = past.readings)
      (answers : order.Answers later result) : Accounts c later result := by
    intro k' id expected hclock
    rw [clock] at hclock
    cases hclock
    exact ⟨order, readings ▸ asks, rfl, rfl, answers⟩
  have hread (r : Answer (.find k.part order.id)) :
      Past.asked (.answered (.find k.part order.id) r :: past) =
        [.answered (.find k.part order.id) r] := by
    rw [Past.asked_answered, unasked]
  simp only [transition, Action.within_bind, Action.within_ask]
  refine ⟨not_over order clock (unasked ▸ not_refused_nil), ?_⟩
  rintro (fault | _ | current)
  · exact hdone _ _ rfl (.unreadable (hread _))
  · exact hdone _ _ rfl (.missing (hread _))
  · refine within_checkVersion ?_ ?_
    · intro agrees
      simp only [Action.within_ofExcept]
      cases hnext : order.step current with
      | error err => exact hdone _ _ rfl (.illegal (hread _) agrees hnext)
      | ok next =>
        simp only [Except.mapError]
        refine ⟨not_over order clock (hread _ ▸ not_refused_find agrees), ?_⟩
        have hwrite (r : Answer (.updateClock k next (k.version current))) :
            Past.asked (.answered (.updateClock k next (k.version current)) r ::
              .answered (.find k.part order.id) (.ok (some current)) :: past) =
              [.answered (.updateClock k next (k.version current)) r,
                .answered (.find k.part order.id) (.ok (some current))] := by
          rw [Past.asked_answered, hread]
        rintro (fault | saved)
        · exact hdone _ _ rfl (.unwritten (hwrite _) agrees hnext)
        · simp only [Action.within_announce, Action.within_pure]
          refine ⟨not_over order clock (hwrite _ ▸ not_refused_write agrees), ?_⟩
          exact hdone _ _ rfl (.written (hwrite (.ok saved)) agrees hnext)
    · intro e expected differs
      exact hdone _ _ rfl (.refused (hread _) expected differs)

theorem accounts_timed (order : Int → ClockOrder k)
    (clock : ∀ now, c.clock? = some (k, (order now).id, (order now).expected))
    (asks : ∀ now : Instant, c.order? [now] k = some (order now.toMillis)) :
    Action.Within (.upTo c.Over) (fun later r => Accounts c later r) [] (do
      let now ← timeMs
      transition k (order now).id (order now).expected (order now).step) := by
  simp only [timeMs, Action.within_bind, Action.within_time, Action.within_pure]
  have hopen : ¬c.Over [] := not_over (order 0) (clock 0) not_refused_nil
  refine ⟨hopen, ?_⟩
  intro now
  exact accounts_transition (order now.toMillis) rfl (clock _) (asks now)

theorem accounts_action (c : Command) :
    Action.Within (.upTo c.Over) (fun past r => Accounts c past r) [] c.action := by
  cases c with
  | updateGameClock id patch expected =>
    exact accounts_timed (k := .game)
      (fun now => ⟨id, expected, fun c => GameClock.withPatch c patch now⟩) (fun _ => rfl) fun _ => rfl
  | startGameClock id expected =>
    exact accounts_timed (k := .game)
      (fun now => ⟨id, expected, fun c => GameClock.start c now⟩) (fun _ => rfl) fun _ => rfl
  | pauseGameClock id expected =>
    exact accounts_timed (k := .game)
      (fun now => ⟨id, expected, fun c => GameClock.pause c now⟩) (fun _ => rfl) fun _ => rfl
  | resetGameClock id expected =>
    exact accounts_transition (k := .game) ⟨id, expected, fun c => .ok (GameClock.reset c)⟩ rfl rfl rfl
  | updatePlayClock id patch expected =>
    exact accounts_transition (k := .play)
      ⟨id, expected, fun c => PlayClock.withPatch c patch⟩ rfl rfl rfl
  | startPlayClock id seconds expected =>
    exact accounts_transition (k := .play)
      ⟨id, expected, fun c => PlayClock.start c seconds⟩ rfl rfl rfl
  | stopPlayClock id expected =>
    exact accounts_transition (k := .play) ⟨id, expected, fun c => .ok (PlayClock.stop c)⟩ rfl rfl rfl
  | _ =>
    refine Prog.within_upTo ?_ ?_
    · rintro past ⟨k, id, expected, hclock, -⟩
      cases hclock
    · intro past r k id expected hclock
      cases hclock

end Service

end Matchday
