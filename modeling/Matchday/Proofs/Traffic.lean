import Matchday.Proofs.Command

set_option autoImplicit false

/-!
# Traffic

Service calls in flight together over one store. A schedule of moves says which calls begin, whose
turn is next, which repository calls fail, and what the clock shows. The log has every step that was
taken, the newest first, with the number of the call that took it.
-/
namespace Matchday

open Service

namespace Call

abbrev Fault : Call → Type
  | findFixture _ | insertFixture _ | updateFixture _ | deleteFixture _ => AccessFault
  | find p _ | findByMatch p _ | insert p _ | delete p _ => p.Fault
  | updateScoreboard _ => ScoreboardFault
  | updateClock _ _ _ => ClockFault
  | findThrottle _ | touchThrottle _ _ | deleteThrottle _ => AccessFault

def refusal : (c : Call) → c.Fault → Answer c
  | findFixture _, f | insertFixture _, f | updateFixture _, f | deleteFixture _, f => .error f
  | find _ _, f | findByMatch _ _, f | insert _ _, f | delete _ _, f => .error f
  | updateScoreboard _, f => .error f
  | updateClock _ _ _, f => .error f
  | findThrottle _, f | touchThrottle _ _, f | deleteThrottle _, f => .error f

@[simp] theorem changes_refusal (c : Call) (f : c.Fault) : c.changes (c.refusal f) = [] := by
  cases c <;> rfl

end Call

/-- What a step does to the world; a call that fails does nothing. -/
inductive World.After (w : World Store) : Entry → World Store → Prop
  | answered (c : Call) :
    After w (.answered c (w.store.answer w.clock c).1)
      { w with store := (w.store.answer w.clock c).2 }
  | refused (c : Call) (fault : c.Fault) : After w (.answered c (c.refusal fault)) w
  | looked : After w (.looked w.clock) w
  | announced (change : RowChange) : After w (.announced change) (w.fire change)

/-- A service call and what is left of its program. -/
structure Flight where
  command : Command
  rest : Prog (Except Cause command.Result)

structure Traffic where
  world : World Store
  calls : List Flight
  log : List (Nat × Entry)

namespace Traffic

inductive Move
  | begin (c : Command)
  | tick (now : Instant)
  | advance (i : Nat)
  | fail (i : Nat) (fault : (c : Call) → c.Fault)

/-- No call yet, an empty store and the standard triggers. -/
def start (clock : Instant) (capacity : Nat) : Traffic :=
  ⟨⟨.empty, clock, .standard, [], .ofCapacity capacity⟩, [], []⟩

def took (t : Traffic) (i : Nat) (f : Flight) (e : Entry) (rest : Prog (Except Cause f.command.Result))
    (w : World Store) : Traffic :=
  ⟨w, t.calls.set i ⟨f.command, rest⟩, (i, e) :: t.log⟩

def advance (t : Traffic) (i : Nat) (f : Flight) : Traffic :=
  match f.rest with
  | .done _ => t
  | .call c next =>
    let (r, store) := t.world.store.answer t.world.clock c
    t.took i f (.answered c r) (next r) { t.world with store }
  | .now next => t.took i f (.looked t.world.clock) (next t.world.clock) t.world
  | .fire change next => t.took i f (.announced change) next (t.world.fire change)

def fail (t : Traffic) (i : Nat) (f : Flight) (fault : (c : Call) → c.Fault) : Traffic :=
  match f.rest with
  | .call c next => t.took i f (.answered c (c.refusal (fault c))) (next (c.refusal (fault c))) t.world
  | _ => t

def step (t : Traffic) : Move → Traffic
  | .begin c => { t with calls := t.calls ++ [⟨c, c.action.run⟩] }
  | .tick now => { t with world.clock := now }
  | .advance i => (t.calls[i]?).elim t (t.advance i)
  | .fail i fault => (t.calls[i]?).elim t (t.fail i · fault)

/-- The traffic after a schedule, the newest move first. -/
def run (t : Traffic) : List Move → Traffic
  | [] => t
  | m :: earlier => (t.run earlier).step m

theorem run_append (t : Traffic) (later earlier : List Move) :
    t.run (later ++ earlier) = (t.run earlier).run later := by
  induction later with
  | nil => rfl
  | cons m later ih => exact congrArg (·.step m) ih

/-- The steps that one call has taken, the newest first. -/
def past (t : Traffic) (i : Nat) : Past :=
  t.log.filterMap fun e => if e.1 = i then some e.2 else none

/-- What a move can do to the traffic. -/
inductive Next (t : Traffic) : Traffic → Prop
  | same : Next t t
  | begun (c : Command) : Next t { t with calls := t.calls ++ [⟨c, c.action.run⟩] }
  | ticked (now : Instant) : Next t { t with world.clock := now }
  | took {i : Nat} {f : Flight} {e : Entry} {rest : Prog (Except Cause f.command.Result)}
      {w : World Store} (flight : t.calls[i]? = some f) (takes : f.rest.Takes e rest)
      (after : t.world.After e w) : Next t (t.took i f e rest w)

theorem next_advance {t : Traffic} {i : Nat} {f : Flight} (flight : t.calls[i]? = some f) :
    t.Next (t.advance i f) := by
  obtain ⟨c, rest⟩ := f
  cases rest with
  | done a => exact .same
  | call q next => exact .took flight (.answered q next _) (.answered q)
  | now next => exact .took flight (.looked next _) .looked
  | fire change next => exact .took flight (.announced change next) (.announced change)

theorem next_fail {t : Traffic} {i : Nat} {f : Flight} (flight : t.calls[i]? = some f)
    (fault : (c : Call) → c.Fault) : t.Next (t.fail i f fault) := by
  obtain ⟨c, rest⟩ := f
  cases rest with
  | call q next => exact .took flight (.answered q next _) (.refused q (fault q))
  | done a => exact .same
  | now next => exact .same
  | fire change next => exact .same

theorem next_step (t : Traffic) (m : Move) : t.Next (t.step m) := by
  cases m with
  | begin c => exact .begun c
  | tick now => exact .ticked now
  | advance i =>
    rw [step]
    cases flight : t.calls[i]? with
    | none => exact .same
    | some f => exact next_advance flight
  | fail i fault =>
    rw [step]
    cases flight : t.calls[i]? with
    | none => exact .same
    | some f => exact next_fail flight fault

/-- What holds at the start and survives every move holds after every schedule. -/
theorem run_induction {I : Traffic → Prop} {t : Traffic} (start : I t)
    (next : ∀ u u', I u → Next u u' → I u') (moves : List Move) : I (t.run moves) := by
  induction moves with
  | nil => exact start
  | cons m earlier ih => exact next _ _ ih (next_step _ m)

theorem past_took (t : Traffic) (i j : Nat) (f : Flight) (e : Entry)
    (rest : Prog (Except Cause f.command.Result)) (w : World Store) :
    (t.took i f e rest w).past j = if i = j then e :: t.past j else t.past j := by
  by_cases h : i = j <;> simp [past, took, h]

theorem mem_past {t : Traffic} {i : Nat} {e : Entry} : e ∈ t.past i ↔ (i, e) ∈ t.log := by
  simp only [past, List.mem_filterMap, Prod.exists]
  constructor
  · rintro ⟨j, e', hmem, h⟩
    split_ifs at h with hj
    cases h
    exact hj ▸ hmem
  · intro hmem
    exact ⟨i, e, hmem, if_pos rfl⟩

theorem calls_took {t : Traffic} {i : Nat} {f : Flight} (flight : t.calls[i]? = some f) (j : Nat)
    (e : Entry) (rest : Prog (Except Cause f.command.Result)) (w : World Store) :
    (t.took i f e rest w).calls[j]? = if i = j then some ⟨f.command, rest⟩ else t.calls[j]? := by
  have hlt : i < t.calls.length := (List.getElem?_eq_some_iff.mp flight).1
  rw [took, List.getElem?_set, if_pos hlt]

theorem Next.log_cases {t t' : Traffic} (n : t.Next t') :
    t'.log = t.log ∨ ∃ i e, t'.log = (i, e) :: t.log ∧ t.world.After e t'.world := by
  cases n with
  | same => exact .inl rfl
  | begun c => exact .inl rfl
  | ticked now => exact .inl rfl
  | took flight takes after => exact .inr ⟨_, _, rfl, after⟩

theorem calls_begun (t : Traffic) (c : Command) (i : Nat) :
    (t.calls ++ [⟨c, c.action.run⟩])[i]? =
      if i = t.calls.length then some ⟨c, c.action.run⟩ else t.calls[i]? := by
  rcases Nat.lt_trichotomy i t.calls.length with hlt | rfl | hlt
  · rw [if_neg (by omega), List.getElem?_append_left hlt]
  · rw [if_pos rfl, List.getElem?_concat_length]
  · rw [if_neg (by omega), List.getElem?_eq_none (by simp; omega), List.getElem?_eq_none (by omega)]

/-- From its past on every call keeps to the rule of its command, and ends as the command does. -/
def KeepTo (rule : Command → Rule) (finish : (c : Command) → Past → Except Cause c.Result → Prop)
    (t : Traffic) : Prop :=
  ∀ (i : Nat) (f : Flight), t.calls[i]? = some f →
    f.rest.Within (rule f.command) (finish f.command) (t.past i)

variable {rule : Command → Rule} {finish : (c : Command) → Past → Except Cause c.Result → Prop}

theorem KeepTo.begin {t : Traffic} (h : t.KeepTo rule finish) (new : t.past t.calls.length = [])
    {c : Command} (within : Action.Within (rule c) (finish c) [] c.action) :
    KeepTo rule finish { t with calls := t.calls ++ [⟨c, c.action.run⟩] } := by
  intro i f hf
  change (t.calls ++ [⟨c, c.action.run⟩])[i]? = some f at hf
  change f.rest.Within (rule f.command) (finish f.command) (t.past i)
  rw [calls_begun] at hf
  split_ifs at hf with hi
  · cases hf
    rw [hi, new]
    exact within
  · exact h i f hf

theorem KeepTo.took {t : Traffic} (h : t.KeepTo rule finish) {i : Nat} {f : Flight} {e : Entry}
    {rest : Prog (Except Cause f.command.Result)} (flight : t.calls[i]? = some f)
    (takes : f.rest.Takes e rest) (w : World Store) : (t.took i f e rest w).KeepTo rule finish := by
  have hstep := (h i f flight).takes takes
  intro j g hg
  rw [calls_took flight] at hg
  rw [past_took]
  split_ifs at hg ⊢ with hj
  · subst hj
    cases hg
    exact hstep.2
  · exact h j g hg

structure Disciplined (t : Traffic) : Prop where
  within : t.KeepTo Command.rule fun c => Command.Outcome c
  kept : ∀ (i : Nat) (f : Flight), t.calls[i]? = some f → f.command.rule.Keeps (t.past i)
  begun : ∀ (i : Nat) (e : Entry), (i, e) ∈ t.log → i < t.calls.length

theorem disciplined_start (clock : Instant) (capacity : Nat) :
    (start clock capacity).Disciplined := by
  refine ⟨?_, ?_, ?_⟩
  · intro i f h
    cases h
  · intro i f h
    cases h
  · intro i e h
    cases h

variable {t t' : Traffic}

theorem Disciplined.past_eq_nil (h : t.Disciplined) {i : Nat} (hi : t.calls.length ≤ i) :
    t.past i = [] := by
  refine List.eq_nil_iff_forall_not_mem.mpr ?_
  intro e he
  have hlt := h.begun i e (mem_past.mp he)
  omega

theorem Disciplined.flight (h : t.Disciplined) {i : Nat} {e : Entry} (mem : e ∈ t.past i) :
    ∃ f, t.calls[i]? = some f ∧ f.command.rule.Keeps (t.past i) := by
  have hlt := h.begun i e (mem_past.mp mem)
  exact ⟨_, List.getElem?_eq_getElem hlt, h.kept i _ (List.getElem?_eq_getElem hlt)⟩

theorem Disciplined.allows (h : t.Disciplined) {i : Nat} {f : Flight} {e : Entry}
    {rest : Prog (Except Cause f.command.Result)} (flight : t.calls[i]? = some f)
    (takes : f.rest.Takes e rest) : f.command.rule.Allows (t.past i) e :=
  ((h.within i f flight).takes takes).1

theorem Disciplined.begin (h : t.Disciplined) (c : Command) :
    Disciplined { t with calls := t.calls ++ [⟨c, c.action.run⟩] } := by
  have hnew : t.past t.calls.length = [] := h.past_eq_nil (Nat.le_refl _)
  refine ⟨h.within.begin hnew (within_action c), ?_, ?_⟩
  · intro i f hf
    change (t.calls ++ [⟨c, c.action.run⟩])[i]? = some f at hf
    change f.command.rule.Keeps (t.past i)
    rw [calls_begun] at hf
    split_ifs at hf with hi
    · rw [hi, hnew]
      trivial
    · exact h.kept i f hf
  · intro i e he
    have hlt := h.begun i e he
    simp only [List.length_append, List.length_singleton]
    omega

theorem Disciplined.took (h : t.Disciplined) {i : Nat} {f : Flight} {e : Entry}
    {rest : Prog (Except Cause f.command.Result)} (flight : t.calls[i]? = some f)
    (takes : f.rest.Takes e rest) (w : World Store) : (t.took i f e rest w).Disciplined := by
  have hallows := ((h.within i f flight).takes takes).1
  refine ⟨h.within.took flight takes w, ?_, ?_⟩
  · intro j g hg
    rw [calls_took flight] at hg
    rw [past_took]
    split_ifs at hg ⊢ with hj
    · subst hj
      cases hg
      exact ⟨hallows, h.kept i f flight⟩
    · exact h.kept j g hg
  · intro j e' he
    have hlt : i < t.calls.length := (List.getElem?_eq_some_iff.mp flight).1
    have hlength : (t.took i f e rest w).calls.length = t.calls.length := List.length_set
    rw [hlength]
    rcases List.mem_cons.mp he with heq | hmem
    · cases heq
      exact hlt
    · exact h.begun j e' hmem

theorem Disciplined.next (h : t.Disciplined) (n : t.Next t') : t'.Disciplined := by
  cases n with
  | same => exact h
  | begun c => exact h.begin c
  | ticked now => exact ⟨h.within, h.kept, h.begun⟩
  | took flight takes after => exact h.took flight takes _

/-- What every command keeps to when it begins, every call keeps to after every schedule. -/
theorem keepTo_run (within : ∀ c : Command, Action.Within (rule c) (finish c) [] c.action)
    (clock : Instant) (capacity : Nat) (moves : List Move) :
    ((start clock capacity).run moves).KeepTo rule finish := by
  have hboth : ((start clock capacity).run moves).Disciplined ∧
      ((start clock capacity).run moves).KeepTo rule finish := by
    refine run_induction (I := fun t => t.Disciplined ∧ t.KeepTo rule finish) ?_ ?_ moves
    · refine ⟨disciplined_start clock capacity, ?_⟩
      intro i f hf
      cases hf
    · rintro u u' ⟨hdisciplined, hkeep⟩ n
      refine ⟨hdisciplined.next n, ?_⟩
      cases n with
      | same => exact hkeep
      | begun c => exact hkeep.begin (hdisciplined.past_eq_nil (Nat.le_refl _)) (within c)
      | ticked now => exact hkeep
      | took flight takes after => exact hkeep.took flight takes _
  exact hboth.2

end Traffic

end Matchday
