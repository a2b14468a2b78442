import Matchday.Proofs.Conduct

set_option autoImplicit false

/-!
# Programs on their own

A program that is run without any other in between comes to a value, a store and the row changes that
it has announced; of the world it needs the store and the time only. `Yields` reads the first two off an
action that succeeds, and `exec_of_within` keeps an invariant of the store from what a rule allows to be
asked.
-/
namespace Matchday

namespace World

variable {σ τ : Type} (w : World σ)

@[simp] theorem clock_fire (change : RowChange) : (w.fire change).clock = w.clock := rfl

theorem fire_withStore (change : RowChange) (t : τ) :
    World.fire { w with store := t } change = { w.fire change with store := t } := rfl

theorem store_foldl_fire (changes : List RowChange) : (changes.foldl fire w).store = w.store := by
  induction changes generalizing w with
  | nil => rfl
  | cons change rest ih => rw [List.foldl_cons, ih, store_fire]

theorem clock_foldl_fire (changes : List RowChange) : (changes.foldl fire w).clock = w.clock := by
  induction changes generalizing w with
  | nil => rfl
  | cons change rest ih => rw [List.foldl_cons, ih, clock_fire]

theorem feed_foldl_fire (changes : List RowChange) : (changes.foldl fire w).feed = w.feed := by
  induction changes generalizing w with
  | nil => rfl
  | cons change rest ih => rw [List.foldl_cons, ih, feed_fire]

theorem published_foldl_fire (changes : List RowChange) :
    (changes.foldl fire w).published = (changes.filterMap w.feed.announce).reverse ++ w.published := by
  induction changes generalizing w with
  | nil => rfl
  | cons change rest ih =>
    rw [List.foldl_cons, ih, feed_fire, List.filterMap_cons, fire, Feed.use]
    cases w.feed.announce change with
    | none => rfl
    | some notice => simp

end World

/-- What a program on its own comes to; the announced changes are the oldest first. -/
structure Ran (α : Type) where
  value : α
  store : Store
  told : List RowChange

namespace Prog

variable {α β : Type}

def exec (now : Instant) : Prog α → Store → Ran α
  | done a, s => ⟨a, s, []⟩
  | call c next, s => (next (s.answer now c).1).exec now (s.answer now c).2
  | Prog.now next, s => (next now).exec now s
  | fire change next, s => { next.exec now s with told := change :: (next.exec now s).told }

variable {now : Instant}

theorem exec_bind (p : Prog α) (f : α → Prog β) (s : Store) :
    (p.bind f).exec now s =
      { (f (p.exec now s).value).exec now (p.exec now s).store with
        told := (p.exec now s).told ++ ((f (p.exec now s).value).exec now (p.exec now s).store).told } := by
  induction p generalizing s with
  | done a => rfl
  | call c next ih => exact ih _ _
  | now next ih => exact ih _ _
  | fire change next ih =>
    have hnext := ih s
    simp only [bind, exec, hnext, List.cons_append]

/-- What the store is asked does not depend on what has been announced before. -/
theorem run_eq_exec (p : Prog α) (w : World Store) :
    p.run Store.storage w =
      ((p.exec w.clock w.store).value,
        (p.exec w.clock w.store).told.foldl World.fire { w with store := (p.exec w.clock w.store).store }) := by
  induction p generalizing w with
  | done a => rfl
  | call c next ih => exact ih _ _
  | now next ih => exact ih _ _
  | fire change next ih =>
    change next.run Store.storage (w.fire change) = _
    simp only [ih, World.clock_fire, World.store_fire, exec, List.foldl_cons, World.fire_withStore]

/-- An invariant that every allowed call keeps holds of the store after the program. -/
theorem exec_of_within {R : Rule} {finish : Past → α → Prop} {I : Store → Prop}
    (kept : ∀ past c s, R.ask past c → I s → I (s.answer now c).2) {past : Past} {p : Prog α} {s : Store}
    (within : p.Within R finish past) (holds : I s) : I (p.exec now s).store := by
  induction p generalizing past s with
  | done a => exact holds
  | call c next ih => exact ih _ (within.2 _) (kept past c s within.1 holds)
  | now next ih => exact ih _ (within.2 _) holds
  | fire change next ih => exact ih within.2 holds

end Prog

/-- On its own the action returns this value and leaves this store. -/
def Yields {α ε : Type} (now : Instant) (s : Store) (a : ExceptT ε Prog α) (x : α) (s' : Store) : Prop :=
  (a.run.exec now s).value = .ok x ∧ (a.run.exec now s).store = s'

section Yields

variable {α β ε : Type} {now : Instant} {s s' : Store}

theorem yields_bind {a : ExceptT ε Prog α} {f : α → ExceptT ε Prog β} {y : β} :
    Yields now s (a >>= f) y s' ↔ ∃ x u, Yields now s a x u ∧ Yields now u (f x) y s' := by
  have hrun : (a >>= f).run = a.run.bind (ExceptT.bindCont f) := rfl
  simp only [Yields, hrun, Prog.exec_bind]
  cases hvalue : (a.run.exec now s).value with
  | error e => simp [ExceptT.bindCont, Prog.exec, pure]
  | ok x =>
    simp only [ExceptT.bindCont, Except.ok.injEq]
    exact ⟨fun h => ⟨x, _, ⟨rfl, rfl⟩, h⟩, fun ⟨_, _, ⟨hx, hu⟩, h⟩ => hx ▸ hu ▸ h⟩

@[simp] theorem yields_pure {x y : α} :
    Yields now s (pure x : ExceptT ε Prog α) y s' ↔ x = y ∧ s = s' := by
  change (.ok x : Except ε α) = .ok y ∧ s = s' ↔ _
  rw [Except.ok.injEq]

@[simp] theorem yields_ofExcept {f : ε → Cause} {r : Except ε α} {x : α} :
    Yields now s (Action.ofExcept f r) x s' ↔ r = .ok x ∧ s = s' := by
  change r.mapError f = .ok x ∧ s = s' ↔ _
  cases r <;> simp [Except.mapError]

@[simp] theorem yields_ask {f : ε → Cause} {p : Prog (Except ε α)} {x : α} :
    Yields now s (Action.ask f p) x s' ↔ (p.exec now s).value = .ok x ∧ (p.exec now s).store = s' := by
  change ((p.bind fun r => .done (r.mapError f)).exec now s).value = .ok x ∧
    ((p.bind fun r => .done (r.mapError f)).exec now s).store = s' ↔ _
  rw [Prog.exec_bind]
  change (p.exec now s).value.mapError f = .ok x ∧ _ ↔ _
  cases (p.exec now s).value <;> simp [Except.mapError, Prog.exec]

@[simp] theorem yields_announce {change : RowChange} {u : Unit} :
    Yields now s (Action.announce change) u s' ↔ s = s' :=
  and_iff_right rfl

@[simp] theorem yields_time {t : Instant} :
    Yields now s Action.time t s' ↔ now = t ∧ s = s' := by
  change (.ok now : Except Cause Instant) = .ok t ∧ s = s' ↔ _
  rw [Except.ok.injEq]

@[simp] theorem not_yields_fail {c : Cause} {x : α} : ¬Yields now s (Action.fail c) x s' := by
  rintro ⟨hvalue, -⟩
  cases hvalue

@[simp] theorem yields_require {c : Cause} {found : Option α} {x : α} :
    Yields now s (Action.require c found) x s' ↔ found = some x ∧ s = s' := by
  cases found <;> simp [Action.require]

theorem value_lookup {f : ε → Cause} {p : Prog (Except ε (Option α))} {found : Option α}
    (reads : p.exec now s = ⟨.ok found, s, []⟩) (cause : Cause) :
    ((do let x ← Action.ask f p; Action.require cause x : Action α).run.exec now s).value =
      found.elim (.error cause) .ok := by
  change (((p.bind fun x => .done (x.mapError f)).bind _).exec now s).value = _
  rw [Prog.exec_bind, Prog.exec_bind, reads]
  cases found <;> rfl

end Yields

end Matchday
