import Matchday.Proofs.ClockFate

set_option autoImplicit false

namespace Matchday

namespace ChangeEvent

def puts (op : Operation) (t : WatchedTable) (id : Int) (e : ChangeEvent) : Bool :=
  e.operation == op && e.table == t && e.newId == some id

/-- How many updates of a row a log has since its insertion, the newest event first. -/
def updatesSinceInsert (t : WatchedTable) (id : Int) (log : List ChangeEvent) : Nat :=
  (log.takeWhile fun e => !e.puts .insert t id).countP (puts .update t id)

variable {t : WatchedTable} {id : Int}

theorem updatesSinceInsert_inserted (t : WatchedTable) (id : Int) (owner : Option Int)
    (log : List ChangeEvent) :
    updatesSinceInsert t id (.ofRowChange (.inserted t id owner) :: log) = 0 := by
  simp [updatesSinceInsert, puts, ofRowChange, RowChange.inserted]

theorem updatesSinceInsert_updated (t : WatchedTable) (id : Int) (owner : Option Int)
    (log : List ChangeEvent) :
    updatesSinceInsert t id (.ofRowChange (.updated t id owner) :: log) =
      updatesSinceInsert t id log + 1 := by
  simp [updatesSinceInsert, puts, ofRowChange, RowChange.updated]

theorem puts_ofRowChange {change : RowChange} (op : Operation)
    (h : ¬change.Writes t id) : puts op t id (.ofRowChange change) = false := by
  rw [Bool.eq_false_iff]
  intro hputs
  simp only [puts, ofRowChange, Bool.and_eq_true, beq_iff_eq] at hputs
  obtain ⟨⟨hoperation, htable⟩, hid⟩ := hputs
  split_ifs at hid with hdelete
  exact h ⟨hdelete, htable, Option.some.inj hid⟩

theorem updatesSinceInsert_untold {changes : List RowChange}
    (h : ∀ change ∈ changes, ¬change.Writes t id) (log : List ChangeEvent) :
    updatesSinceInsert t id (changes.reverse.map ofRowChange ++ log) = updatesSinceInsert t id log := by
  induction changes generalizing log with
  | nil => rfl
  | cons change rest ih =>
    obtain ⟨hchange, hrest⟩ := List.forall_mem_cons.mp h
    have hinsert := puts_ofRowChange .insert hchange
    have hupdate := puts_ofRowChange .update hchange
    rw [List.reverse_cons, List.map_append, List.append_assoc, ih hrest]
    simp [updatesSinceInsert, hinsert, hupdate]

end ChangeEvent

namespace Traffic

open Service

/-- Each clock has the version that its updates since its insertion give it. -/
def Counted (t : Traffic) : Prop :=
  ∀ (k : ClockKind) (id : Int) (row : k.Row), t.world.store.findPart k.part id = some row →
    (k.version row).number =
      min (ChangeEvent.updatesSinceInsert k.part.table id
        (t.committed.map ChangeEvent.ofRowChange) + 1) greatestVersion

theorem counted_start (clock : Instant) (capacity : Nat) : (start clock capacity).Counted := by
  intro k id row hrow
  cases k <;> cases hrow

variable {t t' : Traffic}

theorem Counted.took (h : t.Counted) (sound : t.Sound) {i : Nat} {f : Flight} {e : Entry}
    {rest : Prog (Except Cause f.command.Result)} {w : World Store} (flight : t.calls[i]? = some f)
    (takes : f.rest.Takes e rest) (after : t.world.After e w) : (t.took i f e rest w).Counted := by
  intro k id row hrow
  change w.store.findPart k.part id = some row at hrow
  have hlog : (t.took i f e rest w).committed.map ChangeEvent.ofRowChange =
      e.changes.reverse.map ChangeEvent.ofRowChange ++ t.committed.map ChangeEvent.ofRowChange :=
    List.map_append
  rw [hlog]
  cases sound.clockFate flight takes after k id with
  | kept same untold =>
    rw [ChangeEvent.updatesSinceInsert_untold untold]
    exact h k id row (same ▸ hrow)
  | gone absent =>
    rw [absent] at hrow
    cases hrow
  | @inserted new fresh stored first told =>
    rw [stored] at hrow
    cases hrow
    have hcount := ChangeEvent.updatesSinceInsert_inserted k.part.table id
      (some (k.part.ownerId row)) (t.committed.map ChangeEvent.ofRowChange)
    simp only [told, first, List.reverse_singleton, List.map_singleton, List.singleton_append, hcount]
    rfl
  | @overwritten order current old new asked own read derived unchanged found stored entry told =>
    rw [stored] at hrow
    cases hrow
    have hcount := ChangeEvent.updatesSinceInsert_updated k.part.table id
      (some (k.part.ownerId row)) (t.committed.map ChangeEvent.ofRowChange)
    have hold := h k id old found
    have hnumber := Version.number_next (k.version current)
    rw [← (Command.order_advances asked derived).2.2, unchanged] at hnumber
    simp only [told, List.reverse_singleton, List.map_singleton, List.singleton_append, hcount]
    omega

theorem Counted.next (h : t.Counted) (sound : t.Sound) (n : t.Next t') : t'.Counted := by
  cases n with
  | same => exact h
  | begun c => exact h
  | ticked now => exact h
  | took flight takes after => exact h.took sound flight takes after

end Traffic

end Matchday
