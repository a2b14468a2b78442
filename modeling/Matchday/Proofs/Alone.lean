import Matchday.Proofs.Notices
import Matchday.Proofs.VersionCount

set_option autoImplicit false

namespace Matchday

open Service

namespace Prog

theorem run_bind {σ α β : Type} (storage : Storage σ) (p : Prog α) (f : α → Prog β) (w : World σ) :
    (p.bind f).run storage w = (f (p.run storage w).1).run storage (p.run storage w).2 := by
  induction p generalizing w with
  | done a => rfl
  | call c next ih => exact ih _ _
  | now next ih => exact ih _ _
  | fire change next ih => exact ih _

end Prog

namespace Traffic

variable {t : Traffic}

theorem step_advance {i : Nat} {f : Flight} (flight : t.calls[i]? = some f) :
    t.step (.advance i) = t.advance i f := by
  rw [step, flight]
  rfl

/-- The turns of one call alone take it to this end. -/
def Finishes (t : Traffic) (i : Nat) (c : Command)
    (final : Except Cause c.Result × World Store) : Prop :=
  ∃ (moves : List Move) (steps : Past), (t.run moves).calls[i]? = some ⟨c, .done final.1⟩ ∧
    (t.run moves).world = final.2 ∧ (t.run moves).log = steps.map (i, ·) ++ t.log

theorem Finishes.of_took {i : Nat} {f : Flight} {e : Entry}
    {rest : Prog (Except Cause f.command.Result)} {w : World Store} {c : Command}
    {final : Except Cause c.Result × World Store} (turn : t.step (.advance i) = t.took i f e rest w)
    (h : (t.took i f e rest w).Finishes i c final) : t.Finishes i c final := by
  obtain ⟨moves, steps, hcalls, hworld, hlog⟩ := h
  have hrun : t.run (moves ++ [.advance i]) = (t.took i f e rest w).run moves := by
    rw [run_append, ← turn]
    rfl
  refine ⟨moves ++ [.advance i], steps ++ [e], ?_⟩
  rw [hrun]
  refine ⟨hcalls, hworld, ?_⟩
  rw [hlog, List.map_append, List.append_assoc]
  rfl

theorem finishes_run {i : Nat} {f : Flight} (flight : t.calls[i]? = some f) :
    t.Finishes i f.command (f.rest.run Store.storage t.world) := by
  obtain ⟨c, rest⟩ := f
  -- Each turn of the call removes one constructor of what is left of its program.
  induction rest generalizing t with
  | done a => exact ⟨[], [], flight, rfl, rfl⟩
  | call q next ih =>
    exact .of_took (step_advance flight) (ih _ ((calls_took flight i _ _ _).trans (if_pos rfl)))
  | now next ih =>
    exact .of_took (step_advance flight) (ih _ ((calls_took flight i _ _ _).trans (if_pos rfl)))
  | fire change next ih =>
    exact .of_took (step_advance flight) (ih ((calls_took flight i _ _ _).trans (if_pos rfl)))

/-- Traffic in which each call has been run to its end before the next began: its world, and that it
has announced in order what it has committed. -/
structure Sequential (t : Traffic) (w : World Store) : Prop where
  sound : t.Sound
  counted : t.Counted
  quiet : t.announced = t.committed
  world : t.world = w

theorem sequential_start (clock : Instant) (capacity : Nat) :
    (start clock capacity).Sequential (start clock capacity).world :=
  ⟨sound_start clock capacity, counted_start clock capacity, rfl, rfl⟩

theorem Sequential.of_world {w : World Store} (h : t.Sequential w) (clock : Instant) (bus : Bus) :
    Sequential { t with world := { w with clock := clock, bus := bus } }
      { w with clock := clock, bus := bus } := by
  obtain ⟨⟨⟨within, kept, begun⟩, integrity, known, faithful, feed, published, mirrors⟩, counted, quiet, rfl⟩ := h
  exact ⟨⟨⟨within, kept, begun⟩, integrity, known, faithful, feed, published, mirrors⟩, counted, quiet, rfl⟩

theorem Counted.run (h : t.Counted) (sound : t.Sound) (moves : List Move) : (t.run moves).Counted := by
  induction moves with
  | nil => exact h
  | cons m earlier ih =>
    exact ih.next (sound.run earlier) (next_step _ m)

theorem past_of_log {t' : Traffic} {i : Nat} {steps : Past}
    (log : t'.log = steps.map (i, ·) ++ t.log) : t'.past i = steps ++ t.past i := by
  have hown : (fun e : Nat × Entry => if e.1 = i then some e.2 else none) ∘ (i, ·) = some := by
    funext e
    exact if_pos rfl
  rw [past, log, List.filterMap_append, List.filterMap_map, hown, List.filterMap_some]
  rfl

theorem flatMap_map_pair (g : Entry → List RowChange) (i : Nat) (steps : Past) :
    ((steps.map (i, ·)).flatMap fun e => g e.2) = steps.flatMap g := by
  rw [List.flatMap_map]

theorem Sequential.command {w : World Store} (h : t.Sequential w) (c : Command) :
    ∃ (t' : Traffic) (past : Past), t'.Sequential (c.action.run.run Store.storage w).2 ∧
      Ended c past (c.action.run.run Store.storage w).1 ∧
      t'.announced = past.announced ++ t.announced := by
  obtain rfl := h.world
  have hbegun := h.sound.run [.begin c]
  have hflight : (t.run [.begin c]).calls[t.calls.length]? = some ⟨c, c.action.run⟩ :=
    (calls_begun t c _).trans (if_pos rfl)
  obtain ⟨moves, steps, hcalls, hworld, hlog⟩ := finishes_run hflight
  have hsound := hbegun.run moves
  have hpast : ((t.run [.begin c]).run moves).past t.calls.length = steps := by
    rw [past_of_log hlog]
    exact (congrArg (steps ++ ·) (h.sound.disciplined.past_eq_nil (Nat.le_refl _))).trans
      (List.append_nil steps)
  have hended := hsound.ended hcalls rfl
  rw [hpast] at hended
  have hannounced : ((t.run [.begin c]).run moves).announced = steps.announced ++ t.announced := by
    rw [announced, hlog, List.flatMap_append, flatMap_map_pair]
    rfl
  have hcommitted : ((t.run [.begin c]).run moves).committed = steps.committed ++ t.committed := by
    rw [committed, hlog, List.flatMap_append, flatMap_map_pair (fun e => e.changes.reverse)]
    rfl
  refine ⟨(t.run [.begin c]).run moves, steps, ⟨hsound, ?_, ?_, hworld⟩, hended, hannounced⟩
  · exact (h.counted.run h.sound [.begin c]).run hbegun moves
  · rw [hannounced, hcommitted, hended.settled, h.quiet]

end Traffic

end Matchday
