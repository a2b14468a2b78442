import Matchday.Bus
import Matchday.Feed
import Matchday.Repository.Call

set_option autoImplicit false

/-!
# Programs

What a request does, as a tree of single steps: a call to the row store, a look at the clock, or the
announcement of a row change. A program says nothing of who answers its calls, nor of what other
programs do between two of its steps.
-/
namespace Matchday

inductive Prog (α : Type) : Type
  | done (a : α)
  | call (c : Call) (next : Answer c → Prog α)
  | now (next : Instant → Prog α)
  | fire (change : RowChange) (next : Prog α)

namespace Prog

variable {α β γ : Type}

def bind : Prog α → (α → Prog β) → Prog β
  | done a, f => f a
  | call c next, f => call c fun r => (next r).bind f
  | now next, f => now fun t => (next t).bind f
  | fire change next, f => fire change (next.bind f)

instance : Monad Prog where
  pure := done
  bind := bind

@[simp] theorem bind_done (p : Prog α) : p.bind done = p := by
  induction p with
  | done a => rfl
  | call c next ih => simp [bind, ih]
  | now next ih => simp [bind, ih]
  | fire change next ih => simp [bind, ih]

theorem bind_assoc (p : Prog α) (f : α → Prog β) (g : β → Prog γ) :
    (p.bind f).bind g = p.bind fun a => (f a).bind g := by
  induction p with
  | done a => rfl
  | call c next ih => simp [bind, ih]
  | now next ih => simp [bind, ih]
  | fire change next ih => simp [bind, ih]

instance : LawfulMonad Prog := by
  refine LawfulMonad.mk' Prog ?_ ?_ ?_
  · exact fun p => bind_done p
  · exact fun _ _ => rfl
  · exact fun p f g => bind_assoc p f g

def ask (c : Call) : Prog (Answer c) := call c done

def time : Prog Instant := now done

def announce (change : RowChange) : Prog Unit := fire change (done ())

end Prog

/-- What programs act on: the row store behind its interface, the clock, the triggers, and what has been
published, newest first. -/
structure World (σ : Type) where
  store : σ
  clock : Instant
  feed : Feed
  published : List (Channel × ChangeEvent)
  bus : Bus

namespace World

variable {σ : Type}

/-- Publishes what the trigger of the changed table asks for. -/
def fire (w : World σ) (change : RowChange) : World σ :=
  let sent := (w.feed.use (.fire change)).published
  { w with
    published := sent ++ w.published
    bus := sent.foldl (fun bus s => bus.publish s.1 s.2) w.bus }

end World

def Prog.run {σ α : Type} (storage : Storage σ) : Prog α → World σ → α × World σ
  | .done a, w => (a, w)
  | .call c next, w =>
    let (r, s) := storage.answer w.store w.clock c
    (next r).run storage { w with store := s }
  | .now next, w => (next w.clock).run storage w
  | .fire change next, w => next.run storage (w.fire change)

end Matchday
