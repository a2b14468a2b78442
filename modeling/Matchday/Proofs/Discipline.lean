import Matchday.Program
import Matchday.Proofs.Effect
import Matchday.Service.Action

set_option autoImplicit false

/-!
# Programs that keep to a rule

The steps that a program has taken form its past, the newest step first. A `Rule` says which steps
may follow which past, whatever the calls are answered and whatever the clock shows; `Prog.Within` is
the weakest condition under which a program keeps to it.
-/
namespace Matchday

/-- One step of a program, as its record has it. -/
inductive Entry
  | answered (c : Call) (r : Answer c)
  | looked (now : Instant)
  | announced (change : RowChange)

namespace Entry

def changes : Entry → List RowChange
  | answered c r => c.changes r
  | _ => []

def announcement : Entry → List RowChange
  | announced change => [change]
  | _ => []

def reading : Entry → Option Instant
  | looked now => some now
  | _ => none

end Entry

abbrev Past := List Entry

namespace Past

/-- The row changes that calls have committed, the newest first. -/
def committed (past : Past) : List RowChange := past.flatMap fun e => e.changes.reverse

/-- The row changes that have been announced, the newest first. -/
def announced (past : Past) : List RowChange := past.flatMap Entry.announcement

def readings (past : Past) : List Instant := past.filterMap Entry.reading

def asked (past : Past) : Past :=
  past.filter fun e => match e with
    | .answered _ _ => true
    | _ => false

def Unasked (past : Past) : Prop := ∀ c r, .answered c r ∉ past

/-- Fixtures have been found under their own ids. -/
def Faithful (past : Past) : Prop :=
  ∀ id row, .answered (.findFixture id) (.ok (some row)) ∈ past → row.id = id

theorem Faithful.of_suffix {earlier past : Past} (h : past.Faithful) (suffix : earlier <:+ past) :
    earlier.Faithful := fun id row mem => h id row (suffix.subset mem)

variable (past : Past)

@[simp] theorem committed_nil : committed [] = [] := rfl

@[simp] theorem committed_answered (c : Call) (r : Answer c) :
    committed (.answered c r :: past) = (c.changes r).reverse ++ committed past := rfl

@[simp] theorem committed_looked (now : Instant) :
    committed (.looked now :: past) = committed past := rfl

@[simp] theorem committed_announced (change : RowChange) :
    committed (.announced change :: past) = committed past := rfl

@[simp] theorem announced_nil : announced [] = [] := rfl

@[simp] theorem announced_answered (c : Call) (r : Answer c) :
    announced (.answered c r :: past) = announced past := rfl

@[simp] theorem announced_looked (now : Instant) :
    announced (.looked now :: past) = announced past := rfl

@[simp] theorem announced_announced (change : RowChange) :
    announced (.announced change :: past) = change :: announced past := rfl

theorem unasked_nil : Unasked [] := fun _ _ h => List.not_mem_nil h

theorem unasked_looked (now : Instant) : Unasked [.looked now] := fun _ _ h => by
  cases List.mem_singleton.mp h

@[simp] theorem asked_answered (c : Call) (r : Answer c) :
    asked (.answered c r :: past) = .answered c r :: asked past := rfl

theorem mem_asked {past : Past} {c : Call} {r : Answer c} :
    Entry.answered c r ∈ asked past ↔ .answered c r ∈ past := by
  simp [asked]

end Past

/-- Which steps may follow a past. -/
structure Rule where
  ask : Past → Call → Prop
  look : Past → Prop
  announce : Past → RowChange → Prop

def Rule.Allows (R : Rule) (past : Past) : Entry → Prop
  | .answered c _ => R.ask past c
  | .looked _ => R.look past
  | .announced change => R.announce past change

def Rule.Keeps (R : Rule) : Past → Prop
  | [] => True
  | e :: earlier => R.Allows earlier e ∧ R.Keeps earlier

theorem Rule.Keeps.of_suffix {R : Rule} {earlier past : Past} (h : R.Keeps past)
    (suffix : earlier <:+ past) : R.Keeps earlier := by
  induction past with
  | nil =>
    cases List.suffix_nil.mp suffix
    trivial
  | cons e rest ih =>
    rcases List.suffix_cons_iff.mp suffix with rfl | hrest
    · exact h
    · exact ih h.2 hrest

/-- Any step may be taken until it is over, and none from then on. -/
def Rule.upTo (stop : Past → Prop) : Rule :=
  ⟨fun past _ => ¬stop past, fun past => ¬stop past, fun past _ => ¬stop past⟩

theorem Rule.Keeps.allows_of_mem {R : Rule} {past : Past} {e : Entry} (h : R.Keeps past)
    (mem : e ∈ past) : ∃ earlier, e :: earlier <:+ past ∧ R.Allows earlier e := by
  obtain ⟨later, earlier, rfl⟩ := List.append_of_mem mem
  have hsuffix : e :: earlier <:+ later ++ e :: earlier := List.suffix_append later (e :: earlier)
  exact ⟨earlier, hsuffix, (h.of_suffix hsuffix).1⟩

namespace Prog

variable {α β : Type} (R : Rule)

/-- From this past on the program keeps to the rule, and ends as `finish` says. -/
def Within (finish : Past → α → Prop) : Past → Prog α → Prop
  | past, done a => finish past a
  | past, call c next => R.ask past c ∧ ∀ r, Within finish (.answered c r :: past) (next r)
  | past, now next => R.look past ∧ ∀ t, Within finish (.looked t :: past) (next t)
  | past, fire change next =>
    R.announce past change ∧ Within finish (.announced change :: past) next

variable {R}

theorem within_bind {finish : Past → β → Prop} {past : Past} {p : Prog α} {f : α → Prog β} :
    (p.bind f).Within R finish past ↔
      p.Within R (fun past a => (f a).Within R finish past) past := by
  induction p generalizing past with
  | done a => rfl
  | call c next ih => exact and_congr_right fun _ => forall_congr' fun r => ih r
  | now next ih => exact and_congr_right fun _ => forall_congr' fun t => ih t
  | fire change next ih => exact and_congr_right fun _ => ih

theorem Within.mono {finish finish' : Past → α → Prop} {past : Past} {p : Prog α}
    (h : p.Within R finish past) (weaker : ∀ past a, finish past a → finish' past a) :
    p.Within R finish' past := by
  induction p generalizing past with
  | done a => exact weaker past a h
  | call c next ih => exact ⟨h.1, fun r => ih r (h.2 r)⟩
  | now next ih => exact ⟨h.1, fun t => ih t (h.2 t)⟩
  | fire change next ih => exact ⟨h.1, ih h.2⟩

/-- A program takes a step and goes on. -/
inductive Takes : Prog α → Entry → Prog α → Prop
  | answered (c : Call) (next : Answer c → Prog α) (r : Answer c) :
    Takes (call c next) (.answered c r) (next r)
  | looked (next : Instant → Prog α) (t : Instant) : Takes (now next) (.looked t) (next t)
  | announced (change : RowChange) (next : Prog α) :
    Takes (fire change next) (.announced change) next

theorem Within.takes {finish : Past → α → Prop} {past : Past} {p rest : Prog α} {e : Entry}
    (h : p.Within R finish past) (takes : p.Takes e rest) :
    R.Allows past e ∧ rest.Within R finish (e :: past) := by
  cases takes with
  | answered c next r => exact ⟨h.1, h.2 r⟩
  | looked next t => exact ⟨h.1, h.2 t⟩
  | announced change next => exact h

@[simp] theorem within_done {finish : Past → α → Prop} {past : Past} {a : α} :
    (done a).Within R finish past ↔ finish past a := Iff.rfl

variable {stop : Past → Prop} {finish : Past → α → Prop} {past : Past} {p : Prog α}

theorem Within.exists_done (h : p.Within (.upTo stop) finish past) (hover : stop past) :
    ∃ a, p = .done a ∧ finish past a := by
  cases p with
  | done a => exact ⟨a, rfl, h⟩
  | call c next => exact absurd hover h.1
  | now next => exact absurd hover h.1
  | fire change next => exact absurd hover h.1

theorem within_upTo (never : ∀ past, ¬stop past) (h : ∀ past a, finish past a) :
    p.Within (.upTo stop) finish past := by
  induction p generalizing past with
  | done a => exact h past a
  | call c next ih => exact ⟨never past, fun r => ih r⟩
  | now next ih => exact ⟨never past, fun t => ih t⟩
  | fire change next ih => exact ⟨never past, ih⟩

end Prog

namespace Action

variable {α β ε : Type} {R : Rule} {past : Past}

def Within (R : Rule) (finish : Past → Except Cause α → Prop) (past : Past) (a : Action α) : Prop :=
  Prog.Within R finish past a.run

@[simp] theorem within_bind {finish : Past → Except Cause β → Prop} {a : Action α}
    {f : α → Action β} :
    Within R finish past (a >>= f) ↔
      Within R (fun past r => match r with
        | .ok x => Within R finish past (f x)
        | .error e => finish past (.error e)) past a := by
  refine Prog.within_bind.trans ?_
  constructor
  · refine fun h => Prog.Within.mono h ?_
    rintro past (e | x) h <;> exact h
  · refine fun h => Prog.Within.mono h ?_
    rintro past (e | x) h <;> exact h

@[simp] theorem within_pure {finish : Past → Except Cause α → Prop} {a : α} :
    Within R finish past (pure a) ↔ finish past (.ok a) := Iff.rfl

@[simp] theorem within_ofExcept {finish : Past → Except Cause α → Prop} {f : ε → Cause}
    {r : Except ε α} : Within R finish past (ofExcept f r) ↔ finish past (r.mapError f) := Iff.rfl

@[simp] theorem within_ask {finish : Past → Except Cause α → Prop} {f : ε → Cause}
    {p : Prog (Except ε α)} :
    Within R finish past (ask f p) ↔
      p.Within R (fun past r => finish past (r.mapError f)) past := Prog.within_bind

@[simp] theorem within_announce {finish : Past → Except Cause Unit → Prop} {change : RowChange} :
    Within R finish past (announce change) ↔
      R.announce past change ∧ finish (.announced change :: past) (.ok ()) := Iff.rfl

@[simp] theorem within_time {finish : Past → Except Cause Instant → Prop} :
    Within R finish past time ↔ R.look past ∧ ∀ t, finish (.looked t :: past) (.ok t) := Iff.rfl

end Action

end Matchday
