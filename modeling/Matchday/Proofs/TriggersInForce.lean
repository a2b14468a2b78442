import Matchday.Program
import Mathlib.Data.List.Pairwise
import Mathlib.Tactic.SplitIfs

set_option autoImplicit false

namespace Matchday

namespace Feed

def after (f : Feed) : List Use → Feed
  | [] => f
  | u :: earlier => ((f.after earlier).use u).feed

def standardUses : List Use := (history.map .step).reverse

theorem after_append (f : Feed) (later earlier : List Use) :
    f.after (later ++ earlier) = (f.after earlier).after later := by
  induction later with
  | nil => rfl
  | cons u later ih => exact congrArg (fun g => (use g u).feed) ih

theorem after_standardUses : empty.after standardUses = standard := rfl

/-- There was a use that begins something, given the uses before it, and none since that ends it. -/
def Since (begins : List Use → Use → Prop) (ends : Use → Prop) (uses : List Use) : Prop :=
  ∃ later u earlier, uses = later ++ u :: earlier ∧ begins earlier u ∧ ∀ v ∈ later, ¬ends v

theorem not_since_nil (begins : List Use → Use → Prop) (ends : Use → Prop) : ¬Since begins ends [] := by
  rintro ⟨later, u, earlier, hsplit, -⟩
  simp at hsplit

theorem since_cons {begins : List Use → Use → Prop} {ends : Use → Prop} {u : Use} {uses : List Use} :
    Since begins ends (u :: uses) ↔ begins uses u ∨ ¬ends u ∧ Since begins ends uses := by
  constructor
  · rintro ⟨_ | ⟨v, later⟩, w, earlier, hsplit, hbegins, hkept⟩
    · cases hsplit
      exact .inl hbegins
    · cases hsplit
      obtain ⟨hv, hlater⟩ := List.forall_mem_cons.mp hkept
      exact .inr ⟨hv, later, w, earlier, rfl, hbegins, hlater⟩
  · rintro (hbegins | ⟨hu, later, w, earlier, rfl, hbegins, hkept⟩)
    · exact ⟨[], u, uses, rfl, hbegins, nofun⟩
    · exact ⟨u :: later, w, earlier, rfl, hbegins, List.forall_mem_cons.mpr ⟨hu, hkept⟩⟩

def Use.Fills (t : WatchedTable) : Use → Prop
  | step (.create g) | step (.replace g) => g.table = t
  | _ => False

/-- A trigger has been created or replaced on the table and since then none was dropped there. -/
def Watched (uses : List Use) (t : WatchedTable) : Prop :=
  Since (fun _ u => u.Fills t) (fun u => u = .step (.drop t)) uses

theorem watched_cons {u : Use} {uses : List Use} {t : WatchedTable} :
    Watched (u :: uses) t ↔ u.Fills t ∨ u ≠ .step (.drop t) ∧ Watched uses t := since_cons

/-- The use puts the trigger in force: it replaces what was bound, or nothing was. -/
def Use.Gives (earlier : List Use) (g : Trigger) : Use → Prop
  | step (.replace h) => h = g
  | step (.create h) => h = g ∧ ¬Watched earlier g.table
  | _ => False

/-- The use takes from a table the trigger that it had. -/
def Use.Ends (t : WatchedTable) : Use → Prop
  | step (.replace h) => h.table = t
  | step (.drop u) => u = t
  | _ => False

/-- The last use that gave its table a trigger gave this one, and no use since has ended that. -/
def InForce (uses : List Use) (g : Trigger) : Prop :=
  Since (fun earlier u => u.Gives earlier g) (fun u => u.Ends g.table) uses

theorem inForce_cons {u : Use} {uses : List Use} {g : Trigger} :
    InForce (u :: uses) g ↔ u.Gives uses g ∨ ¬u.Ends g.table ∧ InForce uses g := since_cons

theorem get_create (f : Feed) (g : Trigger) (t : WatchedTable) :
    (f.create g).2.get t = if g.table = t then (f.get t).or (some g) else f.get t := by
  rw [create]
  split_ifs with ht
  · subst ht
    cases hbound : f.get g.table with
    | some h => exact hbound
    | none => exact PerTable.get_set_self _ _ _
  · cases f.get g.table with
    | some h => rfl
    | none => exact PerTable.get_set_of_ne _ _ (Ne.symm ht)

theorem get_set (f : Feed) (t u : WatchedTable) (a : Option Trigger) :
    PerTable.get (f.set u a) t = if u = t then a else f.get t := by
  split_ifs with ht
  · rw [ht, PerTable.get_set_self]
  · exact PerTable.get_set_of_ne _ _ (Ne.symm ht)

theorem get_use_eq_none (f : Feed) (u : Use) (t : WatchedTable) :
    (f.use u).feed.get t = none ↔ ¬u.Fills t ∧ (u = .step (.drop t) ∨ f.get t = none) := by
  match u with
  | .step (.create g) =>
    simp only [use, get_create, Use.Fills]
    split_ifs with ht <;> simp [ht]
  | .step (.replace g) =>
    simp only [use, replace, get_set, Use.Fills]
    split_ifs with ht <;> simp [ht]
  | .step (.drop v) =>
    simp only [use, drop, get_set, Use.Fills]
    split_ifs with ht <;> simp [ht]
  | .fire change => simp [use, Use.Fills]

theorem get_eq_none_iff (uses : List Use) (t : WatchedTable) :
    (empty.after uses).get t = none ↔ ¬Watched uses t := by
  induction uses with
  | nil =>
    rw [after, empty, PerTable.get_const]
    exact iff_of_true rfl (not_since_nil _ _)
  | cons u earlier ih =>
    rw [after, get_use_eq_none, ih, watched_cons, not_or, not_and_or, Ne, not_not]

theorem get_use (u : Use) (earlier : List Use) (g : Trigger) :
    ((empty.after earlier).use u).feed.get g.table = some g ↔
      u.Gives earlier g ∨ ¬u.Ends g.table ∧ (empty.after earlier).get g.table = some g := by
  match u with
  | .step (.create h) =>
    simp only [use, get_create, Use.Gives, Use.Ends, not_false_eq_true, true_and, ← get_eq_none_iff]
    split_ifs with ht
    · cases (empty.after earlier).get g.table <;> simp
    · have hne : h ≠ g := fun he => ht (congrArg Trigger.table he)
      simp [hne]
  | .step (.replace h) =>
    simp only [use, replace, get_set, Use.Gives, Use.Ends]
    split_ifs with ht
    · simp [ht]
    · have hne : h ≠ g := fun he => ht (congrArg Trigger.table he)
      simp [ht, hne]
  | .step (.drop t) =>
    simp only [use, drop, get_set, Use.Gives, Use.Ends, false_or]
    split_ifs with ht <;> simp [ht]
  | .fire change => simp [use, Use.Gives, Use.Ends]

theorem get_after_iff (uses : List Use) (g : Trigger) :
    (empty.after uses).get g.table = some g ↔ InForce uses g := by
  induction uses with
  | nil =>
    rw [after, empty, PerTable.get_const]
    exact iff_of_false nofun (not_since_nil _ _)
  | cons u earlier ih => rw [after, get_use, ih, inForce_cons]

def Filed (f : Feed) : Prop := ∀ t g, f.get t = some g → g.table = t

theorem Filed.use {f : Feed} (filed : f.Filed) (u : Use) : (f.use u).feed.Filed := by
  intro t g hget
  match u with
  | .step (.create h) =>
    simp only [Feed.use, get_create] at hget
    split_ifs at hget with ht
    · rcases Option.or_eq_some_iff.mp hget with hold | ⟨-, hnew⟩
      · exact filed t g hold
      · cases hnew
        exact ht
    · exact filed t g hget
  | .step (.replace h) =>
    simp only [Feed.use, replace, get_set] at hget
    split_ifs at hget with ht
    · cases hget
      exact ht
    · exact filed t g hget
  | .step (.drop u) =>
    simp only [Feed.use, drop, get_set] at hget
    split_ifs at hget
    exact filed t g hget
  | .fire change => exact filed t g hget

theorem filed_after (uses : List Use) : (empty.after uses).Filed := by
  induction uses with
  | nil =>
    intro t g hget
    rw [after, empty, PerTable.get_const] at hget
    cases hget
  | cons u earlier ih => exact ih.use u

theorem mem_bound {f : Feed} (filed : f.Filed) {g : Trigger} :
    g ∈ f.bound ↔ f.get g.table = some g := by
  simp only [bound, PerTable.toList, List.filterMap_map, List.mem_filterMap, Function.comp_apply]
  constructor
  · rintro ⟨t, -, hget⟩
    rwa [filed t g hget]
  · exact fun hget => ⟨g.table, WatchedTable.mem_all _, hget⟩

theorem pairwise_bound {f : Feed} (filed : f.Filed) :
    f.bound.Pairwise fun g h => g.table ≠ h.table := by
  have hdistinct : WatchedTable.all.Pairwise (· ≠ ·) := by decide
  rw [bound, PerTable.toList, List.filterMap_map]
  refine hdistinct.filterMap _ ?_
  intro t u hne g hg h hh
  rwa [filed t g hg, filed u h hh]

theorem exists_get_iff (uses : List Use) (t : WatchedTable) :
    (∃ g, (empty.after uses).get t = some g) ↔ Watched uses t := by
  rw [← Option.ne_none_iff_exists', Ne, get_eq_none_iff, not_not]

theorem exists_bound_iff (uses : List Use) (t : WatchedTable) :
    (∃ g ∈ (empty.after uses).bound, g.table = t) ↔ Watched uses t := by
  have hfiled := filed_after uses
  rw [← exists_get_iff]
  constructor
  · rintro ⟨g, hmem, rfl⟩
    exact ⟨g, (mem_bound hfiled).mp hmem⟩
  · rintro ⟨g, hget⟩
    have htable := hfiled t g hget
    subst htable
    exact ⟨g, (mem_bound hfiled).mpr hget, rfl⟩

/-- What is bound to the table is decided, or at most filled in where nothing was. -/
def Settles (t : WatchedTable) (next : Feed → Feed) : Prop :=
  (∃ a, ∀ f, (next f).get t = a) ∨ ∃ a, ∀ f : Feed, (next f).get t = (f.get t).or a

theorem settles_id (t : WatchedTable) : Settles t fun f => f := .inr ⟨none, fun _ => Option.or_none.symm⟩

theorem settles_use (t : WatchedTable) (u : Use) : Settles t fun f => (f.use u).feed := by
  match u with
  | .step (.create g) =>
    refine .inr ⟨if g.table = t then some g else none, fun f => ?_⟩
    simp only [use, get_create]
    split_ifs <;> simp
  | .step (.replace g) =>
    simp only [use, replace, Settles, get_set]
    split_ifs
    · exact .inl ⟨some g, fun _ => rfl⟩
    · exact settles_id t
  | .step (.drop v) =>
    simp only [use, drop, Settles, get_set]
    split_ifs
    · exact .inl ⟨none, fun _ => rfl⟩
    · exact settles_id t
  | .fire change => exact settles_id t

theorem settles_after (t : WatchedTable) (uses : List Use) : Settles t fun f => f.after uses := by
  induction uses with
  | nil => exact settles_id t
  | cons u earlier ih =>
    rcases settles_use t u with ⟨a, ha⟩ | ⟨a, ha⟩
    · exact .inl ⟨a, fun f => ha _⟩
    · have hlast (f : Feed) : (f.after (u :: earlier)).get t = ((f.after earlier).get t).or a := ha _
      rcases ih with ⟨b, hb⟩ | ⟨b, hb⟩
      · exact .inl ⟨b.or a, fun f => (hlast f).trans (by rw [hb f])⟩
      · exact .inr ⟨b.or a, fun f => (hlast f).trans (by rw [hb f, Option.or_assoc])⟩

theorem after_again (f : Feed) (uses : List Use) : (f.after uses).after uses = f.after uses := by
  refine PerTable.ext_get fun t => ?_
  rcases settles_after t uses with ⟨a, ha⟩ | ⟨a, ha⟩
  · rw [ha, ha]
  · rw [ha, ha, Option.or_assoc, Option.or_self]

theorem report_of_watched {uses : List Use} {t : WatchedTable} (watched : Watched uses t) :
    ((empty.after uses).use (.step (.drop t))).report = .dropped true ∧
      ∀ g : Trigger, g.table = t →
        ((empty.after uses).use (.step (.create g))).report = .bound .alreadyExists ∧
          ((empty.after uses).use (.step (.replace g))).report = .bound .replaced := by
  obtain ⟨h, hget⟩ := (exists_get_iff uses t).mpr watched
  refine ⟨by rw [use, drop, hget]; rfl, ?_⟩
  rintro g rfl
  exact ⟨by rw [use, create, hget], by rw [use, replace, hget]; rfl⟩

theorem report_of_unwatched {uses : List Use} {t : WatchedTable} (idle : ¬Watched uses t) :
    ((empty.after uses).use (.step (.drop t))).report = .dropped false ∧
      ∀ g : Trigger, g.table = t →
        ((empty.after uses).use (.step (.create g))).report = .bound .created ∧
          ((empty.after uses).use (.step (.replace g))).report = .bound .created := by
  have hget := (get_eq_none_iff uses t).mpr idle
  refine ⟨by rw [use, drop, hget]; rfl, ?_⟩
  rintro g rfl
  exact ⟨by rw [use, create, hget], by rw [use, replace, hget]; rfl⟩

theorem use_of_inForce {uses : List Use} {g : Trigger} {change : RowChange}
    (inForce : InForce uses g) (table : g.table = change.table) :
    (empty.after uses).use (.fire change) =
      ⟨.fired (some (.ofRowChange change)), [(g.channel, .ofRowChange change)],
        empty.after uses⟩ := by
  rw [use, announce, ← table, (get_after_iff uses g).mpr inForce]
  rfl

theorem use_of_unwatched {uses : List Use} {change : RowChange}
    (idle : ¬Watched uses change.table) :
    (empty.after uses).use (.fire change) = ⟨.fired none, [], empty.after uses⟩ := by
  rw [use, announce, (get_eq_none_iff uses _).mpr idle]
  rfl

/-- A feed after any uses, where the standard triggers are uses of a new feed. Of each table at most one
trigger is bound: the one that the last use gave it that replaced its trigger or created one where none was
bound, if no later use has dropped it. To create, replace and drop tell whether one was bound. A row change
is published once, on the channel of its table's trigger, and returned, or neither if there is no trigger;
it leaves the triggers as they are, and all this in every world, where the event is handed to the bus once
or not at all. The same uses once more, be it one step or the standard ones, change nothing. -/
theorem registry_follows_history (uses : List Use) :
    let f := empty.after uses
    standard.after uses = empty.after (uses ++ standardUses) ∧
    (f.bound.Pairwise fun g h => g.table ≠ h.table) ∧
    (∀ g, g ∈ f.bound ↔ InForce uses g) ∧
    (∀ t, (∃ g ∈ f.bound, g.table = t) ↔ Watched uses t) ∧
    (∀ t, Watched uses t → (f.use (.step (.drop t))).report = .dropped true ∧
      ∀ g : Trigger, g.table = t →
        (f.use (.step (.create g))).report = .bound .alreadyExists ∧
          (f.use (.step (.replace g))).report = .bound .replaced) ∧
    (∀ t, ¬Watched uses t → (f.use (.step (.drop t))).report = .dropped false ∧
      ∀ g : Trigger, g.table = t →
        (f.use (.step (.create g))).report = .bound .created ∧
          (f.use (.step (.replace g))).report = .bound .created) ∧
    (∀ g change, InForce uses g → g.table = change.table →
      f.use (.fire change) =
        ⟨.fired (some (.ofRowChange change)), [(g.channel, .ofRowChange change)], f⟩) ∧
    (∀ change, ¬Watched uses change.table → f.use (.fire change) = ⟨.fired none, [], f⟩) ∧
    (∀ (σ : Type) (w : World σ) (change : RowChange), w.feed = f →
      (w.fire change).feed = f ∧
        (w.fire change).published = (f.use (.fire change)).published ++ w.published ∧
        (∀ g, InForce uses g → g.table = change.table →
          (w.fire change).bus = w.bus.publish g.channel (.ofRowChange change)) ∧
        (¬Watched uses change.table → (w.fire change).bus = w.bus)) ∧
    ∀ again, (f.after again).after again = f.after again := by
  intro f
  have hfiled : f.Filed := filed_after uses
  refine ⟨?_, pairwise_bound hfiled, ?_, exists_bound_iff uses, fun t => report_of_watched,
    fun t => report_of_unwatched, fun g change => use_of_inForce, fun change => use_of_unwatched, ?_,
    after_again f⟩
  · rw [after_append, after_standardUses]
  · exact fun g => (mem_bound hfiled).trans (get_after_iff uses g)
  · rintro σ w change hfeed
    refine ⟨hfeed, ?_, ?_, ?_⟩
    · rw [World.fire, hfeed]
    · intro g hforce htable
      rw [World.fire, hfeed, use_of_inForce hforce htable]
      rfl
    · intro hidle
      rw [World.fire, hfeed, use_of_unwatched hidle]
      rfl

example :
    let late : Trigger := ⟨"late", .fixture, ⟨.playclock⟩⟩
    ((standard.after [.step (.create late), .step (.drop .fixture)]).use
      (.fire (.inserted .fixture 1 none))).published.map Prod.fst = [⟨.playclock⟩] := by
  decide

end Feed

end Matchday
