import Matchday.Proofs.Moments
import Matchday.Proofs.Patches

set_option autoImplicit false

namespace Matchday

open Service

def Plain.update : (k : Plain) → Int → k.Patch → Command
  | fixture, id, patch => .updateFixture id patch
  | scoreboard, id, patch => .updateScoreboard id patch

theorem Past.committed_asked (past : Past) : past.asked.committed = past.committed := by
  induction past with
  | nil => rfl
  | cons e rest ih =>
    cases e with
    | answered c r => rw [asked_answered, committed_answered, committed_answered, ih]
    | looked now => exact ih
    | announced change => exact ih

namespace Service

/-- A patch that succeeds has read the row and has written what it makes of it. -/
def Command.Rewrites (c : Command) (past : Past) (result : Except Cause c.Result) : Prop :=
  ∀ (k : Plain) id patch x, c = k.update id patch → result = .ok x →
    ∃ current next saved, past.asked = [k.written next saved, k.found id current] ∧
      k.Patched current patch next

theorem rewrites_action (c : Command) :
    Action.Within (.upTo fun _ => False) (fun past r => c.Rewrites past r) [] c.action := by
  have hother {c : Command} (other : ∀ (k : Plain) id patch, c ≠ k.update id patch) :
      Action.Within (.upTo fun _ => False) (fun past r => c.Rewrites past r) [] c.action :=
    Prog.within_upTo (fun _ => id) fun past r k id patch x hc _ => absurd hc (other k id patch)
  have hfailed {c : Command} {past : Past} {cause : Cause} : c.Rewrites past (.error cause) := by
    intro k id patch x _ hresult
    cases hresult
  cases c with
  | updateFixture id patch =>
    rw [Command.action, updateFixture, Action.within_bind]
    refine within_getFixture not_false ?_ fun r e => hfailed
    intro current
    simp only [Action.within_bind, Action.within_ofExcept]
    cases hnext : current.withPatch patch with
    | error e => exact hfailed
    | ok next =>
      simp only [Except.mapError, Action.within_ask]
      refine ⟨not_false, ?_⟩
      rintro (fault | _ | saved)
      · exact hfailed
      · exact hfailed
      · refine ⟨not_false, ?_⟩
        intro k id' patch' x hc _
        cases k with
        | fixture =>
          cases hc
          exact ⟨current, next, saved, rfl, hnext⟩
        | scoreboard => cases hc
  | updateScoreboard id patch =>
    rw [Command.action, updateScoreboard, Action.within_bind]
    refine within_getPart not_false ?_ fun r e => hfailed
    intro current
    simp only [Action.within_bind, Action.within_ofExcept]
    cases hnext : Scoreboard.withPatch current patch with
    | error e => exact hfailed
    | ok next =>
      simp only [Except.mapError, Action.within_ask]
      refine ⟨not_false, ?_⟩
      rintro (fault | _ | saved)
      · exact hfailed
      · exact hfailed
      · refine ⟨not_false, ?_⟩
        intro k id' patch' x hc _
        cases k with
        | fixture => cases hc
        | scoreboard =>
          cases hc
          exact ⟨current, next, saved, rfl, hnext⟩
  | _ => exact hother fun k id patch h => by cases k <;> cases h

end Service

namespace Plain

variable {k : Plain} {id : Int} {row saved : k.Row}

theorem changes_found : (k.found id row).changes = [] := by
  cases k <;> rfl

theorem changes_written (row : k.Row) :
    ∃ owner, (k.written row row).changes = [.updated k.table (k.rowId row) owner] := by
  cases k with
  | fixture => exact ⟨none, rfl⟩
  | scoreboard => exact ⟨some row.fields.matchId, rfl⟩

theorem found_ne_written {row' : k.Row} : k.found id row ≠ k.written row' saved := by
  cases k <;> exact nofun

theorem asked_found (past : Past) : Past.asked (k.found id row :: past) = k.found id row :: past.asked := by
  cases k <;> rfl

end Plain

namespace Traffic

variable {t u : Traffic} {moves earlier : List Move} {i j : Nat}

def Wrote (t : Traffic) (i : Nat) : Prop := (t.past i).committed ≠ []

instance (t : Traffic) (i : Nat) : Decidable (t.Wrote i) :=
  inferInstanceAs (Decidable ((t.past i).committed ≠ []))

theorem past_suffix (t : Traffic) (h : earlier <:+ moves) (i : Nat) :
    (t.run earlier).past i <:+ (t.run moves).past i :=
  (log_suffix t h).filterMap _

theorem Wrote.mono (h : (t.run earlier).Wrote i) (suffix : earlier <:+ moves) : (t.run moves).Wrote i := by
  obtain ⟨later, hpast⟩ := past_suffix t suffix i
  rw [Wrote, ← hpast, Past.committed, List.flatMap_append]
  exact fun hnil => h (List.append_eq_nil_iff.mp hnil).2

theorem wrote_total (t : Traffic) (moves : List Move) (i j : Nat) :
    (∀ earlier, earlier <:+ moves → (t.run earlier).Wrote i → (t.run earlier).Wrote j) ∨
      ∀ earlier, earlier <:+ moves → (t.run earlier).Wrote j → (t.run earlier).Wrote i := by
  by_contra hneither
  simp only [not_or, not_forall] at hneither
  obtain ⟨⟨a, ha, hia, hja⟩, b, hb, hjb, hib⟩ := hneither
  rcases List.suffix_or_suffix_of_suffix ha hb with hle | hle
  · exact hib (hia.mono hle)
  · exact hja (hjb.mono hle)

/-- Of all calls only these two change a row during these moves. -/
def OnlyBy (t : Traffic) (moves : List Move) (u : WatchedTable) (id : Int) (i j : Nat) : Prop :=
  ∀ n e earlier, At t moves n e earlier → ∀ change ∈ e.changes, change.table = u → change.rowId = id →
    n = i ∨ n = j

variable {k : Plain} {id : Int} {patch : k.Patch} {current next : k.Row} {e : Entry} {m : Move}

structure Rewriting (t : Traffic) (moves : List Move) (k : Plain) (id : Int) (i : Nat) (patch : k.Patch)
    (current next : k.Row) : Prop where
  asked : ((t.run moves).past i).asked = [k.written next next, k.found id current]
  patched : k.Patched current patch next
  own : k.rowId next = id

theorem Rewriting.asked_suffix (h : Rewriting t moves k id i patch current next)
    (suffix : earlier <:+ moves) :
    ((t.run earlier).past i).asked <:+ [k.written next next, k.found id current] := by
  rw [← h.asked]
  exact (past_suffix t suffix i).filter _

theorem past_of_log_cons (hlog : u.log = (i, e) :: t.log) (j : Nat) :
    u.past j = if i = j then e :: t.past j else t.past j := by
  by_cases h : i = j <;> simp [past, hlog, h]

theorem Rewriting.entry (h : Rewriting t moves k id i patch current next)
    (suffix : m :: earlier <:+ moves)
    (hlog : (t.run (m :: earlier)).log = (i, e) :: (t.run earlier).log) :
    e.changes = [] ∨ e = k.written next next ∧ ¬(t.run earlier).Wrote i := by
  have hasked := h.asked_suffix suffix
  rw [past_of_log_cons hlog, if_pos rfl] at hasked
  cases e with
  | looked now => exact .inl rfl
  | announced change => exact .inl rfl
  | answered c r =>
    rw [Past.asked_answered] at hasked
    rcases List.suffix_cons_iff.mp hasked with heq | hrest
    · obtain ⟨hentry, hbefore⟩ := List.cons.inj heq
      refine .inr ⟨hentry, ?_⟩
      rw [Wrote, ← Past.committed_asked, hbefore, not_not]
      simp [Past.committed, Plain.changes_found]
    · rcases List.suffix_cons_iff.mp hrest with heq | hrest
      · rw [(List.cons.inj heq).1]
        exact .inl Plain.changes_found
      · cases List.suffix_nil.mp hrest

theorem Rewriting.unwritten_of_read (h : Rewriting t moves k id i patch current next) {row : k.Row}
    (read : At t moves i (k.found id row) earlier) : ¬(t.run earlier).Wrote i := by
  obtain ⟨m, hsuffix, hlog⟩ := read
  have hasked := h.asked_suffix hsuffix
  rw [past_of_log_cons hlog, if_pos rfl, Plain.asked_found] at hasked
  have hnone : ((t.run earlier).past i).asked = [] := by
    rcases List.suffix_cons_iff.mp hasked with heq | hrest
    · exact absurd (List.cons.inj heq).1 Plain.found_ne_written
    · rcases List.suffix_cons_iff.mp hrest with heq | hrest
      · exact (List.cons.inj heq).2
      · cases List.suffix_nil.mp hrest
  rw [Wrote, ← Past.committed_asked, hnone, not_not]
  rfl

theorem Rewriting.wrote (h : Rewriting t moves k id i patch current next) : (t.run moves).Wrote i := by
  obtain ⟨owner, hchanges⟩ := Plain.changes_written next
  rw [Wrote, ← Past.committed_asked, h.asked]
  simp [Past.committed, hchanges]

theorem Rewriting.wrote_untold (h : Rewriting t moves k id i patch current next)
    (suffix : m :: earlier <:+ moves)
    (hlog : (t.run (m :: earlier)).log = (j, e) :: (t.run earlier).log)
    (untold : ∀ change ∈ e.changes, change.table = k.table → change.rowId ≠ id) :
    (t.run (m :: earlier)).Wrote i ↔ (t.run earlier).Wrote i := by
  rw [Wrote, past_of_log_cons hlog]
  split_ifs with hj
  · subst hj
    have hquiet : e.changes = [] := by
      rcases h.entry suffix hlog with hquiet | ⟨rfl, -⟩
      · exact hquiet
      · obtain ⟨owner, hchanges⟩ := Plain.changes_written next
        exact absurd h.own (untold _ (hchanges ▸ List.mem_singleton_self _) rfl)
    rw [Wrote, Past.committed, List.flatMap_cons, hquiet]
    rfl
  · rfl

variable {patchI patchJ : k.Patch} {currentI currentJ nextI nextJ base : k.Row}

inductive RowStep (u u' : Traffic) (k : Plain) (id : Int) (i j : Nat) (nextI nextJ : k.Row) : Prop
  | still (same : u'.world.store.plain k id = u.world.store.plain k id)
      (sameI : u'.Wrote i ↔ u.Wrote i) (sameJ : u'.Wrote j ↔ u.Wrote j)
  | first (stored : u'.world.store.plain k id = some nextI) (wrote : u'.Wrote i) (new : ¬u.Wrote i)
      (sameJ : u'.Wrote j ↔ u.Wrote j)
  | second (stored : u'.world.store.plain k id = some nextJ) (wrote : u'.Wrote j) (new : ¬u.Wrote j)
      (sameI : u'.Wrote i ↔ u.Wrote i)

theorem Rewriting.stored (h : Rewriting t moves k id i patch current next)
    (suffix : m :: earlier <:+ moves)
    (hlog : (t.run (m :: earlier)).log = (i, e) :: (t.run earlier).log)
    (after : (t.run earlier).world.After e (t.run (m :: earlier)).world) (told : e.changes ≠ []) :
    (t.run (m :: earlier)).world.store.plain k id = some next ∧ (t.run (m :: earlier)).Wrote i ∧
      ¬(t.run earlier).Wrote i := by
  rcases h.entry suffix hlog with hquiet | ⟨rfl, hnew⟩
  · exact absurd hquiet told
  · refine ⟨h.own ▸ after.written.2, ?_, hnew⟩
    rw [Wrote, past_of_log_cons hlog, if_pos rfl, Past.committed, List.flatMap_cons]
    exact fun hnil => told (List.reverse_eq_nil_iff.mp (List.append_eq_nil_iff.mp hnil).1)

theorem Sound.effect_next (h : t.Sound) {t' : Traffic} (n : t.Next t') :
    (t'.log = t.log ∧ t'.world.store = t.world.store) ∨
      ∃ i e c, t'.log = (i, e) :: t.log ∧ t.world.After e t'.world ∧
        t.world.store.Effect c e.changes t'.world.store := by
  cases n with
  | same | begun c | ticked now => exact .inl ⟨rfl, rfl⟩
  | took flight takes after =>
    obtain ⟨c, heffect, -, -⟩ := h.effect flight takes after
    exact .inr ⟨_, _, c, rfl, after, heffect⟩

theorem Sound.rowStep (sound : t.Sound) (ne : i ≠ j)
    (hi : Rewriting t moves k id i patchI currentI nextI)
    (hj : Rewriting t moves k id j patchJ currentJ nextJ) (alone : t.OnlyBy moves k.table id i j)
    (suffix : m :: earlier <:+ moves) :
    RowStep (t.run earlier) (t.run (m :: earlier)) k id i j nextI nextJ := by
  have hnext : (t.run earlier).Next (t.run (m :: earlier)) := next_step _ m
  rcases (sound.run earlier).effect_next hnext with
    ⟨hlog, hstore⟩ | ⟨n, e, c, hlog, hafter, heffect⟩
  · have hpast (a : Nat) : (t.run (m :: earlier)).Wrote a ↔ (t.run earlier).Wrote a := by
      rw [Wrote, past, hlog]
      rfl
    exact .still (congrArg (·.plain k id) hstore) (hpast i) (hpast j)
  · have hother {a : Nat} (hne : n ≠ a) :
        (t.run (m :: earlier)).Wrote a ↔ (t.run earlier).Wrote a := by
      rw [Wrote, past_of_log_cons hlog, if_neg hne, Wrote]
    by_cases htold : ∃ change ∈ e.changes, change.table = k.table ∧ change.rowId = id
    · obtain ⟨change, hchange, htable, hid⟩ := htold
      have hne := List.ne_nil_of_mem hchange
      rcases alone n e earlier ⟨m, suffix, hlog⟩ change hchange htable hid with rfl | rfl
      · obtain ⟨hstored, hwrote, hnew⟩ := hi.stored suffix hlog hafter hne
        exact .first hstored hwrote hnew (hother ne)
      · obtain ⟨hstored, hwrote, hnew⟩ := hj.stored suffix hlog hafter hne
        exact .second hstored hwrote hnew (hother ne.symm)
    · have huntold : ∀ change ∈ e.changes, change.table = k.table → change.rowId ≠ id :=
        fun change hchange htable hid => htold ⟨change, hchange, htable, hid⟩
      exact .still (heffect.plain_untold (sound.run earlier).integrity huntold)
        (hi.wrote_untold suffix hlog huntold) (hj.wrote_untold suffix hlog huntold)

/-- At every moment the row is as the last write has left it. -/
theorem Sound.plain_run (sound : t.Sound) (ne : i ≠ j)
    (hi : Rewriting t moves k id i patchI currentI nextI)
    (hj : Rewriting t moves k id j patchJ currentJ nextJ) (alone : t.OnlyBy moves k.table id i j)
    (stands : t.world.store.plain k id = some base) (freshI : t.past i = []) (freshJ : t.past j = [])
    (last : ∀ earlier, earlier <:+ moves → (t.run earlier).Wrote i → (t.run earlier).Wrote j)
    (suffix : earlier <:+ moves) :
    (t.run earlier).world.store.plain k id =
      some (if (t.run earlier).Wrote i then nextI else if (t.run earlier).Wrote j then nextJ else base) := by
  induction earlier with
  | nil =>
    have hfresh {a : Nat} (h : t.past a = []) : ¬(t.run []).Wrote a := by
      change ¬(t.past a).committed ≠ []
      rw [h, not_not]
      rfl
    rw [if_neg (hfresh freshI), if_neg (hfresh freshJ)]
    exact stands
  | cons m earlier ih =>
    have hrow := ih ((List.suffix_cons m earlier).trans suffix)
    cases sound.rowStep ne hi hj alone suffix with
    | still same sameI sameJ =>
      rw [same, hrow]
      simp only [sameI, sameJ]
    | first stored wrote new sameJ => rw [stored, if_pos wrote]
    | second stored wrote new sameI =>
      have hnot : ¬(t.run (m :: earlier)).Wrote i := fun h =>
        new (last earlier ((List.suffix_cons m earlier).trans suffix) (sameI.mp h))
      rw [stored, if_neg hnot, if_pos wrote]

/-- Call `i` writes the row after call `j` has. Each field that its patch names is as it gave it; of the
others it has put back what it had read, which is what `j` gave only if it has read the row after that. -/
structure Prevails (t : Traffic) (moves : List Move) (k : Plain) (id : Int) (i j : Nat)
    (patch other : k.Patch) (base row : k.Row) : Prop where
  last : ∀ earlier, earlier <:+ moves → (t.run earlier).Wrote i → (t.run earlier).Wrote j
  fields : ∃ current earlier, At t moves i (k.found id current) earlier ∧
    ∀ f : Plain.Field k, f.value row = (f.given patch).getD
      (if (t.run earlier).Wrote j then (f.given other).getD (f.value base) else f.value base)

theorem Sound.prevails (sound : t.Sound) (tidy : ∀ moves, (t.run moves).world.store.Tidy) (ne : i ≠ j)
    (hi : Rewriting t moves k id i patchI currentI nextI)
    (hj : Rewriting t moves k id j patchJ currentJ nextJ) (alone : t.OnlyBy moves k.table id i j)
    (stands : t.world.store.plain k id = some base) (freshI : t.past i = []) (freshJ : t.past j = [])
    (last : ∀ earlier, earlier <:+ moves → (t.run earlier).Wrote i → (t.run earlier).Wrote j) :
    (t.run moves).world.store.plain k id = some nextI ∧
      t.Prevails moves k id i j patchI patchJ base nextI := by
  have hrow {earlier : List Move} (suffix : earlier <:+ moves) :=
    sound.plain_run ne hi hj alone stands freshI freshJ last suffix
  have hread {n : Nat} {patch : k.Patch} {current next : k.Row}
      (h : Rewriting t moves k id n patch current next) (fresh : t.past n = []) :
      ∃ earlier, At t moves n (k.found id current) earlier := by
    have hasked : k.found id current ∈ ((t.run moves).past n).asked := by
      rw [h.asked]
      exact List.mem_cons_of_mem _ List.mem_cons_self
    exact exists_at_of_new fresh (List.mem_filter.mp hasked).1
  have hvalue {n : Nat} {patch : k.Patch} {current next : k.Row} {earlier : List Move}
      (h : Rewriting t moves k id n patch current next)
      (found : (t.run earlier).world.store.plain k id = some current) (f : Plain.Field k) :
      f.value next = (f.given patch).getD (f.value current) :=
    h.patched.value ((tidy earlier).plain found) f
  obtain ⟨readI, hatI⟩ := hread hi freshI
  obtain ⟨readJ, hatJ⟩ := hread hj freshJ
  obtain ⟨_, -, -, hafterI⟩ := hatI.after
  obtain ⟨_, -, -, hafterJ⟩ := hatJ.after
  have hnotI := hi.unwritten_of_read hatI
  have hnotJ := hj.unwritten_of_read hatJ
  have hbase : currentJ = base := by
    have h := hrow hatJ.suffix
    rw [hafterJ.found.1, if_neg fun hw => hnotJ (last _ hatJ.suffix hw), if_neg hnotJ] at h
    exact Option.some.inj h
  have hcurrent : currentI = if (t.run readI).Wrote j then nextJ else base := by
    have h := hrow hatI.suffix
    rw [hafterI.found.1, if_neg hnotI] at h
    exact Option.some.inj h
  refine ⟨(hrow List.suffix_rfl).trans (by rw [if_pos hi.wrote]), last, currentI, readI, hatI, ?_⟩
  intro f
  rw [hvalue hi hafterI.found.1, hcurrent]
  split_ifs
  · rw [hvalue hj hafterJ.found.1, hbase]
  · rfl

/-- Two calls patch one row, both with success, and no other call changes it meanwhile. -/
structure Race (t : Traffic) (moves : List Move) (k : Plain) (id : Int) (i j : Nat)
    (patchI patchJ : k.Patch) (base : k.Row) : Prop where
  stands : t.world.store.plain k id = some base
  distinct : i ≠ j
  newI : t.calls.length ≤ i
  newJ : t.calls.length ≤ j
  doneI : ∃ x, (t.run moves).calls[i]? = some ⟨k.update id patchI, .done (.ok x)⟩
  doneJ : ∃ x, (t.run moves).calls[j]? = some ⟨k.update id patchJ, .done (.ok x)⟩
  alone : t.OnlyBy moves k.table id i j

variable {clock : Instant} {capacity : Nat} {before : List Move}

theorem exists_rewriting (new : ((start clock capacity).run before).past i = [])
    {x : (k.update id patch).Result}
    (done : (((start clock capacity).run before).run moves).calls[i]? =
      some ⟨k.update id patch, .done (.ok x)⟩) :
    ∃ current next, Rewriting ((start clock capacity).run before) moves k id i patch current next := by
  have hsound := sound_run clock capacity before
  have hrewrites := keepTo_run rewrites_action clock capacity (moves ++ before) i
    ⟨k.update id patch, .done (.ok x)⟩ (by rw [run_append]; exact done)
  obtain ⟨current, next, saved, hasked, hpatched⟩ := hrewrites k id patch x rfl rfl
  rw [run_append] at hasked
  have hmem {e : Entry} (h : e ∈ [k.written next saved, k.found id current]) :
      e ∈ (((start clock capacity).run before).run moves).past i :=
    (List.mem_filter.mp (hasked ▸ h)).1
  obtain ⟨write, hwrite⟩ := exists_at_of_new new (hmem List.mem_cons_self)
  obtain ⟨read, hread⟩ := exists_at_of_new new (hmem (List.mem_cons_of_mem _ List.mem_cons_self))
  obtain ⟨_, -, -, hwritten⟩ := hwrite.after
  obtain ⟨_, -, -, hfound⟩ := hread.after
  obtain ⟨rfl, -⟩ := hwritten.written
  have hown := (hsound.run read).integrity.plain_own hfound.found.1
  exact ⟨current, saved, hasked, hpatched, hpatched.rowId.trans hown⟩

/-- When two calls patch one row at the same time, with success and without another change of it, one of
them writes last. The row has what its patch gives, in all other fields what it had read: what the
other patch gives if the row was read after the other call's write, and what stood there before. -/
theorem last_patch_prevails (clock : Instant) (capacity : Nat) (before moves : List Move) (k : Plain)
    (id : Int) (i j : Nat) (patchI patchJ : k.Patch) (base : k.Row)
    (race : Race ((start clock capacity).run before) moves k id i j patchI patchJ base) :
    let t := (start clock capacity).run before
    ∃ row, (t.run moves).world.store.plain k id = some row ∧
      (t.Prevails moves k id i j patchI patchJ base row ∨
        t.Prevails moves k id j i patchJ patchI base row) := by
  intro t
  obtain ⟨stands, distinct, newI, newJ, ⟨x, doneI⟩, ⟨y, doneJ⟩, alone⟩ := race
  have hsound : t.Sound := sound_run clock capacity before
  have htidy (moves : List Move) : (t.run moves).world.store.Tidy := by
    rw [← run_append]
    exact tidy_run clock capacity (moves ++ before)
  have hfreshI : t.past i = [] := hsound.disciplined.past_eq_nil newI
  have hfreshJ : t.past j = [] := hsound.disciplined.past_eq_nil newJ
  obtain ⟨currentI, nextI, hi⟩ := exists_rewriting hfreshI doneI
  obtain ⟨currentJ, nextJ, hj⟩ := exists_rewriting hfreshJ doneJ
  rcases wrote_total t moves i j with hlast | hlast
  · obtain ⟨hrow, hprevails⟩ :=
      hsound.prevails htidy distinct hi hj alone stands hfreshI hfreshJ hlast
    exact ⟨nextI, hrow, .inl hprevails⟩
  · have halone : t.OnlyBy moves k.table id j i := fun n e earlier hat change hchange htable hid =>
      (alone n e earlier hat change hchange htable hid).symm
    obtain ⟨hrow, hprevails⟩ :=
      hsound.prevails htidy distinct.symm hj hi halone stands hfreshJ hfreshI hlast
    exact ⟨nextJ, hrow, .inr hprevails⟩

theorem onlyBy_of_moves {u : WatchedTable}
    (turns : ∀ m ∈ moves, (∃ c, m = .begin c) ∨ m = .advance i ∨ m = .advance j) :
    t.OnlyBy moves u id i j := by
  intro n e earlier hat change _ _ _
  rcases hat.move with hmem | ⟨fault, hmem⟩
  · rcases turns _ hmem with ⟨c, hc⟩ | hn | hn
    · cases hc
    · exact .inl (Move.advance.inj hn)
    · exact .inr (Move.advance.inj hn)
  · rcases turns _ hmem with ⟨c, hc⟩ | hn | hn
    · cases hc
    · cases hn
    · cases hn

/-- Both calls read the title and the week before either writes: the new title is trimmed, and the week
that the other call gave has been put back. -/
theorem last_patch_prevails_of_stale_read :
    let before : List Move := [.advance 0, .advance 0, .begin (.createFixture ⟨1, 2, 3, "Final", 1, none⟩)]
    let moves : List Move :=
      [.advance 1, .advance 2, .advance 1, .advance 2, .advance 2, .advance 1,
        .begin (.updateFixture 1 { week := some 9 }), .begin (.updateFixture 1 { title := some " Cup final " })]
    let base : Fixture := ⟨1, ⟨1, 2, 3, "Final", 1, none⟩⟩
    let patchI : FixturePatch := { title := some " Cup final " }
    let patchJ : FixturePatch := { week := some 9 }
    Race ((start .epoch 4).run before) moves .fixture 1 1 2 patchI patchJ base ∧
    ∃ row : Fixture, (((start .epoch 4).run before).run moves).world.store.plain .fixture 1 = some row ∧
      row = ⟨1, ⟨1, 2, 3, "Cup final", 1, none⟩⟩ ∧
      (((start .epoch 4).run before).Prevails moves .fixture 1 1 2 patchI patchJ base row ∨
        ((start .epoch 4).run before).Prevails moves .fixture 1 2 1 patchJ patchI base row) := by
  intro before moves base patchI patchJ
  have hdoneI : ∃ x, (((start .epoch 4).run before).run moves).calls[1]? =
      some ⟨.updateFixture 1 patchI, .done (.ok x)⟩ := by
    dsimp only [before, moves, patchI]
    exact ⟨_, rfl⟩
  have hdoneJ : ∃ x, (((start .epoch 4).run before).run moves).calls[2]? =
      some ⟨.updateFixture 1 patchJ, .done (.ok x)⟩ := by
    dsimp only [before, moves, patchJ]
    exact ⟨_, rfl⟩
  have hrace : Race ((start .epoch 4).run before) moves .fixture 1 1 2 patchI patchJ base := by
    refine ⟨by decide +kernel, by decide, by decide, by decide, hdoneI, hdoneJ, onlyBy_of_moves ?_⟩
    simp [moves]
  have hstored : (((start .epoch 4).run before).run moves).world.store.plain .fixture 1 =
      some (⟨1, ⟨1, 2, 3, "Cup final", 1, none⟩⟩ : Fixture) := by decide +kernel
  obtain ⟨row, hrow, hprevails⟩ :=
    last_patch_prevails .epoch 4 before moves .fixture 1 1 2 patchI patchJ base hrace
  exact ⟨hrace, row, hrow, Option.some.inj (hrow.symm.trans hstored), hprevails⟩

/-- Only one of two patches gives the score of the first team, and it is lost: the other call has read the
scoreboard before that score was written, and writes the whole scoreboard after. -/
theorem patch_lost_to_stale_write :
    let before : List Move :=
      [.advance 1, .advance 1, .advance 1, .begin (.createScoreboard (.kickoff 1)),
        .advance 0, .advance 0, .begin (.createFixture ⟨1, 2, 3, "Final", 1, none⟩)]
    let moves : List Move :=
      [.advance 3, .advance 3, .advance 2, .advance 2, .advance 3, .advance 2,
        .begin (.updateScoreboard 1 { scoreTeamB := some 7 }),
        .begin (.updateScoreboard 1 { scoreTeamA := some 3 })]
    let t := (start .epoch 4).run before
    let patchI : ScoreboardPatch := { scoreTeamA := some 3 }
    let patchJ : ScoreboardPatch := { scoreTeamB := some 7 }
    ∃ row : Scoreboard, Race t moves .scoreboard 1 2 3 patchI patchJ ⟨1, .kickoff 1⟩ ∧
      (t.run moves).world.store.plain .scoreboard 1 = some row ∧
      Plain.Field.given .scoreTeamA patchI = some 3 ∧ Plain.Field.given .scoreTeamA patchJ = none ∧
      Plain.Field.value .scoreTeamA row = 0 := by
  intro before moves t patchI patchJ
  refine ⟨⟨1, 1, 0, 7, 1, false⟩, ?_, by decide +kernel, rfl, rfl, rfl⟩
  have hdoneI : ∃ x, (t.run moves).calls[2]? = some ⟨.updateScoreboard 1 patchI, .done (.ok x)⟩ := by
    dsimp only [t, moves, before, patchI]
    exact ⟨_, rfl⟩
  have hdoneJ : ∃ x, (t.run moves).calls[3]? = some ⟨.updateScoreboard 1 patchJ, .done (.ok x)⟩ := by
    dsimp only [t, moves, before, patchJ]
    exact ⟨_, rfl⟩
  refine ⟨by decide +kernel, by decide, by decide, by decide, hdoneI, hdoneJ, onlyBy_of_moves ?_⟩
  simp [moves]

end Traffic

end Matchday
