import Matchday.Proofs.ClockFate
import Matchday.Proofs.RowLifetime
import Mathlib.Data.List.Chain
import Mathlib.Data.List.Pairwise

set_option autoImplicit false

namespace Matchday

open Service

instance Part.decEqRow : (p : Part) → DecidableEq p.Row
  | .scoreboard => inferInstanceAs (DecidableEq Scoreboard)
  | .gameclock => inferInstanceAs (DecidableEq GameClock)
  | .playclock => inferInstanceAs (DecidableEq PlayClock)

namespace Traffic

def clockRows (t : Traffic) (k : ClockKind) (id : Int) : List Move → List k.Row
  | [] => (t.world.store.findPart k.part id).toList
  | m :: earlier =>
    match (t.run (m :: earlier)).world.store.findPart k.part id with
    | none => t.clockRows k id earlier
    | some row =>
      if (t.clockRows k id earlier).head? = some row then t.clockRows k id earlier
      else row :: t.clockRows k id earlier

/-- Some call has asked for the transition from one row of a clock to another, and was told that it
was made. -/
def Derives (t : Traffic) (k : ClockKind) (id : Int) (old row : k.Row) : Prop :=
  ∃ i f order, t.calls[i]? = some f ∧ f.command.order? (t.past i).readings k = some order ∧
    order.id = id ∧ order.step old = .ok row ∧
    .answered (.updateClock k row (k.version old)) (.ok row) ∈ t.past i

def Follows (t : Traffic) (k : ClockKind) (id : Int) (row old : k.Row) : Prop :=
  (k.version old).number < greatestVersion →
    t.Derives k id old row ∧ (k.version row).number = (k.version old).number + 1

variable {t t' : Traffic} {k : ClockKind} {id : Int}

theorem head?_clockRows (moves : List Move) {row : k.Row}
    (stored : (t.run moves).world.store.findPart k.part id = some row) :
    (t.clockRows k id moves).head? = some row := by
  cases moves with
  | nil =>
    change t.world.store.findPart k.part id = some row at stored
    rw [clockRows, stored]
    rfl
  | cons m earlier =>
    by_cases h : (t.clockRows k id earlier).head? = some row
    · simp only [clockRows, stored, if_pos h]
      exact h
    · simp only [clockRows, stored, if_neg h, List.head?_cons]

theorem clockRows_cons_of_none {m : Move} {earlier : List Move}
    (absent : (t.run (m :: earlier)).world.store.findPart k.part id = none) :
    t.clockRows k id (m :: earlier) = t.clockRows k id earlier := by
  rw [clockRows, absent]

theorem clockRows_cons_of_head {m : Move} {earlier : List Move} {row : k.Row}
    (stored : (t.run (m :: earlier)).world.store.findPart k.part id = some row)
    (head : (t.clockRows k id earlier).head? = some row) :
    t.clockRows k id (m :: earlier) = t.clockRows k id earlier := by
  rw [clockRows, stored]
  exact if_pos head

theorem clockRows_cons_of_ne {m : Move} {earlier : List Move} {row : k.Row}
    (stored : (t.run (m :: earlier)).world.store.findPart k.part id = some row)
    (head : (t.clockRows k id earlier).head? ≠ some row) :
    t.clockRows k id (m :: earlier) = row :: t.clockRows k id earlier := by
  rw [clockRows, stored]
  exact if_neg head

theorem clockRows_cons_of_same {m : Move} {earlier : List Move}
    (same : (t.run (m :: earlier)).world.store.findPart k.part id =
      (t.run earlier).world.store.findPart k.part id) :
    t.clockRows k id (m :: earlier) = t.clockRows k id earlier := by
  cases hstored : (t.run (m :: earlier)).world.store.findPart k.part id with
  | none => exact clockRows_cons_of_none hstored
  | some row => exact clockRows_cons_of_head hstored (head?_clockRows earlier (same ▸ hstored))

theorem clockRows_subset (t : Traffic) (k : ClockKind) (id : Int) (m : Move) (earlier : List Move) :
    t.clockRows k id earlier ⊆ t.clockRows k id (m :: earlier) := by
  intro row hrow
  cases hstored : (t.run (m :: earlier)).world.store.findPart k.part id with
  | none => rwa [clockRows_cons_of_none hstored]
  | some new =>
    by_cases hhead : (t.clockRows k id earlier).head? = some new
    · rwa [clockRows_cons_of_head hstored hhead]
    · rw [clockRows_cons_of_ne hstored hhead]
      exact List.mem_cons_of_mem _ hrow

theorem clockRows_eq_nil (h : t.Sound) {moves : List Move}
    (fresh : (t.run moves).world.store.lastId k.part.table < id) : t.clockRows k id moves = [] := by
  have hnone (u : Traffic) (hu : u.Sound) (hlt : u.world.store.lastId k.part.table < id) :
      u.world.store.findPart k.part id = none := by
    rw [Store.lastId_part] at hlt
    exact (hu.integrity.parts k.part).fresh hlt
  induction moves with
  | nil =>
    rw [clockRows, hnone t h fresh]
    rfl
  | cons m earlier ih =>
    have hevolves := (h.run earlier).evolves_next (next_step _ m)
    have hearlier : (t.run earlier).world.store.lastId k.part.table < id :=
      Int.lt_of_le_of_lt (hevolves.lastId _) fresh
    rw [clockRows_cons_of_none (hnone _ (h.run (m :: earlier)) fresh), ih hearlier]

theorem Derives.next {old row : k.Row} (h : t.Derives k id old row) (sound : t.Sound)
    (n : t.Next t') : t'.Derives k id old row := by
  obtain ⟨i, f, order, hf, hasked, hid, hstep, hmem⟩ := h
  cases n with
  | same => exact ⟨i, f, order, hf, hasked, hid, hstep, hmem⟩
  | ticked now => exact ⟨i, f, order, hf, hasked, hid, hstep, hmem⟩
  | begun c =>
    have hlt : i < t.calls.length := (List.getElem?_eq_some_iff.mp hf).1
    refine ⟨i, f, order, ?_, hasked, hid, hstep, hmem⟩
    exact (List.getElem?_append_left hlt).trans hf
  | @took j g e rest w flight takes after =>
    have hpast := past_took t j i g e rest w
    have hcalls := calls_took flight i e rest w
    by_cases hj : j = i
    · subst hj
      rw [if_pos rfl] at hpast hcalls
      rw [flight] at hf
      cases hf
      refine ⟨j, _, order, hcalls, ?_, hid, hstep, ?_⟩
      · have hkept := (sound.disciplined.took flight takes w).kept j _ hcalls
        rw [hpast] at hkept ⊢
        rw [Command.readings_of_suffix hkept (List.suffix_cons e _) (List.ne_nil_of_mem hmem)]
        exact hasked
      · rw [hpast]
        exact List.mem_cons_of_mem _ hmem
    · rw [if_neg hj] at hpast hcalls
      exact ⟨i, f, order, hcalls.trans hf, hpast.symm ▸ hasked, hid, hstep, hpast.symm ▸ hmem⟩

theorem Follows.next {row old : k.Row} (h : t.Follows k id row old) (sound : t.Sound)
    (n : t.Next t') : t'.Follows k id row old := by
  intro hlt
  obtain ⟨hderives, hversion⟩ := h hlt
  exact ⟨hderives.next sound n, hversion⟩

theorem Snapshots.follows (h : t.Snapshots) {i : Nat} {f : Flight} {e : Entry}
    (rest : Prog (Except Cause f.command.Result)) (w : World Store) (flight : t.calls[i]? = some f)
    {order : ClockOrder k} {current old row : k.Row}
    (asked : f.command.order? (t.past i).readings k = some order) (own : order.id = id)
    (read : .answered (.find k.part id) (.ok (some current)) ∈ t.past i)
    (derived : order.step current = .ok row) (unchanged : k.version current = k.version old)
    (found : t.world.store.findPart k.part id = some old)
    (entry : e = .answered (.updateClock k row (k.version old)) (.ok row)) :
    (t.took i f e rest w).Follows k id row old := by
  intro hlt
  have hsame : current = old :=
    (h.read i k id current (mem_past.mp read) old found).2 unchanged (unchanged ▸ hlt)
  subst hsame
  constructor
  · refine ⟨i, _, order, (calls_took flight i e rest w).trans (if_pos rfl), ?_, own, derived, ?_⟩
    · rw [past_took, if_pos rfl, entry]
      exact asked
    · rw [past_took, if_pos rfl, entry]
      exact List.mem_cons_self
  · have hnumber := Version.number_next (k.version current)
    rw [← (Command.order_advances asked derived).2.2] at hnumber
    omega

theorem Sound.clock_next (h : t.Sound) (snapshots : t.Snapshots) (n : t.Next t') (k : ClockKind)
    (id : Int) :
    t'.world.store.findPart k.part id = t.world.store.findPart k.part id ∨
      t'.world.store.findPart k.part id = none ∨
      (t.world.store.lastId k.part.table < id ∧
        ∃ row, t'.world.store.findPart k.part id = some row ∧ k.version row = .initial) ∨
      ∃ old row, t.world.store.findPart k.part id = some old ∧
        t'.world.store.findPart k.part id = some row ∧ t'.Follows k id row old := by
  cases n with
  | same => exact .inl rfl
  | begun c => exact .inl rfl
  | ticked now => exact .inl rfl
  | took flight takes after =>
    cases h.clockFate flight takes after k id with
    | kept same untold => exact .inl same
    | gone absent => exact .inr (.inl absent)
    | inserted fresh stored first told => exact .inr (.inr (.inl ⟨fresh, _, stored, first⟩))
    | overwritten asked own read derived unchanged found stored entry told =>
      exact .inr (.inr (.inr ⟨_, _, found, stored,
        snapshots.follows _ _ flight asked own read derived unchanged found entry⟩))

structure Chain (t : Traffic) (k : ClockKind) (id : Int) (rows : List k.Row) : Prop where
  first : ∀ row, rows.getLast? = some row → k.version row = .initial
  follows : rows.IsChain (t.Follows k id)

theorem chain_clockRows (clock : Instant) (capacity : Nat) (moves : List Move) (k : ClockKind)
    (id : Int) :
    ((start clock capacity).run moves).Chain k id ((start clock capacity).clockRows k id moves) := by
  have hstart : (start clock capacity).clockRows k id [] = [] := by cases k <;> rfl
  induction moves with
  | nil =>
    rw [hstart]
    refine ⟨?_, .nil⟩
    intro row hrow
    cases hrow
  | cons m earlier ih =>
    have hsound := sound_run clock capacity earlier
    have hnext := next_step ((start clock capacity).run earlier) m
    have hfollows : ((start clock capacity).clockRows k id earlier).IsChain
        (((start clock capacity).run (m :: earlier)).Follows k id) :=
      ih.follows.imp fun _ _ h => h.next hsound hnext
    rcases hsound.clock_next (snapshots_run clock capacity earlier) hnext k id with
      hsame | hnone | ⟨hfresh, row, hrow, hfirst⟩ | ⟨old, row, hold, hrow, hlink⟩
    · rw [clockRows_cons_of_same hsame]
      exact ⟨ih.first, hfollows⟩
    · rw [clockRows_cons_of_none hnone]
      exact ⟨ih.first, hfollows⟩
    · have hnil := clockRows_eq_nil (sound_start clock capacity) hfresh
      rw [clockRows_cons_of_ne hrow (by rw [hnil]; exact fun h => by cases h), hnil]
      refine ⟨?_, .singleton row⟩
      intro row' hrow'
      cases hrow'
      exact hfirst
    · have hhead := head?_clockRows earlier hold
      by_cases hsame : row = old
      · subst hsame
        rw [clockRows_cons_of_head hrow hhead]
        exact ⟨ih.first, hfollows⟩
      · rw [clockRows_cons_of_ne hrow (by rw [hhead]; exact fun h => hsame (Option.some.inj h).symm)]
        obtain ⟨older, holder⟩ := List.head?_eq_some_iff.mp hhead
        rw [holder] at ih hfollows ⊢
        refine ⟨?_, .cons_cons hlink hfollows⟩
        intro first hlast
        rw [List.getLast?_cons_cons] at hlast
        exact ih.first first hlast

theorem written_mem_clockRows (clock : Instant) (capacity : Nat) {moves : List Move} {i : Nat}
    {row saved : k.Row} {previous : Version}
    (mem : (i, .answered (.updateClock k row previous) (.ok saved)) ∈
      ((start clock capacity).run moves).log) :
    row ∈ (start clock capacity).clockRows k (k.part.rowId row) moves := by
  induction moves with
  | nil => cases mem
  | cons m earlier ih =>
    rcases (next_step ((start clock capacity).run earlier) m).log_cases with hlog | ⟨j, e, hlog, after⟩
    · exact clockRows_subset _ _ _ m earlier (ih (hlog ▸ mem))
    · change _ ∈ (((start clock capacity).run earlier).step m).log at mem
      rw [hlog] at mem
      rcases List.mem_cons.mp mem with heq | hmem
      · obtain ⟨-, rfl⟩ := Prod.mk.inj heq
        obtain ⟨-, old, -, -, hstored⟩ := after.updateClock
        exact List.mem_of_head? (head?_clockRows (m :: earlier) hstored)
      · exact clockRows_subset _ _ _ m earlier (ih hmem)

def Reads (t : Traffic) (i : Nat) (k : ClockKind) (id : Int) (v : Version) : Prop :=
  ∃ current, .answered (.find k.part id) (.ok (some current)) ∈ t.past i ∧ k.version current = v

def Commits (t : Traffic) (i : Nat) (k : ClockKind) : Prop :=
  ∃ row previous saved, .answered (.updateClock k row previous) (.ok saved) ∈ t.past i

theorem Sound.write_of_reads (h : t.Sound) {i : Nat} {v : Version} (reads : t.Reads i k id v)
    (commits : t.Commits i k) :
    ∃ row saved, k.part.rowId row = id ∧
      (i, .answered (.updateClock k row v) (.ok saved)) ∈ t.log := by
  obtain ⟨current, hread, rfl⟩ := reads
  obtain ⟨row, previous, saved, hwrite⟩ := commits
  obtain ⟨f, -, hkeeps⟩ := h.disciplined.flight hwrite
  obtain ⟨order, source, hasked, hsource, hderived, rfl⟩ := Command.write_derived hkeeps hwrite
  cases Command.find_unique hkeeps hread hsource
  have hknown := h.known i _ _ _ (mem_past.mp hread)
  refine ⟨row, saved, ?_, mem_past.mp hwrite⟩
  rw [(Command.order_advances hasked hderived).1, hknown.own]

theorem Snapshots.commit_unique (h : t.Snapshots) (sound : t.Sound) {v : Version}
    (hv : v.number < greatestVersion) {i j : Nat} (hi : t.Reads i k id v) (hj : t.Reads j k id v)
    (ci : t.Commits i k) (cj : t.Commits j k) : i = j := by
  obtain ⟨row, saved, hid, hmem⟩ := sound.write_of_reads hi ci
  obtain ⟨row', saved', hid', hmem'⟩ := sound.write_of_reads hj cj
  by_contra hne
  have hpair := h.once.forall hmem hmem' fun he => hne (Prod.mk.inj he).1
  have hgreatest := hpair k row row' v saved saved' rfl rfl (hid.trans hid'.symm)
  omega

/-- The rows of a clock are a chain from its first version on, each made by one call from the row
before it as long as that one is below the greatest version; every write that was taken is in it, and
of the calls that read the same version one at most has its write taken. -/
theorem clock_history (clock : Instant) (capacity : Nat) (moves : List Move) (k : ClockKind)
    (id : Int) :
    let t := (start clock capacity).run moves
    let rows := (start clock capacity).clockRows k id moves
    (∀ first, rows.getLast? = some first → k.version first = .initial) ∧
    rows.IsChain (fun row old => (k.version old).number < greatestVersion →
      t.Derives k id old row ∧ (k.version row).number = (k.version old).number + 1) ∧
    (∀ i row previous saved, k.part.rowId row = id →
      .answered (.updateClock k row previous) (.ok saved) ∈ t.past i → row ∈ rows) ∧
    ∀ v : Version, v.number < greatestVersion → ∀ i j, t.Reads i k id v → t.Reads j k id v →
      t.Commits i k → t.Commits j k → i = j := by
  intro t rows
  have hsound := sound_run clock capacity moves
  have hsnapshots := snapshots_run clock capacity moves
  have hchain := chain_clockRows clock capacity moves k id
  refine ⟨hchain.first, hchain.follows, ?_, ?_⟩
  · rintro i row previous saved rfl hmem
    exact written_mem_clockRows clock capacity (mem_past.mp hmem)
  · intro v hv i j hi hj ci cj
    exact hsnapshots.commit_unique hsound hv hi hj ci cj

end Traffic

end Matchday
