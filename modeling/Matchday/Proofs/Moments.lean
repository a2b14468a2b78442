import Matchday.Proofs.Conduct

set_option autoImplicit false

namespace Matchday.Traffic

/-- A call takes a step right after these moves of a run. -/
def At (t : Traffic) (moves : List Move) (i : Nat) (e : Entry) (earlier : List Move) : Prop :=
  ∃ m, m :: earlier <:+ moves ∧ (t.run (m :: earlier)).log = (i, e) :: (t.run earlier).log

variable {t : Traffic} {moves earlier : List Move} {i : Nat} {e : Entry}

theorem At.mono {later : List Move} (h : At t moves i e earlier) (suffix : moves <:+ later) :
    At t later i e earlier := by
  obtain ⟨m, hsuffix, hlog⟩ := h
  exact ⟨m, hsuffix.trans suffix, hlog⟩

theorem At.suffix (h : At t moves i e earlier) : earlier <:+ moves := by
  obtain ⟨m, hsuffix, -⟩ := h
  exact (List.suffix_cons m earlier).trans hsuffix

theorem At.after (h : At t moves i e earlier) :
    ∃ m, m :: earlier <:+ moves ∧ (t.run (m :: earlier)).log = (i, e) :: (t.run earlier).log ∧
      (t.run earlier).world.After e (t.run (m :: earlier)).world := by
  obtain ⟨m, hsuffix, hlog⟩ := h
  refine ⟨m, hsuffix, hlog, ?_⟩
  rcases (next_step (t.run earlier) m).log_cases with hsame | ⟨j, e', hlog', hafter⟩
  · have hlength := congrArg List.length (hlog.symm.trans hsame)
    simp at hlength
  · obtain ⟨hentry, -⟩ := List.cons.inj (hlog.symm.trans hlog')
    obtain ⟨-, rfl⟩ := Prod.mk.inj hentry
    exact hafter

theorem log_suffix (t : Traffic) {earlier moves : List Move} (h : earlier <:+ moves) :
    (t.run earlier).log <:+ (t.run moves).log := by
  obtain ⟨later, rfl⟩ := h
  induction later with
  | nil => exact List.suffix_rfl
  | cons m later ih =>
    rcases (next_step (t.run (later ++ earlier)) m).log_cases with hlog | ⟨j, e, hlog, -⟩
    · exact ih.trans ⟨[], hlog.symm⟩
    · exact ih.trans ⟨[(j, e)], hlog.symm⟩

theorem exists_at_of_not_mem (mem : (i, e) ∈ (t.run moves).log) (new : (i, e) ∉ t.log) :
    ∃ earlier, At t moves i e earlier := by
  induction moves with
  | nil => exact absurd mem new
  | cons m rest ih =>
    have hearlier (h : (i, e) ∈ (t.run rest).log) : ∃ earlier, At t (m :: rest) i e earlier := by
      obtain ⟨earlier, hat⟩ := ih h
      exact ⟨earlier, hat.mono (List.suffix_cons m rest)⟩
    rcases (next_step (t.run rest) m).log_cases with hlog | ⟨j, e', hlog, -⟩
    · exact hearlier (hlog ▸ mem)
    · change (i, e) ∈ ((t.run rest).step m).log at mem
      rw [hlog] at mem
      rcases List.mem_cons.mp mem with heq | hmem
      · cases heq
        exact ⟨rest, m, List.suffix_rfl, hlog⟩
      · exact hearlier hmem

theorem exists_at (start : t.log = []) (mem : (i, e) ∈ (t.run moves).log) :
    ∃ earlier, At t moves i e earlier :=
  exists_at_of_not_mem mem (start ▸ List.not_mem_nil)

theorem exists_at_of_new (new : t.past i = []) (mem : e ∈ (t.run moves).past i) :
    ∃ earlier, At t moves i e earlier := by
  refine exists_at_of_not_mem (mem_past.mp mem) fun hmem => ?_
  rw [← mem_past, new] at hmem
  cases hmem

theorem mem_asked_run {c : Call} {r : Answer c} (mem : (i, .answered c r) ∈ (t.run earlier).log)
    (suffix : earlier <:+ moves) : .answered c r ∈ ((t.run moves).past i).asked :=
  Past.mem_asked.mpr (Traffic.mem_past.mpr ((log_suffix t suffix).subset mem))

theorem exists_at_of_asked {c : Call} {r : Answer c} (start : t.log = [])
    (mem : .answered c r ∈ ((t.run moves).past i).asked) :
    ∃ earlier, At t moves i (.answered c r) earlier :=
  exists_at start (Traffic.mem_past.mp (Past.mem_asked.mp mem))

theorem At.mem_past (h : At t moves i e earlier) : e ∈ (t.run moves).past i := by
  obtain ⟨m, hsuffix, hlog⟩ := h
  refine Traffic.mem_past.mpr ((log_suffix t hsuffix).subset ?_)
  rw [hlog]
  exact List.mem_cons_self

theorem advance_answered {j : Nat} {f : Flight} {c : Call} {r : Answer c}
    (hlog : (t.advance j f).log = (i, .answered c r) :: t.log) :
    r = (t.world.store.answer t.world.clock c).1 := by
  obtain ⟨command, rest⟩ := f
  cases rest with
  | done a => exact absurd hlog.symm (List.cons_ne_self _ _)
  | call q next =>
    obtain ⟨hentry, -⟩ := List.cons.inj hlog
    obtain ⟨-, hanswer⟩ := Prod.mk.inj hentry
    cases hanswer
    rfl
  | now next => cases (List.cons.inj hlog).1
  | fire change next => cases (List.cons.inj hlog).1

theorem step_log {m : Move} (hlog : (t.step m).log = (i, e) :: t.log) :
    m = .advance i ∨ ∃ fault, m = .fail i fault := by
  have hidle {t' : Traffic} (h : t'.log = (i, e) :: t.log) (same : t' = t) : False :=
    List.cons_ne_self _ _ (h.symm.trans (congrArg log same))
  have htook {j : Nat} {f : Flight} {e' : Entry} {rest : Prog (Except Cause f.command.Result)}
      {w : World Store} (h : (t.took j f e' rest w).log = (i, e) :: t.log) : j = i :=
    (Prod.mk.inj (List.cons.inj h).1).1
  cases m with
  | begin c => exact absurd hlog.symm (List.cons_ne_self _ _)
  | tick now => exact absurd hlog.symm (List.cons_ne_self _ _)
  | advance j =>
    rw [step] at hlog
    cases hflight : t.calls[j]? with
    | none => exact (hidle hlog (by rw [hflight]; rfl)).elim
    | some f =>
      obtain ⟨command, rest⟩ := f
      rw [hflight] at hlog
      cases rest with
      | done a => exact (hidle hlog rfl).elim
      | call q next | now next | fire change next => exact .inl (congrArg _ (htook hlog))
  | fail j fault =>
    rw [step] at hlog
    cases hflight : t.calls[j]? with
    | none => exact (hidle hlog (by rw [hflight]; rfl)).elim
    | some f =>
      obtain ⟨command, rest⟩ := f
      rw [hflight] at hlog
      cases rest with
      | call q next => exact .inr ⟨fault, congrArg (Move.fail · fault) (htook hlog)⟩
      | done a | now next | fire change next => exact (hidle hlog rfl).elim

theorem step_answered {m : Move} {c : Call} {r : Answer c}
    (hlog : (t.step m).log = (i, .answered c r) :: t.log) (sturdy : ∀ fault, m ≠ .fail i fault) :
    r = (t.world.store.answer t.world.clock c).1 := by
  rcases step_log hlog with rfl | ⟨fault, rfl⟩
  · rw [step] at hlog
    cases hflight : t.calls[i]? with
    | none =>
      rw [hflight] at hlog
      exact absurd hlog.symm (List.cons_ne_self _ _)
    | some f =>
      rw [hflight] at hlog
      exact advance_answered hlog
  · exact absurd rfl (sturdy fault)

theorem At.move (h : At t moves i e earlier) :
    .advance i ∈ moves ∨ ∃ fault, .fail i fault ∈ moves := by
  obtain ⟨m, hsuffix, hlog⟩ := h
  have hmem : m ∈ moves := hsuffix.subset List.mem_cons_self
  rcases step_log hlog with rfl | ⟨fault, rfl⟩
  · exact .inl hmem
  · exact .inr ⟨fault, hmem⟩

theorem At.answer {c : Call} {r : Answer c} (h : At t moves i (.answered c r) earlier)
    (sturdy : ∀ fault, Move.fail i fault ∉ moves) :
    r = ((t.run earlier).world.store.answer (t.run earlier).world.clock c).1 := by
  obtain ⟨m, hsuffix, hlog⟩ := h
  refine step_answered hlog ?_
  rintro fault rfl
  exact sturdy fault (hsuffix.subset List.mem_cons_self)

end Matchday.Traffic
