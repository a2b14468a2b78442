import Matchday.Live.Gate
import Mathlib.Data.List.TakeWhile
import Mathlib.Data.Set.List
import Mathlib.Tactic.SplitIfs

set_option autoImplicit false

namespace Matchday

open Matchday.Text

namespace Channel

theorem ofName_name (c : Channel) : ofName c.name = .ok c := by
  obtain ⟨t⟩ := c
  cases t <;> rfl

theorem ofName_eq_ok_iff {name : String} {c : Channel} : ofName name = .ok c ↔ c.name = name := by
  constructor
  · intro h
    unfold ofName at h
    split at h
    · next d hfound =>
      cases h
      simpa using List.find?_some hfound
    · cases h
  · rintro rfl
    exact ofName_name c

theorem ofName_eq_error_iff {name : String} {e : UnknownChannel} :
    ofName name = .error e ↔ e.name = name ∧ ∀ c : Channel, c.name ≠ name := by
  constructor
  · intro h
    have hunknown (c : Channel) : c.name ≠ name := fun hname => by
      rw [ofName_eq_ok_iff.mpr hname] at h
      cases h
    refine ⟨?_, hunknown⟩
    unfold ofName at h
    split at h
    · cases h
    · cases h
      rfl
  · rintro ⟨rfl, hunknown⟩
    cases hread : ofName e.name with
    | ok c => exact absurd (ofName_eq_ok_iff.mp hread) (hunknown c)
    | error e' =>
      unfold ofName at hread
      split at hread <;> cases hread
      rfl

theorem name_injective : Function.Injective name := fun c d h =>
  Except.ok.inj ((ofName_name c).symm.trans ((congrArg ofName h).trans (ofName_name d)))

theorem mapM_ofName_eq_ok_iff {names : List String} {channels : List Channel} :
    names.mapM ofName = .ok channels ↔ channels.map name = names := by
  induction names generalizing channels with
  | nil =>
    rw [List.mapM_nil, List.map_eq_nil_iff]
    exact ⟨fun h => (Except.ok.inj h).symm, fun h => congrArg _ h.symm⟩
  | cons first rest ih =>
    rw [List.mapM_cons, List.map_eq_cons_iff]
    constructor
    · intro h
      cases hfirst : ofName first with
      | error e =>
        rw [hfirst] at h
        cases h
      | ok c =>
        cases hrest : rest.mapM ofName with
        | error e =>
          rw [hfirst, hrest] at h
          cases h
        | ok cs =>
          rw [hfirst, hrest] at h
          cases h
          exact ⟨c, cs, rfl, ofName_eq_ok_iff.mp hfirst, ih.mp hrest⟩
    · rintro ⟨c, cs, rfl, hc, hcs⟩
      rw [ofName_eq_ok_iff.mpr hc, ih.mpr hcs]
      rfl

theorem mapM_ofName_eq_error_iff {names : List String} {e : UnknownChannel} :
    names.mapM ofName = .error e ↔
      ∃ (known : List Channel) (rest : List String),
        names = known.map name ++ e.name :: rest ∧ ∀ c : Channel, c.name ≠ e.name := by
  induction names with
  | nil => simp [pure, Except.pure]
  | cons first later ih =>
    rw [List.mapM_cons]
    cases hfirst : ofName first with
    | error e' =>
      obtain ⟨hname, hunknown⟩ := ofName_eq_error_iff.mp hfirst
      constructor
      · rintro ⟨⟩
        exact ⟨[], later, by rw [hname]; rfl, hname ▸ hunknown⟩
      · rintro ⟨known, rest, hnames, -⟩
        cases known with
        | nil =>
          obtain ⟨he, -⟩ := List.cons.inj hnames
          obtain ⟨n⟩ := e
          obtain ⟨n'⟩ := e'
          obtain rfl : n' = first := hname
          obtain rfl : n' = n := he
          rfl
        | cons c known => exact absurd (List.cons.inj hnames).1.symm (hunknown c)
    | ok c =>
      have hc : c.name = first := ofName_eq_ok_iff.mp hfirst
      have hlater : (do let cs ← later.mapM ofName; pure (c :: cs) : Except UnknownChannel _) = .error e ↔
          later.mapM ofName = .error e := by
        cases later.mapM ofName <;> simp [bind, Except.bind, pure, Except.pure]
      refine hlater.trans (ih.trans ?_)
      constructor
      · rintro ⟨known, rest, rfl, hunknown⟩
        exact ⟨c :: known, rest, by rw [← hc]; rfl, hunknown⟩
      · rintro ⟨known, rest, hnames, hunknown⟩
        cases known with
        | nil => exact absurd (hc.trans (List.cons.inj hnames).1) (hunknown c)
        | cons d known => exact ⟨known, rest, (List.cons.inj hnames).2, hunknown⟩

end Channel

namespace Live

def namesOf (text : String) : List String :=
  ((text.toList.splitOn ',').map fun piece => String.ofList (trimChars piece)).filter (· ≠ "")

theorem channelsOf_eq (text : String) : channelsOf text = (namesOf text).mapM Channel.ofName := by
  have hblank (piece : List Char) :
      decide (String.ofList (trimChars piece) ≠ "") = !(trimChars piece).isEmpty := by
    cases h : trimChars piece <;> simp
  rw [channelsOf, namesOf, List.filter_map, List.mapM_map, List.filter_map, List.mapM_map]
  simp only [Function.comp_def, hblank]

theorem channelsOf_eq_ok_iff {text : String} {channels : List Channel} :
    channelsOf text = .ok channels ↔ channels.map Channel.name = namesOf text := by
  rw [channelsOf_eq, Channel.mapM_ofName_eq_ok_iff]

theorem channelsOf_eq_error_iff {text : String} {e : UnknownChannel} :
    channelsOf text = .error e ↔
      ∃ (known : List Channel) (rest : List String),
        namesOf text = known.map Channel.name ++ e.name :: rest ∧ ∀ c : Channel, c.name ≠ e.name := by
  rw [channelsOf_eq, Channel.mapM_ofName_eq_error_iff]

def NamesChannels (text : String) : Prop :=
  ∀ piece ∈ text.toList.splitOn ',',
    trimChars piece = [] ∨ ∃ c : Channel, String.ofList (trimChars piece) = c.name

theorem exists_channelsOf_iff {text : String} :
    (∃ channels, channelsOf text = .ok channels) ↔ NamesChannels text := by
  have hnamed : NamesChannels text ↔ ∀ name ∈ namesOf text, ∃ c : Channel, c.name = name := by
    simp only [NamesChannels, namesOf, List.mem_filter, List.mem_map, decide_eq_true_eq]
    constructor
    · rintro h name ⟨⟨piece, hpiece, rfl⟩, hne⟩
      rcases h piece hpiece with hblank | ⟨c, hc⟩
      · exact absurd (congrArg String.ofList hblank) hne
      · exact ⟨c, hc.symm⟩
    · intro h piece hpiece
      by_cases hblank : trimChars piece = []
      · exact .inl hblank
      · obtain ⟨c, hc⟩ := h _ ⟨⟨piece, hpiece, rfl⟩, fun he => hblank (by simpa using he)⟩
        exact .inr ⟨c, hc.symm⟩
  have hlist := Set.ext_iff.mp (Set.range_list_map Channel.name) (namesOf text)
  simp only [channelsOf_eq_ok_iff, hnamed]
  exact hlist

structure Piece where
  before : List Char
  channel : Option Channel
  after : List Char
  blank_before : ∀ c ∈ before, isBlank c = true
  blank_after : ∀ c ∈ after, isBlank c = true

namespace Piece

def word (p : Piece) : List Char := p.channel.elim [] fun c => c.name.toList

def chars (p : Piece) : List Char := p.before ++ (p.word ++ p.after)

def join (pieces : List Piece) : String := String.ofList ([','].intercalate (pieces.map chars))

theorem of_mem_word {p : Piece} {c : Char} (h : c ∈ p.word) : isBlank c = false ∧ c ≠ ',' := by
  have hnames (t : WatchedTable) :
      ((Channel.mk t).name.toList.all fun c => !isBlank c && c != ',') = true := by
    cases t <;> rfl
  rw [word] at h
  cases hchannel : p.channel with
  | none =>
    rw [hchannel] at h
    cases h
  | some channel =>
    rw [hchannel] at h
    simpa using List.all_eq_true.mp (hnames channel.table) c h

theorem comma_notMem_chars (p : Piece) : ',' ∉ p.chars := by
  have hblank : isBlank ',' = false := by decide
  simp only [chars, List.mem_append, not_or]
  refine ⟨fun h => ?_, fun h => (of_mem_word h).2 rfl, fun h => ?_⟩
  · rw [p.blank_before _ h] at hblank
    cases hblank
  · rw [p.blank_after _ h] at hblank
    cases hblank

theorem dropWhile_of_not_blank {cs : List Char} (h : ∀ c ∈ cs, isBlank c = false) (hne : cs ≠ [])
    (rest : List Char) : (cs ++ rest).dropWhile isBlank = cs ++ rest := by
  obtain ⟨c, cs, rfl⟩ := List.exists_cons_of_ne_nil hne
  exact List.dropWhile_cons_of_neg (by simp [h c List.mem_cons_self])

theorem trimChars_chars (p : Piece) : trimChars p.chars = p.word := by
  rw [trimChars, chars, List.dropWhile_append_of_pos p.blank_before]
  by_cases hempty : p.word = []
  · rw [hempty, List.nil_append, List.dropWhile_eq_nil_iff.mpr p.blank_after]
    rfl
  · have hword (c : Char) (h : c ∈ p.word) : isBlank c = false := (of_mem_word h).1
    have hback : p.word.reverse.dropWhile isBlank = p.word.reverse := by
      have hreverse := dropWhile_of_not_blank (fun c h => hword c (List.mem_reverse.mp h))
        (mt List.reverse_eq_nil_iff.mp hempty) []
      rwa [List.append_nil] at hreverse
    rw [dropWhile_of_not_blank hword hempty, List.reverse_append,
      List.dropWhile_append_of_pos fun c h => p.blank_after c (List.mem_reverse.mp h), hback,
      List.reverse_reverse]

theorem namesOf_join (pieces : List Piece) :
    namesOf (join pieces) = (pieces.filterMap channel).map Channel.name := by
  have hsplit : (join pieces).toList.splitOn ',' = if pieces = [] then [[]] else pieces.map chars := by
    rw [join, String.toList_ofList]
    split_ifs with hnone
    · rw [hnone]
      rfl
    · refine List.splitOn_intercalate ',' ?_ (by simpa using hnone)
      intro cs hcs
      obtain ⟨p, -, rfl⟩ := List.mem_map.mp hcs
      exact p.comma_notMem_chars
  have hwords (ps : List Piece) :
      (ps.map fun p => String.ofList p.word).filter (· ≠ "") = (ps.filterMap channel).map Channel.name := by
    induction ps with
    | nil => rfl
    | cons p ps ih =>
      obtain ⟨before, channel, after, hbefore, hafter⟩ := p
      cases channel with
      | none => simpa [word] using ih
      | some c =>
        have hne : c.name ≠ "" := by
          obtain ⟨t⟩ := c
          cases t <;> decide
        simpa [word, hne] using ih
  rw [namesOf, hsplit]
  split_ifs with hnone
  · rw [hnone]
    rfl
  · rw [List.map_map, ← hwords]
    simp only [Function.comp_def, trimChars_chars]

end Piece

end Live

end Matchday
