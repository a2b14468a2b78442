import Matchday.Store.Table
import Mathlib.Data.List.Sort
import Mathlib.Tactic.SplitIfs

set_option autoImplicit false

namespace Matchday.Table

variable {α : Type}

def Ordered (t : Table α) : Prop := t.entries.Pairwise fun e f => e.1 < f.1

theorem get?_cons (k j : Int) (a : α) (rest : List (Int × α)) :
    get? ⟨(k, a) :: rest⟩ j = if j = k then some a else get? ⟨rest⟩ j := by
  by_cases h : j = k
  · simp [get?, h]
  · have hb : (j == k) = false := by simpa using h
    simp [get?, List.lookup_cons, h, hb]

theorem mem_of_get? {t : Table α} {j : Int} {a : α} (h : t.get? j = some a) :
    (j, a) ∈ t.entries := by
  obtain ⟨entries⟩ := t
  induction entries with
  | nil => cases h
  | cons e rest ih =>
    obtain ⟨k, b⟩ := e
    rw [get?_cons] at h
    split_ifs at h with hk
    · cases h
      exact hk ▸ List.mem_cons_self
    · exact List.mem_cons_of_mem _ (ih h)

theorem get?_of_mem {t : Table α} (ht : t.Ordered) {j : Int} {a : α} (h : (j, a) ∈ t.entries) :
    t.get? j = some a := by
  obtain ⟨entries⟩ := t
  induction entries with
  | nil => cases h
  | cons e rest ih =>
    obtain ⟨k, b⟩ := e
    obtain ⟨hlt, hrest⟩ := List.pairwise_cons.mp ht
    rw [get?_cons]
    rcases List.mem_cons.mp h with he | hmem
    · cases he
      exact if_pos rfl
    · have hkj : k < j := hlt (j, a) hmem
      rw [if_neg (by omega)]
      exact ih hrest hmem

theorem get?_eq_some_iff {t : Table α} (ht : t.Ordered) {j : Int} {a : α} :
    t.get? j = some a ↔ (j, a) ∈ t.entries :=
  ⟨mem_of_get?, get?_of_mem ht⟩

theorem ext_get? {t u : Table α} (ht : t.Ordered) (hu : u.Ordered) (h : ∀ j, t.get? j = u.get? j) :
    t = u := by
  have : Std.Irrefl fun e f : Int × α => e.1 < f.1 := ⟨fun e => Int.lt_irrefl e.1⟩
  have : Std.Asymm fun e f : Int × α => e.1 < f.1 := ⟨fun e f => Int.lt_asymm⟩
  have hmem (e : Int × α) : e ∈ t.entries ↔ e ∈ u.entries := by
    rw [← get?_eq_some_iff ht, ← get?_eq_some_iff hu, h]
  obtain ⟨entries⟩ := t
  exact congrArg _ (List.Pairwise.eq_of_mem_iff ht hu hmem)

theorem get?_insert (t : Table α) (k j : Int) (a : α) :
    (t.insert k a).get? j = if j = k then some a else t.get? j := by
  obtain ⟨entries⟩ := t
  change get? ⟨insertEntry k a entries⟩ j = _
  induction entries with
  | nil => exact get?_cons k j a []
  | cons e rest ih =>
    obtain ⟨l, b⟩ := e
    rw [insertEntry]
    by_cases hlt : k < l
    · rw [if_pos hlt]
      exact get?_cons k j a _
    · rw [if_neg hlt]
      by_cases heq : k = l
      · rw [if_pos heq, get?_cons, get?_cons]
        split_ifs <;> first | rfl | omega
      · rw [if_neg heq, get?_cons, get?_cons, ih]
        split_ifs <;> first | rfl | omega

theorem get?_erase (t : Table α) (k j : Int) :
    (t.erase k).get? j = if j = k then none else t.get? j := by
  obtain ⟨entries⟩ := t
  change get? ⟨entries.filter fun e => e.1 != k⟩ j = _
  induction entries with
  | nil => simp [get?]
  | cons e rest ih =>
    obtain ⟨l, b⟩ := e
    by_cases hl : l = k
    · subst hl
      rw [List.filter_cons_of_neg (by simp), ih, get?_cons]
      split_ifs <;> rfl
    · rw [List.filter_cons_of_pos (by simpa using hl), get?_cons, get?_cons, ih]
      split_ifs <;> first | rfl | omega

theorem erase_of_absent {t : Table α} {k : Int} (h : t.contains k = false) : t.erase k = t := by
  have hnone : t.entries.lookup k = none := by simpa [contains, get?] using h
  have hkept : ∀ e ∈ t.entries, (e.1 != k) = true := by
    intro e he
    have hne : (k == e.1) = false := by simpa using List.lookup_eq_none_iff.mp hnone e he
    have hne' : ¬e.1 = k := fun heq => by simp [heq] at hne
    simpa using hne'
  rw [erase, List.filter_eq_self.mpr hkept]

theorem get?_without {t : Table α} (ht : t.Ordered) (p : α → Bool) (j : Int) :
    (t.without p).get? j = (t.get? j).filter fun a => !p a := by
  obtain ⟨entries⟩ := t
  change get? ⟨entries.filter fun e => !p e.2⟩ j = _
  induction entries with
  | nil => rfl
  | cons e rest ih =>
    obtain ⟨l, b⟩ := e
    obtain ⟨hlt, hrest⟩ := List.pairwise_cons.mp ht
    rw [get?_cons]
    by_cases hb : p b = true
    · rw [List.filter_cons_of_neg (by simpa using hb), ih hrest]
      split_ifs with hj
      · have hnone : get? ⟨rest⟩ j = none := by
          rw [Option.eq_none_iff_forall_not_mem]
          intro a ha
          have hlj : l < j := hlt (j, a) (mem_of_get? (t := ⟨rest⟩) ha)
          omega
        rw [hnone, Option.filter_some_neg (by simpa using hb)]
        rfl
      · rfl
    · rw [List.filter_cons_of_pos (by simpa using hb), get?_cons, ih hrest]
      split_ifs
      · rw [Option.filter_some_pos (by simpa using hb)]
      · rfl

theorem mem_keysWhere {t : Table α} (ht : t.Ordered) {p : α → Bool} {j : Int} :
    j ∈ t.keysWhere p ↔ ∃ a, t.get? j = some a ∧ p a = true := by
  simp only [keysWhere, List.mem_map, List.mem_filter, Prod.exists, get?_eq_some_iff ht]
  constructor
  · rintro ⟨k, a, ⟨hmem, hp⟩, rfl⟩
    exact ⟨a, hmem, hp⟩
  · rintro ⟨a, hmem, hp⟩
    exact ⟨j, a, ⟨hmem, hp⟩, rfl⟩

theorem find?_eq_none {t : Table α} {p : α → Bool} (h : t.find? p = none) {j : Int} {a : α}
    (ha : t.get? j = some a) : p a = false := by
  have hmem : a ∈ t.values := List.mem_map_of_mem (f := Prod.snd) (mem_of_get? ha)
  exact Bool.eq_false_iff.mpr (List.find?_eq_none.mp h a hmem)

theorem ordered_empty : (empty : Table α).Ordered := List.Pairwise.nil

theorem mem_insertEntry {k : Int} {a : α} {entries : List (Int × α)} {e : Int × α}
    (h : e ∈ insertEntry k a entries) : e = (k, a) ∨ e ∈ entries := by
  induction entries with
  | nil => exact .inl (List.mem_singleton.mp h)
  | cons f rest ih =>
    rw [insertEntry] at h
    split_ifs at h with hlt heq
    · exact List.mem_cons.mp h
    · rcases List.mem_cons.mp h with he | hmem
      · exact .inl he
      · exact .inr (List.mem_cons_of_mem _ hmem)
    · rcases List.mem_cons.mp h with he | hmem
      · exact .inr (he ▸ List.mem_cons_self)
      · exact (ih hmem).imp_right (List.mem_cons_of_mem _)

theorem ordered_insert {t : Table α} (ht : t.Ordered) (k : Int) (a : α) :
    (t.insert k a).Ordered := by
  obtain ⟨entries⟩ := t
  change (insertEntry k a entries).Pairwise _
  induction entries with
  | nil => exact List.pairwise_singleton _ _
  | cons f rest ih =>
    obtain ⟨l, b⟩ := f
    obtain ⟨hlt, hrest⟩ := List.pairwise_cons.mp ht
    rw [insertEntry]
    split_ifs with hk heq
    · refine List.pairwise_cons.mpr ⟨?_, ht⟩
      intro e he
      rcases List.mem_cons.mp he with rfl | hmem
      · exact hk
      · exact Int.lt_trans hk (hlt e hmem)
    · exact List.pairwise_cons.mpr ⟨heq ▸ hlt, hrest⟩
    · refine List.pairwise_cons.mpr ⟨?_, ih hrest⟩
      intro e he
      rcases mem_insertEntry he with rfl | hmem
      · change l < k
        omega
      · exact hlt e hmem

theorem insert_self {t : Table α} (ht : t.Ordered) {k : Int} {a : α} (h : t.get? k = some a) :
    t.insert k a = t := by
  refine ext_get? (ordered_insert ht k a) ht fun j => ?_
  rw [get?_insert]
  split_ifs with hj
  · rw [hj, h]
  · rfl

theorem ordered_erase {t : Table α} (ht : t.Ordered) (k : Int) : (t.erase k).Ordered :=
  ht.sublist List.filter_sublist

theorem ordered_without {t : Table α} (ht : t.Ordered) (p : α → Bool) : (t.without p).Ordered :=
  ht.sublist List.filter_sublist

theorem nodup_keysWhere {t : Table α} (ht : t.Ordered) (p : α → Bool) : (t.keysWhere p).Nodup := by
  have hsub : (t.entries.filter fun e => p e.2).Pairwise fun e f => e.1 < f.1 :=
    ht.sublist List.filter_sublist
  exact List.pairwise_map.mpr (hsub.imp fun h => Int.ne_of_lt h)

end Matchday.Table
