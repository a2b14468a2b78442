import Matchday.Proofs.Command

set_option autoImplicit false

namespace Matchday.Service.Command

open Matchday

variable {c : Command} {past earlier : Past}

theorem find_unique (h : c.rule.Keeps past) {p q : Part} {id j : Int} {r : Answer (.find p id)}
    {s : Answer (.find q j)} (hr : .answered (.find p id) r ∈ past)
    (hs : .answered (.find q j) s ∈ past) :
    Entry.answered (.find p id) r = .answered (.find q j) s := by
  induction past with
  | nil => cases hr
  | cons e rest ih =>
    rcases List.mem_cons.mp hr with rfl | hr' <;> rcases List.mem_cons.mp hs with hs' | hs'
    · exact hs'.symm
    · exact absurd hs' (h.1.2 _ _)
    · subst hs'
      exact absurd hr' (h.1.2 _ _)
    · exact ih h.2 hr' hs'

theorem readings_of_suffix (h : c.rule.Keeps past) (suffix : earlier <:+ past)
    (nonempty : earlier ≠ []) : past.readings = earlier.readings := by
  induction past with
  | nil => exact absurd (List.suffix_nil.mp suffix) nonempty
  | cons e rest ih =>
    rcases List.suffix_cons_iff.mp suffix with rfl | hrest
    · rfl
    · have hrest' := ih h.2 hrest
      cases e with
      | answered call r => exact hrest'
      | announced change => exact hrest'
      | looked now =>
        have hnil : rest = [] := h.1
        rw [hnil] at hrest
        exact absurd (List.suffix_nil.mp hrest) nonempty

theorem write_derived (h : c.rule.Keeps past) {k : ClockKind} {row : k.Row} {previous : Version}
    {r : Answer (.updateClock k row previous)}
    (mem : .answered (.updateClock k row previous) r ∈ past) :
    ∃ order current, c.order? past.readings k = some order ∧
      .answered (.find k.part order.id) (.ok (some current)) ∈ past ∧
      order.step current = .ok row ∧ k.version current = previous := by
  obtain ⟨earlier, hsuffix, -, order, current, horder, hread, hstep, hversion⟩ :=
    h.allows_of_mem mem
  have hsuffix' : earlier <:+ past := (List.suffix_cons _ earlier).trans hsuffix
  rw [← readings_of_suffix h hsuffix' (List.ne_nil_of_mem hread)] at horder
  exact ⟨order, current, horder, hsuffix'.subset hread, hstep, hversion⟩

theorem announced_suffix (h : c.rule.Keeps past) (faithful : past.Faithful) :
    past.announced <:+ past.committed := by
  induction past with
  | nil => exact List.suffix_rfl
  | cons e rest ih =>
    have hfaithful := faithful.of_suffix (List.suffix_cons e rest)
    have hrest := ih h.2 hfaithful
    cases e with
    | answered call r =>
      have hquiet : Past.committed rest = [] := h.1.1
      rw [hquiet] at hrest
      rw [Past.announced_answered, List.suffix_nil.mp hrest]
      exact List.nil_suffix
    | looked now => exact hrest
    | announced change =>
      obtain ⟨later, hlater⟩ := h.1 hfaithful
      rw [Past.announced_announced, Past.committed_announced, hlater]
      exact List.suffix_append later _

end Matchday.Service.Command
