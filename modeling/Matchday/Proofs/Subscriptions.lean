import Matchday.Proofs.ChannelNames
import Matchday.Proofs.Delivery
import Mathlib.Data.List.Basic

set_option autoImplicit false

namespace Matchday

namespace Bus

theorem mem_selection_iff {channels : List Channel} {c : Channel} :
    c ∈ selection channels ↔ channels = [] ∨ c ∈ channels := by
  cases channels with
  | nil => simp [selection, Channel.mem_all]
  | cons d rest => simp [selection]

theorem isSome_entry (b : Bus) (channels : List Channel) (c : Channel) :
    ((b.entry channels).get c.table).isSome = decide (c ∈ selection channels) := by
  rw [entry, PerTable.get_map]
  by_cases h : c ∈ selection channels <;> simp [h]

theorem receivers_subscribe (b : Bus) (channels : List Channel) (c : Channel) :
    (b.subscribe channels).2.receivers c =
      b.receivers c + if c ∈ selection channels then 1 else 0 := by
  simp only [subscribe, receivers, List.countP_cons, isSome_entry, decide_eq_true_eq]

/-- The live subscriptions after some steps with the channels that they named, the newest first. -/
def live : List Step → List (Nat × List Channel)
  | [] => []
  | .subscribe channels :: earlier => (opened earlier, channels) :: live earlier
  | .unsubscribe id :: earlier => (live earlier).filter fun s => s.1 != id
  | _ :: earlier => live earlier

def reading (s : Nat × Subscription) : Nat × (Channel → Bool) :=
  (s.1, fun c => (s.2.get c.table).isSome)

def wanting (s : Nat × List Channel) : Nat × (Channel → Bool) :=
  (s.1, fun c => decide (c ∈ selection s.2))

theorem reading_caughtUp (b : Bus) (k : Nat) (s : Subscription) :
    reading (k, b.caughtUp s) = reading (k, s) := by
  simp only [reading, caughtUp, PerTable.get_map, received]
  congr
  funext c
  cases s.get c.table <;> rfl

theorem map_reading_after (capacity : Nat) (steps : List Step) :
    ((ofCapacity capacity).after steps).subscriptions.map reading = (live steps).map wanting := by
  induction steps with
  | nil => rfl
  | cons s earlier ih =>
    cases s with
    | subscribe channels =>
      have hissued := (follows_after capacity earlier).issued
      have hentry (b : Bus) : reading (b.issued, b.entry channels) = wanting (b.issued, channels) := by
        simp only [reading, wanting, isSome_entry]
      rw [live, List.map_cons, ← ih, ← hissued, ← hentry]
      rfl
    | publish c e =>
      change (Bus.publish _ c e).subscriptions.map reading = _
      rw [Bus.publish]
      split_ifs <;> exact ih
    | drain j =>
      change (Bus.drain _ j).2.subscriptions.map reading = _
      rw [Bus.drain]
      split
      · exact ih
      · refine Eq.trans ?_ ih
        rw [List.map_map]
        refine List.map_congr_left ?_
        rintro ⟨k, s⟩ -
        simp only [Function.comp_apply]
        split_ifs
        · exact reading_caughtUp _ k s
        · rfl
    | unsubscribe j =>
      have hkept : ∀ l : List (Nat × Subscription),
          (l.filter fun s => s.1 != j).map reading = (l.map reading).filter fun s => s.1 != j := by
        intro l
        rw [List.filter_map]
        rfl
      change ((Bus.unsubscribe _ j).subscriptions.map reading) = _
      rw [Bus.unsubscribe, hkept, ih, live, List.filter_map]
      rfl
    | close => exact ih

theorem receivers_after (capacity : Nat) (steps : List Step) (c : Channel) :
    ((ofCapacity capacity).after steps).receivers c =
      (live steps).countP fun s => decide (c ∈ selection s.2) := by
  have hreading (l : List (Nat × Subscription)) :
      (l.countP fun s => (s.2.get c.table).isSome) = (l.map reading).countP fun s => s.2 c := by
    rw [List.countP_map]
    rfl
  rw [receivers, hreading, map_reading_after, List.countP_map]
  rfl

end Bus

open Live

theorem Live.Rejection.response_unknownChannel (e : UnknownChannel) (scope : Option TraceId) :
    ∃ f : Failure, (unknownChannel e).response scope = Api.failureResponse f ∧
      f.code = .invalidRequest ∧ f.details.bind (·.get? "value") = some (.str e.name) := by
  let details : Json :=
    .obj [("code", .str "unknown_channel"), ("field", .str "channels"), ("value", .str e.name)]
  refine ⟨⟨.invalidRequest, e.message, scope.map TraceId.render, some details⟩, ?_, rfl, rfl⟩
  cases scope <;> rfl

/-- A text is read exactly if every piece between its commas is blank or, between its blanks, the name of a
channel, and denotes the channels in the order of their names; else the refusal of the request tells the
first unknown name. Names that are written with any blanks around them and any blank pieces between them
are read as they were written. To subscribe with the channels of a text adds one receiver to each channel
that it names, and to every channel if it names none; on every run of the bus the receivers of a channel
are the live subscriptions that have selected it. -/
theorem selection_subscribes :
    (∀ text, ((∃ channels, channelsOf text = .ok channels) ↔ NamesChannels text) ∧
      (∀ channels, channelsOf text = .ok channels ↔ channels.map Channel.name = namesOf text) ∧
      ∀ e, channelsOf text = .error e ↔
        ∃ (known : List Channel) (rest : List String),
          namesOf text = known.map Channel.name ++ e.name :: rest ∧ ∀ c : Channel, c.name ≠ e.name) ∧
    (∀ (e : UnknownChannel) (scope : Option TraceId), ∃ f : Failure,
      (Rejection.unknownChannel e).response scope = Api.failureResponse f ∧ f.code = .invalidRequest ∧
        f.details.bind (·.get? "value") = some (.str e.name)) ∧
    (∀ pieces : List Piece,
      channelsOf (Piece.join pieces) = .ok (pieces.filterMap Piece.channel)) ∧
    (∀ (b : Bus) (text : String) (channels : List Channel) (c : Channel),
      channelsOf text = .ok channels →
        (b.subscribe channels).2.receivers c =
          b.receivers c + if namesOf text = [] ∨ c.name ∈ namesOf text then 1 else 0) ∧
    ∀ (capacity : Nat) (steps : List Bus.Step) (c : Channel),
      ((Bus.ofCapacity capacity).after steps).receivers c =
        (Bus.live steps).countP fun s => decide (s.2 = [] ∨ c ∈ s.2) := by
  refine ⟨fun text => ⟨exists_channelsOf_iff, fun _ => channelsOf_eq_ok_iff, fun _ => channelsOf_eq_error_iff⟩,
    ?_, ?_, ?_, ?_⟩
  · exact Rejection.response_unknownChannel
  · intro pieces
    rw [channelsOf_eq_ok_iff, Piece.namesOf_join]
  · intro b text channels c hread
    have hnames := channelsOf_eq_ok_iff.mp hread
    rw [Bus.receivers_subscribe, ← hnames]
    simp only [Bus.mem_selection_iff, List.map_eq_nil_iff, List.mem_map_of_injective Channel.name_injective]
  · intro capacity steps c
    simp only [Bus.receivers_after, Bus.mem_selection_iff]

/-- A text with a repeated name and a blank piece adds one receiver on two channels, beside a subscription to
all and one to a single channel that has gone. -/
theorem selection_subscribes_of_repeated_name :
    let steps : List Bus.Step := [.unsubscribe 1, .subscribe [⟨.fixture⟩], .subscribe []]
    let b := (Bus.ofCapacity 4).after steps
    let channels : List Channel := [⟨.scoreboard⟩, ⟨.playclock⟩, ⟨.scoreboard⟩]
    channelsOf " scoreboard_change,\u3000,playclock_change\t,scoreboard_change" = .ok channels ∧
      (b.subscribe channels).2.receivers ⟨.scoreboard⟩ = 2 ∧
      (b.subscribe channels).2.receivers ⟨.fixture⟩ = 1 := by
  intro steps b channels
  have hread : channelsOf " scoreboard_change,\u3000,playclock_change\t,scoreboard_change" =
      .ok channels := by rfl
  obtain ⟨-, -, -, hsubscribe, hlive⟩ := selection_subscribes
  refine ⟨hread, ?_, ?_⟩
  · rw [hsubscribe b _ channels ⟨.scoreboard⟩ hread, hlive 4 steps]
    rfl
  · rw [hsubscribe b _ channels ⟨.fixture⟩ hread, hlive 4 steps]
    rfl

end Matchday
