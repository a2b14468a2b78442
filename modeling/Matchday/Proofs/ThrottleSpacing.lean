import Matchday.Proofs.Outcomes
import Matchday.Proofs.Serving

set_option autoImplicit false

namespace Matchday

open Matchday.Api
open Matchday.Http
open Matchday.Service

namespace ThrottleRecord

theorem retryAfter_eq_none_iff (r : ThrottleRecord) (now : Instant) (interval : Duration) :
    r.retryAfter now interval = none ↔ interval ≤ r.elapsed now := by
  by_cases hpassed : interval ≤ r.elapsed now
  · simp [retryAfter, hpassed]
  · have hremaining : 0 ≤ interval - r.elapsed now :=
      Int.sub_nonneg_of_le (Int.le_of_lt (Int.not_le.mp hpassed))
    have hwhole : 0 ≤ (interval - r.elapsed now).tdiv nanosPerMilli :=
      Int.tdiv_nonneg hremaining (by decide)
    simp only [retryAfter, hpassed, if_false, iff_false]
    rw [if_pos]
    · exact nofun
    · split_ifs <;> omega

theorem retryAfter_eq_none (r : ThrottleRecord) (now : Instant) {interval : Duration}
    (positive : 0 < interval) :
    r.retryAfter now interval = none ↔ interval ≤ now.since r.lastNotifiedAt := by
  have hmax (elapsed interval : Int) (positive : 0 < interval) :
      interval ≤ max elapsed 0 ↔ interval ≤ elapsed := by omega
  rw [retryAfter_eq_none_iff]
  exact hmax (now.since r.lastNotifiedAt) interval positive

end ThrottleRecord

namespace Service

variable {now : Instant} {s : Store} {m : Int}

theorem pendingWait_some (interval : Duration) (record : ThrottleRecord) :
    pendingWait interval now (some record) =
      (record.retryAfter now interval).map fun wait => (record.lastNotifiedAt, wait) := by
  cases hwait : record.retryAfter now interval <;> simp [pendingWait, hwait]

theorem Command.throttle_exec {c : Command} (other : c.throttled? ≠ some m) :
    (c.action.run.exec now s).store.throttle.get? m = s.throttle.get? m := by
  refine Prog.exec_of_within (I := fun s' => s'.throttle.get? m = s.throttle.get? m) ?_
    (within_action c) rfl
  rintro past call s' ⟨-, hjustified⟩ hentry
  cases call with
  | touchThrottle k time =>
    have hne : m ≠ k := fun hk => other (hk ▸ hjustified)
    exact (Table.get?_insert s'.throttle k m _).trans ((if_neg hne).trans hentry)
  | deleteThrottle k =>
    have hne : m ≠ k := fun hk => other (hk ▸ hjustified)
    exact (Table.get?_erase s'.throttle k m).trans ((if_neg hne).trans hentry)
  | _ => exact (congrArg (Table.get? · m) (Store.throttle_answer rfl)).trans hentry

end Service

theorem Api.Route.Performs.throttled {interval : Duration} {route : Route} {c : Command}
    {reply : c.Result → Reply} {m : Int} (h : route.Performs interval c reply)
    (throttled : c.throttled? = some m) :
    ∃ a segment, route = .item a segment ∧ Input.id segment = .ok m ∧
      (a = .touchThrottle ∨ a = .acquireThrottle ∨ a = .clearThrottle) := by
  cases h with
  | create performs => cases performs <;> cases throttled
  | @item a segment id c reply read performs =>
    cases performs with
    | touchThrottle time =>
      cases throttled
      exact ⟨_, segment, rfl, read, .inl rfl⟩
    | acquireThrottle =>
      cases throttled
      exact ⟨_, segment, rfl, read, .inr (.inl rfl)⟩
    | clearThrottle =>
      cases throttled
      exact ⟨_, segment, rfl, read, .inr (.inr rfl)⟩
    | _ => cases throttled

namespace Application

def entry (app : Application Store) (m : Int) : Option ThrottleRecord :=
  app.world.store.throttle.get? m

def acquire (app : Application Store) (m : Int) : ThrottleDecision × Application Store :=
  match pendingWait app.interval app.world.clock (app.entry m) with
  | some (last, wait) => (.suppress last wait, app)
  | none =>
    (.emit ⟨m, app.world.clock⟩,
      { app with
        world.store.throttle := app.world.store.throttle.insert m ⟨m, app.world.clock⟩ })

variable {app : Application Store} {m : Int}

theorem acquire_of_absent (absent : app.entry m = none) :
    (app.acquire m).1 = .emit ⟨m, app.world.clock⟩ := by
  rw [acquire, absent]
  rfl

theorem acquire_of_present (positive : 0 < app.interval) {record : ThrottleRecord}
    (present : app.entry m = some record) :
    if app.interval ≤ app.world.clock.since record.lastNotifiedAt then
      (app.acquire m).1 = .emit ⟨m, app.world.clock⟩
    else ∃ wait, app.acquire m = (.suppress record.lastNotifiedAt wait, app) := by
  have hwait := record.retryAfter_eq_none app.world.clock positive
  rw [acquire, present, pendingWait_some]
  split_ifs with hpassed
  · rw [hwait.mpr hpassed]
    rfl
  · obtain ⟨wait, hsome⟩ := Option.ne_none_iff_exists'.mp fun hnone => hpassed (hwait.mp hnone)
    rw [hsome]
    exact ⟨wait, rfl⟩

theorem acquire_cases (app : Application Store) (m : Int) :
    ((app.acquire m).1 = .emit ⟨m, app.world.clock⟩ ∧
      (app.acquire m).2.entry m = some ⟨m, app.world.clock⟩) ∨
    ∃ last wait, app.acquire m = (.suppress last wait, app) := by
  rw [acquire]
  cases pendingWait app.interval app.world.clock (app.entry m) with
  | some wait => exact .inr ⟨wait.1, wait.2, rfl⟩
  | none => exact .inl ⟨rfl, (Table.get?_insert _ m m _).trans (if_pos rfl)⟩

theorem run_acquireThrottle (memory : app.storage = Store.storage) :
    app.run (acquireThrottle app.interval m).run = (.ok (app.acquire m).1, (app.acquire m).2) := by
  rw [run_eq_exec memory, exec_acquireThrottle, acquire, entry]
  cases pendingWait app.interval app.world.clock (app.world.store.throttle.get? m) <;> rfl

theorem serve_acquire (memory : app.storage = Store.storage) (scope : Option TraceId) {r : Request}
    (asks : target? r = some (.acquireThrottle, m)) :
    app.serve scope r =
      ((Reply.shown (Showing.decision (app.acquire m).1)).response, (app.acquire m).2) := by
  have hrun : app.run (Command.acquireThrottle app.interval m).action.run =
      (.ok (app.acquire m).1, (app.acquire m).2) := run_acquireThrottle memory
  rw [serve_of_target memory asks (c := .acquireThrottle app.interval m) rfl, hrun]

/-- The endpoint that a move is for, and the id in its path; a call to the throttle stands for the
endpoint that makes it. -/
def Move.target? : Move → Option (ItemAction × Int)
  | .call (.touchThrottle m _) => some (.touchThrottle, m)
  | .call (.acquireThrottle _ m) => some (.acquireThrottle, m)
  | .call (.clearThrottle m) => some (.clearThrottle, m)
  | .request _ r | .connect _ _ r => Api.target? r
  | _ => none

def Move.emits (app : Application Store) : Move → Bool
  | .call (.acquireThrottle interval m) =>
    match (app.run (acquireThrottle interval m).run).1 with
    | .ok decision => decision.shouldEmit
    | .error _ => false
  | .request scope r => tellsEmit (app.serve scope r).1
  | .connect name scope r => tellsEmit (app.connect name scope r).1
  | _ => false

inductive Move.Decides (app : Application Store) (decision : ThrottleDecision) : Move → Prop
  | call {interval : Duration} {m : Int}
      (returned : (app.run (acquireThrottle interval m).run).1 = .ok decision) :
    Decides app decision (.call (.acquireThrottle interval m))
  | request {scope : Option TraceId} {r : Request}
      (shown : (app.serve scope r).1 = (Reply.shown (Showing.decision decision)).response) :
    Decides app decision (.request scope r)
  | connect {name : String} {scope : Option TraceId} {r : Request}
      (shown : (app.connect name scope r).1 = (Reply.shown (Showing.decision decision)).response) :
    Decides app decision (.connect name scope r)

theorem Move.Decides.emits {move : Move} {decision : ThrottleDecision}
    (h : move.Decides app decision) : move.emits app = decision.shouldEmit := by
  cases h with
  | call returned => simp only [Move.emits, returned]
  | request shown => rw [Move.emits, shown, tellsEmit_decision]
  | connect shown => rw [Move.emits, shown, tellsEmit_decision]

theorem connect_of_target {name : String} {scope : Option TraceId} {r : Request} {a : ItemAction}
    {id : Int} (asks : Api.target? r = some (a, id)) (writes : a.method ≠ .get) :
    app.connect name scope r = app.serve scope r := by
  obtain ⟨segment, hfound, -⟩ := target?_eq_some.mp asks
  have hmethod : (r.method == .get) = false := by
    rw [Route.method_of_find? hfound]
    simpa using writes
  have hplain : isSubscription r = false := by rw [isSubscription, hmethod, Bool.false_and]
  rw [connect, hplain]

theorem step_acquire (memory : app.storage = Store.storage) {move : Move}
    (asks : move.target? = some (.acquireThrottle, m))
    (configured : ∀ interval, move = .call (.acquireThrottle interval m) → interval = app.interval) :
    move.Decides app (app.acquire m).1 ∧ app.step move = (app.acquire m).2 := by
  cases move with
  | call c =>
    cases c with
    | acquireThrottle interval k =>
      cases asks
      obtain rfl := configured interval rfl
      have hrun := run_acquireThrottle memory (m := m)
      exact ⟨.call (congrArg Prod.fst hrun), congrArg Prod.snd hrun⟩
    | _ => cases asks
  | request scope r =>
    have hserve := serve_acquire memory scope asks
    exact ⟨.request (congrArg Prod.fst hserve), congrArg Prod.snd hserve⟩
  | connect name scope r =>
    have hserve := serve_acquire memory scope asks
    have hconnect : app.connect name scope r = app.serve scope r := connect_of_target asks (by decide)
    rw [← hconnect] at hserve
    exact ⟨.connect (congrArg Prod.fst hserve), congrArg Prod.snd hserve⟩
  | _ => cases asks

theorem entry_serve (memory : app.storage = Store.storage) {scope : Option TraceId} {r : Request}
    (other : ∀ a, Api.target? r = some (a, m) →
      a ≠ .touchThrottle ∧ a ≠ .acquireThrottle ∧ a ≠ .clearThrottle) :
    (app.serve scope r).2.entry m = app.entry m := by
  cases hfound : Route.find? r.method r.segments with
  | none => rw [serve_of_no_route hfound]
  | some route =>
    have hserved := served memory scope hfound
    rw [entry]
    generalize (app.serve scope r).1 = response, (app.serve scope r).2.world.store = store at hserved ⊢
    cases hserved with
    | refused failed => rfl
    | @ran c reply x store performs yields =>
      rw [← yields.2]
      refine Command.throttle_exec fun hthrottled => ?_
      obtain ⟨a, segment, rfl, hread, ha⟩ := performs.throttled hthrottled
      obtain ⟨htouch, hacquire, hclear⟩ := other a (target?_eq_some.mpr ⟨segment, hfound, hread⟩)
      rcases ha with rfl | rfl | rfl
      · exact htouch rfl
      · exact hacquire rfl
      · exact hclear rfl

/-- Whether a move is to set or to clear the entry of a match, other than by asking to notify. -/
def Move.Resets (m : Int) (move : Move) : Prop :=
  move.target? = some (.touchThrottle, m) ∨ move.target? = some (.clearThrottle, m)

theorem entry_step (memory : app.storage = Store.storage) {move : Move}
    (quiet : move.target? ≠ some (.acquireThrottle, m)) (kept : ¬move.Resets m) :
    (app.step move).entry m = app.entry m := by
  have hrequest (r : Request) (htarget : move.target? = Api.target? r) (a : ItemAction)
      (ha : Api.target? r = some (a, m)) :
      a ≠ .touchThrottle ∧ a ≠ .acquireThrottle ∧ a ≠ .clearThrottle := by
    rw [← htarget] at ha
    refine ⟨?_, ?_, ?_⟩
    · rintro rfl
      exact kept (.inl ha)
    · rintro rfl
      exact quiet ha
    · rintro rfl
      exact kept (.inr ha)
  cases move with
  | call c =>
    have hother : c.throttled? ≠ some m := by
      intro hthrottled
      cases c with
      | touchThrottle k time =>
        cases hthrottled
        exact kept (.inl rfl)
      | acquireThrottle interval k =>
        cases hthrottled
        exact quiet rfl
      | clearThrottle k =>
        cases hthrottled
        exact kept (.inr rfl)
      | _ => cases hthrottled
    rw [step, entry, store_run memory]
    exact Command.throttle_exec hother
  | request scope r => exact entry_serve memory (hrequest r rfl)
  | tick now => rfl
  | connect name scope r =>
    simp only [step, connect]
    split
    · rfl
    · exact entry_serve memory (hrequest r rfl)
  | disconnect name => rfl
  | hear name input =>
    simp only [step, hear]
    split <;> rfl
  | relay name =>
    simp only [step, relay]
    split <;> rfl

/-- What the clock showed when callers were told to notify for a match, the latest first. -/
def emissions (app : Application Store) (m : Int) : List Move → List Instant
  | [] => []
  | move :: earlier =>
    if move.target? = some (.acquireThrottle, m) ∧ move.emits (app.after earlier) = true then
      (app.after earlier).world.clock :: emissions app m earlier
    else emissions app m earlier

/-- The entry of a match is changed by nothing but asking to notify, at the interval of the
application. -/
structure OnlyAcquired (app : Application Store) (m : Int) (moves : List Move) : Prop where
  configured : ∀ interval, .call (.acquireThrottle interval m) ∈ moves → interval = app.interval
  kept : ∀ move earlier, move :: earlier <:+ moves → move.Resets m →
    (app.after (move :: earlier)).entry m = (app.after earlier).entry m

theorem OnlyAcquired.of_suffix {moves earlier : List Move} (h : app.OnlyAcquired m moves)
    (suffix : earlier <:+ moves) : app.OnlyAcquired m earlier :=
  ⟨fun interval mem => h.configured interval (suffix.subset mem),
    fun move rest hrest => h.kept move rest (hrest.trans suffix)⟩

variable {move : Move} {earlier : List Move}

theorem emissions_cons_acquire (memory : app.storage = Store.storage)
    (only : app.OnlyAcquired m (move :: earlier))
    (asks : move.target? = some (.acquireThrottle, m)) :
    move.Decides (app.after earlier) ((app.after earlier).acquire m).1 ∧
      (app.after earlier).step move = ((app.after earlier).acquire m).2 ∧
      app.emissions m (move :: earlier) =
        if ((app.after earlier).acquire m).1.shouldEmit then
          (app.after earlier).world.clock :: app.emissions m earlier
        else app.emissions m earlier := by
  have hconfigured (interval : Duration) (hmove : move = .call (.acquireThrottle interval m)) :
      interval = (app.after earlier).interval :=
    (only.configured interval (hmove ▸ List.mem_cons_self)).trans (interval_after earlier).symm
  obtain ⟨hdecides, hstep⟩ := step_acquire ((storage_after earlier).trans memory) asks hconfigured
  refine ⟨hdecides, hstep, ?_⟩
  simp only [emissions, asks, hdecides.emits, true_and]

theorem emissions_cons_of_ne (other : move.target? ≠ some (.acquireThrottle, m)) :
    app.emissions m (move :: earlier) = app.emissions m earlier := by
  simp only [emissions, other, false_and, if_false]

theorem entry_after (memory : app.storage = Store.storage) (absent : app.entry m = none)
    {moves : List Move} (only : app.OnlyAcquired m moves) :
    (app.after moves).entry m = (app.emissions m moves).head?.map fun time => ⟨m, time⟩ := by
  induction moves with
  | nil => exact absent
  | cons move earlier ih =>
    have hentry := ih (only.of_suffix (List.suffix_cons move earlier))
    have hmemory := (storage_after earlier).trans memory
    by_cases hasks : move.target? = some (.acquireThrottle, m)
    · obtain ⟨-, hstep, hemissions⟩ := emissions_cons_acquire memory only hasks
      rw [after, hstep, hemissions]
      rcases (app.after earlier).acquire_cases m with ⟨hemit, hrecorded⟩ | ⟨last, wait, hwait⟩
      · rw [hrecorded, hemit]
        rfl
      · rw [hwait]
        exact hentry
    · rw [emissions_cons_of_ne hasks, ← hentry]
      by_cases hresets : move.Resets m
      · exact only.kept move earlier List.suffix_rfl hresets
      · exact entry_step hmemory hasks hresets

theorem acquire_after (memory : app.storage = Store.storage) (positive : 0 < app.interval)
    (absent : app.entry m = none) (only : app.OnlyAcquired m earlier) :
    let before := app.after earlier
    let emitted := (before.acquire m).1 = .emit ⟨m, before.world.clock⟩
    (app.emissions m earlier = [] → emitted) ∧
    ∀ last, (app.emissions m earlier).head? = some last →
      if app.interval ≤ before.world.clock.since last then emitted
      else ∃ wait, before.acquire m = (.suppress last wait, before) := by
  intro before emitted
  have hentry := entry_after memory absent only
  refine ⟨?_, ?_⟩
  · intro hnone
    exact acquire_of_absent (hentry.trans (by rw [hnone]; rfl))
  · intro last hlast
    have hinterval : before.interval = app.interval := interval_after earlier
    have hpresent : before.entry m = some ⟨m, last⟩ := hentry.trans (by rw [hlast]; rfl)
    have hdecision := acquire_of_present (hinterval.symm ▸ positive) hpresent
    rw [hinterval] at hdecision
    exact hdecision

theorem isChain_emissions (memory : app.storage = Store.storage) (positive : 0 < app.interval)
    (absent : app.entry m = none) {moves : List Move} (only : app.OnlyAcquired m moves) :
    (app.emissions m moves).IsChain fun later earlier => app.interval ≤ later.since earlier := by
  induction moves with
  | nil => exact .nil
  | cons move earlier ih =>
    have hearlier := only.of_suffix (List.suffix_cons move earlier)
    have hchain := ih hearlier
    by_cases hasks : move.target? = some (.acquireThrottle, m)
    · obtain ⟨-, -, hemissions⟩ := emissions_cons_acquire memory only hasks
      obtain ⟨-, hlater⟩ := acquire_after memory positive absent hearlier
      rw [hemissions]
      split_ifs with hemits
      · cases hlist : app.emissions m earlier with
        | nil => exact .singleton _
        | cons last rest =>
          rw [hlist] at hchain hlater
          have hdecision := hlater last rfl
          refine List.isChain_cons_cons.mpr ⟨?_, hchain⟩
          by_contra hpending
          rw [if_neg hpending] at hdecision
          obtain ⟨wait, hwait⟩ := hdecision
          rw [hwait] at hemits
          cases hemits
      · exact hchain
    · rw [emissions_cons_of_ne hasks]
      exact hchain

/-- A caller who asks to notify for a match may do so the first time, and later exactly when the interval
has passed since the latest notification; any other is told of the latest notification and changes
nothing. So notifications are at least an interval apart. -/
theorem notifications_spaced (app : Application Store) (memory : app.storage = Store.storage)
    (positive : 0 < app.interval) (m : Int) (absent : app.entry m = none) (moves : List Move)
    (only : app.OnlyAcquired m moves) :
    (∀ move earlier, move :: earlier <:+ moves → move.target? = some (.acquireThrottle, m) →
      let before := app.after earlier
      let now := before.world.clock
      (app.emissions m earlier = [] →
        move.Decides before (.emit ⟨m, now⟩) ∧ (before.step move).entry m = some ⟨m, now⟩) ∧
      ∀ last, (app.emissions m earlier).head? = some last →
        (app.interval ≤ now.since last →
          move.Decides before (.emit ⟨m, now⟩) ∧ (before.step move).entry m = some ⟨m, now⟩) ∧
        (now.since last < app.interval →
          (∃ wait, move.Decides before (.suppress last wait)) ∧ before.step move = before)) ∧
    (app.emissions m moves).IsChain fun later earlier => app.interval ≤ later.since earlier := by
  refine ⟨?_, isChain_emissions memory positive absent only⟩
  intro move earlier hsuffix hasks before now
  have hearlier := only.of_suffix ((List.suffix_cons move earlier).trans hsuffix)
  obtain ⟨hdecides, hstep, -⟩ := emissions_cons_acquire memory (only.of_suffix hsuffix) hasks
  obtain ⟨hfirst, hlater⟩ := acquire_after memory positive absent hearlier
  have hemitted (hemit : (before.acquire m).1 = .emit ⟨m, now⟩) :
      move.Decides before (.emit ⟨m, now⟩) ∧ (before.step move).entry m = some ⟨m, now⟩ := by
    rw [hstep]
    refine ⟨hemit ▸ hdecides, ?_⟩
    rcases before.acquire_cases m with ⟨-, hrecorded⟩ | ⟨last, wait, hwait⟩
    · exact hrecorded
    · rw [hwait] at hemit
      cases hemit
  refine ⟨fun hnone => hemitted (hfirst hnone), ?_⟩
  intro last hlast
  have hdecision := hlater last hlast
  refine ⟨?_, ?_⟩
  · intro hpassed
    rw [if_pos hpassed] at hdecision
    exact hemitted hdecision
  · intro hpending
    rw [if_neg (Int.not_le.mpr hpending)] at hdecision
    obtain ⟨wait, hwait⟩ := hdecision
    rw [hwait] at hdecides hstep
    exact ⟨⟨wait, hdecides⟩, hstep⟩

/-- A caller who asks when the clock has gone back has to wait, and another one may notify once the
interval has passed. -/
theorem notifications_spaced_of_clock_set_back :
    let app := start Store.storage .empty ⟨1000, 0⟩ 1000000000 256
    let ask : Move := .call (.acquireThrottle 1000000000 7)
    let earlier : List Move := [.tick ⟨990, 0⟩, .call (.touchThrottle 8 none), ask]
    let moves := ask :: .tick ⟨1001, 0⟩ :: ask :: earlier
    app.storage = Store.storage ∧ 0 < app.interval ∧ app.entry 7 = none ∧ app.OnlyAcquired 7 moves ∧
      (∃ wait, ask.Decides (app.after earlier) (.suppress ⟨1000, 0⟩ wait)) ∧
      app.emissions 7 moves = [⟨1001, 0⟩, ⟨1000, 0⟩] ∧
      (app.emissions 7 moves).IsChain fun later earlier => app.interval ≤ later.since earlier := by
  intro app ask earlier moves
  have honly : app.OnlyAcquired 7 moves := by
    have hmoves (move : Move) (hmem : move ∈ moves) :
        move = ask ∨ move = .tick ⟨1001, 0⟩ ∨ move = .tick ⟨990, 0⟩ ∨
          move = .call (.touchThrottle 8 none) := by
      simp only [moves, earlier, List.mem_cons, List.not_mem_nil, or_false] at hmem
      tauto
    refine ⟨?_, ?_⟩
    · intro interval hmem
      rcases hmoves _ hmem with h | h | h | h
      · exact (Command.acquireThrottle.inj (Move.call.inj h)).1
      · cases h
      · cases h
      · cases h
    · intro move rest hsuffix hresets
      rcases hmoves _ (hsuffix.subset List.mem_cons_self) with rfl | rfl | rfl | rfl <;>
        rcases hresets with h | h <;> cases h
  obtain ⟨hdecided, hchain⟩ := notifications_spaced app rfl (by decide) 7 rfl moves honly
  have hsuffix : ask :: earlier <:+ moves := ⟨[ask, .tick ⟨1001, 0⟩], rfl⟩
  obtain ⟨-, hlater⟩ := hdecided ask earlier hsuffix rfl
  obtain ⟨hsuppressed, -⟩ := (hlater ⟨1000, 0⟩ rfl).2 (by decide)
  have hemissions : app.emissions 7 moves = [⟨1001, 0⟩, ⟨1000, 0⟩] := by decide +kernel
  exact ⟨rfl, by decide, rfl, honly, hsuppressed, hemissions, hchain⟩

end Application

end Matchday
