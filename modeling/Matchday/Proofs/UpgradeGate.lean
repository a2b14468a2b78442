import Matchday.Proofs.ChannelNames
import Matchday.Proofs.Refusals
import Matchday.Proofs.Serving
import Mathlib.Order.WellFounded

set_option autoImplicit false

namespace Matchday.Live

open Matchday.Text
open Matchday.Http

namespace Origin

def leagueLabels : List (List Char) := ["league".toList, "example".toList]

/-- Whether the labels of a name end in those of the league with nothing or a text before them. -/
def InLeague (name : String) : Prop :=
  ∃ front, name.toList.splitOn '.' = front ++ leagueLabels ∧ (front = [] ∨ ['.'].intercalate front ≠ [])

/-- Whether an origin is a host of the league over a secure connection, or a port of the local machine
that is not zero. -/
def Listed (o : Origin) : Prop :=
  (o.scheme = "https" ∧ ∃ name, o.host = some (.name name) ∧ InLeague name) ∨
    (o.scheme = "http" ∧ o.host = some (.name "localhost") ∧ ∃ port, o.port = some port ∧ port ≠ 0)

theorem intercalate_append (stop : Char) {front back : List (List Char)} (hfront : front ≠ [])
    (hback : back ≠ []) :
    [stop].intercalate (front ++ back) = [stop].intercalate front ++ stop :: [stop].intercalate back := by
  induction front with
  | nil => exact absurd rfl hfront
  | cons label rest ih =>
    by_cases hrest : rest = []
    · rw [hrest, List.cons_append, List.nil_append, List.intercalate_cons_of_ne_nil hback]
      simp
    · rw [List.cons_append, List.intercalate_cons_of_ne_nil (by simp [hrest]),
        List.intercalate_cons_of_ne_nil hrest, ih hrest]
      simp

theorem inLeague_iff (name : String) :
    InLeague name ↔ name = leagueHost ∨
      name.endsWith ("." ++ leagueHost) = true ∧ leagueHost.length + 1 < name.length := by
  have hjoined : ['.'].intercalate leagueLabels = leagueHost.toList := by decide
  have hsplit : leagueHost.toList.splitOn '.' = leagueLabels := by decide
  have hends : name.endsWith ("." ++ leagueHost) = true ↔ '.' :: leagueHost.toList <:+ name.toList := by
    rw [← String.endsWith_toSlice, String.Slice.endsWith_string_iff, String.toList_append,
      String.copy_toSlice]
    rfl
  rw [hends, ← String.length_toList, ← String.length_toList]
  constructor
  · rintro ⟨front, hlabels, hfront⟩
    have hname : name.toList = ['.'].intercalate (front ++ leagueLabels) := by
      rw [← hlabels, List.intercalate_splitOn]
    by_cases hnone : front = []
    · left
      rw [hnone, List.nil_append, hjoined] at hname
      exact String.toList_inj.mp hname
    · right
      rw [intercalate_append '.' hnone (by decide), hjoined] at hname
      have hpositive := List.length_pos_iff.mpr (hfront.resolve_left hnone)
      rw [hname]
      exact ⟨List.suffix_append _ _, by simp only [List.length_append, List.length_cons]; omega⟩
  · rintro (rfl | ⟨⟨front, hname⟩, hlength⟩)
    · exact ⟨[], hsplit, .inl rfl⟩
    · refine ⟨front.splitOn '.', ?_, .inr ?_⟩
      · rw [← hname, List.splitOn_append_cons_self, hsplit]
      · rw [List.intercalate_splitOn]
        rintro rfl
        rw [← hname] at hlength
        simp at hlength

theorem isAllowed_iff (o : Origin) : o.isAllowed = true ↔ o.Listed := by
  obtain ⟨scheme, host, port⟩ := o
  rcases host with _ | (name | written)
  · simp [isAllowed, Listed]
  · by_cases hscheme : scheme = "https"
    · simp [isAllowed, Listed, hscheme, inLeague_iff]
    · cases port <;> simp [isAllowed, Listed, hscheme, and_assoc]
  · simp [isAllowed, Listed]

theorem scheme_of_authority? {k : SchemeKind} {scheme : String} {cs : List Char} {o : Origin}
    (h : authority? k scheme cs = some o) : o.scheme = scheme := by
  simp only [authority?, Option.bind_eq_bind, Option.bind_eq_some_iff] at h
  obtain ⟨port, -, h⟩ := h
  split at h
  · obtain ⟨host, -, h⟩ := Option.bind_eq_some_iff.mp h
    cases h
    rfl
  · split_ifs at h <;> first | (cases h; rfl) | skip
    obtain ⟨host, -, h⟩ := Option.bind_eq_some_iff.mp h
    cases h
    rfl

theorem scheme_of_file? {scheme : String} {cs : List Char} {o : Origin} (h : file? scheme cs = some o) :
    o.scheme = scheme := by
  unfold file? at h
  split at h
  · split at h
    · dsimp only at h
      split at h
      · cases h
        rfl
      · obtain ⟨host, -, rfl⟩ := Option.map_eq_some_iff.mp h
        rfl
    · cases h
      rfl
  · cases h
    rfl

theorem port_of_authority? {own : Nat} {scheme : String} {cs : List Char} {o : Origin}
    (h : authority? (.network own) scheme cs = some o) : o.port ≠ some own := by
  simp only [authority?, Option.bind_eq_bind, Option.bind_eq_some_iff] at h
  obtain ⟨port, -, host, -, h⟩ := h
  cases h
  simp [Option.filter_eq_some_iff]

theorem port_of_parse? {text : String} {o : Origin} (h : parse? text = some o) {own : Nat}
    (hown : schemeKind o.scheme = .network own) : o.port ≠ some own := by
  simp only [parse?, Option.bind_eq_bind, Option.bind_eq_some_iff] at h
  obtain ⟨⟨scheme, rest⟩, -, h⟩ := h
  have hscheme : o.scheme = scheme := by
    split at h
    · exact scheme_of_authority? h
    · exact scheme_of_file? h
    · split at h
      · exact scheme_of_authority? h
      · cases h
        rfl
  rw [hscheme] at hown
  simp only [hown] at h
  exact port_of_authority? h

end Origin

def selections (query : String) : List String :=
  ((Percent.formPairs query).filter fun p => p.1 == "channels").map Prod.snd

def Tells (value : List UInt8) (o : Origin) : Prop :=
  ∃ text, Request.readable? value = some text ∧ Origin.parse? text = some o

inductive Check
  | query
  | origin
  | single
  | readable
  | listed
  | channels
  deriving DecidableEq, Repr

namespace Check

def place : Check → Nat
  | query => 0
  | origin => 1
  | single => 2
  | readable => 3
  | listed => 4
  | channels => 5

def Passes (r : Request) : Check → Prop
  | query => (selections r.query).length ≤ 1
  | origin => r.headerValues "origin" ≠ []
  | single => (r.headerValues "origin").length ≤ 1
  | readable => ∀ value ∈ r.headerValues "origin", ∃ o, Tells value o
  | listed => ∀ value ∈ r.headerValues "origin", ∀ o, Tells value o → o.Listed
  | channels => ∀ text ∈ selections r.query, NamesChannels text

def status : Check → Nat
  | query => 400
  | origin => 403
  | single => 400
  | readable => 400
  | listed => 403
  | channels => 400

def FailsFirst (r : Request) (c : Check) : Prop :=
  ¬ c.Passes r ∧ ∀ d : Check, d.place < c.place → d.Passes r

theorem exists_failsFirst {r : Request} (h : ∃ c : Check, ¬ c.Passes r) : ∃ c : Check, c.FailsFirst r := by
  obtain ⟨c, hc, hleast⟩ := (measure place).wf.has_min {c | ¬ c.Passes r} h
  exact ⟨c, hc, fun d hd => by_contra fun hfails => hleast d hfails hd⟩

end Check

theorem selection?_eq (query : String) :
    selection? query =
      if (selections query).length ≤ 1 then .ok (selections query).head? else .error .ambiguousQuery := by
  rw [selection?, selections]
  generalize (Percent.formPairs query).filter (fun p => p.1 == "channels") = pairs
  rcases pairs with _ | ⟨p, _ | ⟨q, rest⟩⟩ <;> simp

theorem tells_iff {value : List UInt8} {o : Origin} :
    Tells value o ↔ (Request.readable? value).bind Origin.parse? = some o := by
  rw [Tells, Option.bind_eq_some_iff]

section Admission

variable {r : Request}

theorem admission_eq (hquery : Check.query.Passes r) :
    admission r = (do
      checkOrigin r
      let channels ← (channelsOf ((selections r.query).head?.getD "")).mapError .unknownChannel
      (Handshake.check r).mapError .handshake
      pure channels) := by
  have hselection : selection? r.query = .ok (selections r.query).head? :=
    (selection?_eq r.query).trans (if_pos hquery)
  rw [admission, hselection]
  rfl

theorem exists_value (horigin : Check.origin.Passes r) (hsingle : Check.single.Passes r) :
    ∃ value, r.headerValues "origin" = [value] := by
  simp only [Check.Passes] at horigin hsingle
  exact List.length_eq_one_iff.mp (Nat.le_antisymm hsingle (List.length_pos_iff.mpr horigin))

theorem checkOrigin_of_tells {value : List UInt8} {o : Origin} (hvalue : r.headerValues "origin" = [value])
    (htells : Tells value o) (hlisted : o.Listed) : checkOrigin r = .ok () := by
  simp only [checkOrigin, hvalue, tells_iff.mp htells, o.isAllowed_iff.mpr hlisted, if_true]

theorem namesChannels_selection (hquery : Check.query.Passes r) :
    Check.channels.Passes r ↔ NamesChannels ((selections r.query).head?.getD "") := by
  simp only [Check.Passes] at hquery ⊢
  have hempty : NamesChannels "" := fun piece hpiece => by
    rw [List.mem_singleton.mp hpiece]
    exact .inl rfl
  generalize selections r.query = texts at hquery ⊢
  rcases texts with _ | ⟨text, _ | ⟨second, rest⟩⟩
  · simpa using hempty
  · simp
  · simp at hquery

theorem Rejection.status_unknownChannel (e : UnknownChannel) (scope : Option TraceId) :
    ((unknownChannel e).response scope).status = 400 := Api.status_traced scope rfl

theorem admission_of_failsFirst {c : Check} (h : c.FailsFirst r) :
    ∃ e : Rejection, admission r = .error e ∧ ∀ scope, (e.response scope).status = c.status := by
  obtain ⟨hfails, hearlier⟩ := h
  cases c with
  | query =>
    refine ⟨.ambiguousQuery, ?_, fun _ => rfl⟩
    have hselection : selection? r.query = .error .ambiguousQuery :=
      (selection?_eq r.query).trans (if_neg hfails)
    rw [admission, hselection]
    rfl
  | origin =>
    refine ⟨.missingOrigin, ?_, fun _ => rfl⟩
    rw [admission_eq (hearlier .query (by decide)), checkOrigin, not_not.mp hfails]
    rfl
  | single =>
    refine ⟨.severalOrigins, ?_, fun _ => rfl⟩
    rw [admission_eq (hearlier .query (by decide)), checkOrigin]
    simp only [Check.Passes] at hfails
    generalize r.headerValues "origin" = values at hfails
    rcases values with _ | ⟨value, _ | ⟨second, rest⟩⟩
    · simp at hfails
    · simp at hfails
    · rfl
  | readable =>
    refine ⟨.unreadableOrigin, ?_, fun _ => rfl⟩
    obtain ⟨value, hvalue⟩ := exists_value (hearlier .origin (by decide)) (hearlier .single (by decide))
    simp only [Check.Passes, hvalue, List.mem_singleton, forall_eq, tells_iff, not_exists] at hfails
    rw [admission_eq (hearlier .query (by decide)), checkOrigin, hvalue]
    simp only [Option.eq_none_iff_forall_ne_some.mpr hfails]
    rfl
  | listed =>
    refine ⟨.foreignOrigin, ?_, fun _ => rfl⟩
    obtain ⟨value, hvalue⟩ := exists_value (hearlier .origin (by decide)) (hearlier .single (by decide))
    simp only [Check.Passes, hvalue, List.mem_singleton, forall_eq, not_forall] at hfails
    obtain ⟨o, htells, hforeign⟩ := hfails
    rw [← o.isAllowed_iff, Bool.not_eq_true] at hforeign
    rw [admission_eq (hearlier .query (by decide)), checkOrigin, hvalue]
    simp only [tells_iff.mp htells, hforeign]
    rfl
  | channels =>
    have hquery := hearlier .query (by decide)
    obtain ⟨value, hvalue⟩ := exists_value (hearlier .origin (by decide)) (hearlier .single (by decide))
    have hmem : value ∈ r.headerValues "origin" := hvalue ▸ List.mem_singleton_self value
    obtain ⟨o, htells⟩ := hearlier .readable (by decide) value hmem
    have hlisted := hearlier .listed (by decide) value hmem o htells
    rw [namesChannels_selection hquery, ← exists_channelsOf_iff] at hfails
    cases hread : channelsOf ((selections r.query).head?.getD "") with
    | ok channels => exact absurd ⟨channels, hread⟩ hfails
    | error e =>
      refine ⟨.unknownChannel e, ?_, Rejection.status_unknownChannel e⟩
      rw [admission_eq hquery, checkOrigin_of_tells hvalue htells hlisted, hread]
      rfl

theorem forall_passes_iff :
    (∀ c : Check, c.Passes r) ↔ (selections r.query).length ≤ 1 ∧
      ∃ value text o, r.headerValues "origin" = [value] ∧ Request.readable? value = some text ∧
        Origin.parse? text = some o ∧ o.Listed ∧ ∀ text ∈ selections r.query, NamesChannels text := by
  constructor
  · intro h
    obtain ⟨value, hvalue⟩ := exists_value (h .origin) (h .single)
    have hmem : value ∈ r.headerValues "origin" := hvalue ▸ List.mem_singleton_self value
    obtain ⟨o, text, hread, hparse⟩ := h .readable value hmem
    exact ⟨h .query, value, text, o, hvalue, hread, hparse, h .listed value hmem o ⟨text, hread, hparse⟩,
      h .channels⟩
  · rintro ⟨hquery, value, text, o, hvalue, hread, hparse, hlisted, hchannels⟩ c
    cases c with
    | query => exact hquery
    | origin => simp [Check.Passes, hvalue]
    | single => simp [Check.Passes, hvalue]
    | readable =>
      simp only [Check.Passes, hvalue, List.mem_singleton, forall_eq]
      exact ⟨o, text, hread, hparse⟩
    | listed =>
      simp only [Check.Passes, hvalue, List.mem_singleton, forall_eq]
      rintro o' ⟨text', hread', hparse'⟩
      obtain rfl : text = text' := Option.some.inj (hread.symm.trans hread')
      obtain rfl : o = o' := Option.some.inj (hparse.symm.trans hparse')
      exact hlisted
    | channels => exact hchannels

theorem admission_of_passes (hhandshake : Handshake.check r = .ok ()) (h : ∀ c : Check, c.Passes r) :
    ∃ channels, admission r = .ok channels := by
  obtain ⟨hquery, value, text, o, hvalue, hread, hparse, hlisted, -⟩ := forall_passes_iff.mp h
  obtain ⟨channels, hchannels⟩ := exists_channelsOf_iff.mpr ((namesChannels_selection hquery).mp (h .channels))
  refine ⟨channels, ?_⟩
  rw [admission_eq hquery, checkOrigin_of_tells hvalue ⟨text, hread, hparse⟩ hlisted, hchannels, hhandshake]
  rfl

end Admission

end Matchday.Live

namespace Matchday.Application

open Matchday.Http
open Matchday.Live

variable {σ : Type} (app : Application σ) (name : String) (scope : Option TraceId) {r : Request}

theorem serve_subscription (hfeed : isSubscription r = true) :
    app.serve scope r = (subscriptionResponse scope r, app) := by
  have hroute : Api.Route.find? r.method r.segments = none := by
    rw [isSubscription, Bool.and_eq_true, beq_iff_eq, beq_iff_eq] at hfeed
    rw [hfeed.1, hfeed.2]
    rfl
  simp only [serve, hroute, hfeed, if_true]

theorem connect_of_rejected {e : Rejection} (hfeed : isSubscription r = true)
    (h : admission r = .error e) : app.connect name scope r = (e.response scope, app) := by
  rw [connect, hfeed, h]
  dsimp only
  rw [serve_subscription app scope hfeed, subscriptionResponse, h]

theorem connect_of_admitted {channels : List Channel} (hfeed : isSubscription r = true)
    (h : admission r = .ok channels) : (app.connect name scope r).1.status = 101 := by
  rw [connect, hfeed, h]
  dsimp only
  rw [subscriptionResponse, h]
  rfl

theorem connect_of_failsFirst {c : Check} (hfeed : isSubscription r = true) (h : c.FailsFirst r) :
    (app.connect name scope r).1.status = c.status ∧ (app.connect name scope r).2 = app := by
  obtain ⟨e, hrejected, hstatus⟩ := admission_of_failsFirst h
  rw [connect_of_rejected app name scope hfeed hrejected]
  exact ⟨hstatus scope, rfl⟩

/-- Of the requests for the change feed that are otherwise handshakes exactly those become sockets that
select channels at most once and by known names, and that come from one origin, which is written as a URL and
listed; the port of a URL is never the one that its scheme has anyway. Of the others the first check that
fails decides the status, and they change nothing, so that no channel has another receiver. -/
theorem upgrades_iff_all_checks_pass (hfeed : isSubscription r = true)
    (hhandshake : Handshake.check r = .ok ()) :
    ((app.connect name scope r).1.status = 101 ↔ (selections r.query).length ≤ 1 ∧
      ∃ value text o, r.headerValues "origin" = [value] ∧ Request.readable? value = some text ∧
        Origin.parse? text = some o ∧ o.Listed ∧ ∀ text ∈ selections r.query, NamesChannels text) ∧
    (∀ text o own, Origin.parse? text = some o → Origin.schemeKind o.scheme = .network own →
      o.port ≠ some own) ∧
    ((app.connect name scope r).1.status ≠ 101 → ∃ c : Check, c.FailsFirst r) ∧
    ∀ c : Check, c.FailsFirst r → (app.connect name scope r).1.status = c.status ∧
      (app.connect name scope r).2 = app ∧
      ∀ channel, (app.connect name scope r).2.world.bus.receivers channel = app.world.bus.receivers channel := by
  have hpasses (h : ∀ c : Check, c.Passes r) : (app.connect name scope r).1.status = 101 := by
    obtain ⟨channels, hadmitted⟩ := admission_of_passes hhandshake h
    exact connect_of_admitted app name scope hfeed hadmitted
  refine ⟨?_, fun text o own hparse hown => Origin.port_of_parse? hparse hown, ?_, ?_⟩
  · rw [← forall_passes_iff]
    refine ⟨fun hupgraded => ?_, hpasses⟩
    by_contra hsome
    obtain ⟨c, hfirst⟩ := Check.exists_failsFirst (not_forall.mp hsome)
    rw [(connect_of_failsFirst app name scope hfeed hfirst).1] at hupgraded
    cases c <;> cases hupgraded
  · intro hrefused
    exact Check.exists_failsFirst (not_forall.mp fun h => hrefused (hpasses h))
  · intro c hfirst
    obtain ⟨hstatus, hsame⟩ := connect_of_failsFirst app name scope hfeed hfirst
    exact ⟨hstatus, hsame, fun channel => by rw [hsame]⟩

/-- A part of the league's site is upgraded with its scheme's port and in capitals; a host whose name only
ends in the same text is not, and is told so before the channel that does not exist. -/
theorem upgrades_iff_all_checks_pass_of_look_alike :
    let app := start Store.storage .empty .epoch 0 4
    let request (origin channels : String) : Request :=
      ⟨.get, "/ws/changes?channels=" ++ channels,
        [("Upgrade", Text.Utf8.encode "websocket"), ("Connection", Text.Utf8.encode "Upgrade"),
          ("Sec-WebSocket-Version", Text.Utf8.encode "13"),
          ("Sec-WebSocket-Key", Text.Utf8.encode "dGhlIHNhbXBsZSBub25jZQ=="),
          ("Origin", Text.Utf8.encode origin)], []⟩
    let member := request "HTTPS://Scores.LEAGUE.example:443" "scoreboard_change,,+match_change"
    let lookAlike := request "https://scores-league.example" "score_change"
    (app.connect "tab" none member).1.status = 101 ∧
      (app.connect "tab" none lookAlike).1.status = 403 ∧ (app.connect "tab" none lookAlike).2 = app := by
  intro app request member lookAlike
  have hselections : selections member.query = ["scoreboard_change,, match_change"] := by decide +kernel
  have hnames : NamesChannels "scoreboard_change,, match_change" :=
    exists_channelsOf_iff.mp ⟨[⟨.scoreboard⟩, ⟨.fixture⟩], by rfl⟩
  have hlisted : Origin.Listed ⟨"https", some (.name "scores.league.example"), none⟩ :=
    .inl ⟨rfl, _, rfl, ["scores".toList], by decide, .inr (by decide)⟩
  obtain ⟨hupgraded, -⟩ := upgrades_iff_all_checks_pass app "tab" none (r := member) (by decide +kernel)
    (by decide +kernel)
  obtain ⟨-, -, -, hfirst⟩ := upgrades_iff_all_checks_pass app "tab" none (r := lookAlike) (by decide +kernel)
    (by decide +kernel)
  have hvalue : lookAlike.headerValues "origin" = [Text.Utf8.encode "https://scores-league.example"] := by
    decide +kernel
  have htells : Tells (Text.Utf8.encode "https://scores-league.example")
      ⟨"https", some (.name "scores-league.example"), none⟩ :=
    ⟨"https://scores-league.example", by decide +kernel, by decide +kernel⟩
  have hforeign : ¬ Origin.Listed ⟨"https", some (.name "scores-league.example"), none⟩ := by
    rintro (⟨-, _, hhost, front, hlabels, -⟩ | ⟨hscheme, -⟩)
    · cases hhost
      have hsuffix : Origin.leagueLabels <:+ "scores-league.example".toList.splitOn '.' := ⟨front, hlabels.symm⟩
      exact absurd hsuffix (by decide)
    · exact absurd hscheme (by decide)
  have hfails : Check.listed.FailsFirst lookAlike := by
    refine ⟨fun h => hforeign (h _ (by rw [hvalue]; exact List.mem_singleton_self _) _ htells), ?_⟩
    intro d hd
    cases d with
    | query => exact (by decide +kernel : (selections lookAlike.query).length ≤ 1)
    | origin => simp [Check.Passes, hvalue]
    | single => simp [Check.Passes, hvalue]
    | readable =>
      simp only [Check.Passes, hvalue, List.mem_singleton, forall_eq]
      exact ⟨_, htells⟩
    | listed => exact absurd hd (by decide)
    | channels => exact absurd hd (by decide)
  obtain ⟨hstatus, hsame, -⟩ := hfirst .listed hfails
  refine ⟨hupgraded.mpr ⟨by decide +kernel, Text.Utf8.encode "HTTPS://Scores.LEAGUE.example:443",
    "HTTPS://Scores.LEAGUE.example:443", _, by decide +kernel, by decide +kernel, by decide +kernel, hlisted, ?_⟩,
    hstatus, hsame⟩
  rw [hselections]
  simpa using hnames

end Matchday.Application
