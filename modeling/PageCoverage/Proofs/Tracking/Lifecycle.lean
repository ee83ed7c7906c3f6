import PageCoverage.Proofs.Tracking.Reachable

namespace PageCoverage

/-- Nothing is going on, and nothing is held or taken. -/
structure Tracker.AtRest {K κ : Type} (t : Tracker K κ) : Prop where
  idle : t.phase = .idle
  empty : t.cache.records = []
  closed : t.cache.accepting = false

namespace Scene

variable {σ K κ : Type} [Session σ κ] [Strategy K]

/-- One step around a start or a stop that has not ended. It waits for answers or, once all of them are
there, for the cache. Nothing new is let into its sink. -/
inductive Awaits (k : SinkId) : Scene σ K κ → Scene σ K κ → Prop where
  | poll {s : Scene σ K κ} : (∀ e, .done (.error e) ∉ s.fates) → Awaits k s s.polled
  | fetch (s : Scene σ K κ) (i : Nat) : Awaits k s (s.fetchAt i)
  | elsewhere (s : Scene σ K κ) (t : σ) :
    Session.Elsewhere (some k) s.session t → Awaits k s { s with session := t }

/-- How a start may go on from where it waits. -/
structure Starts (options : K) (k : SinkId) (t : Scene σ K κ) : Prop where
  commands : List.Forall₂ (Request.Of σ) (Strategy.enableCommands options) t.fates
  started : ∀ o, t.advance.1 = some o → ∃ r, o = .started r
  succeeds_iff : t.advance.1 = some (.started (.ok ())) ↔ ∀ r ∈ t.fates, r.Succeeded
  enabled_iff : t.advance.2.tracker.isEnabled = true ↔ ∀ r ∈ t.fates, r.Succeeded
  enabled : t.advance.2.tracker.isEnabled = true →
    t.advance.2.tracker.options? = some options ∧ t.advance.2.tracker.cache.records = [] ∧
      t.advance.2.tracker.cache.accepting = true
  failed : ∀ e, t.advance.1 = some (.started (.error e)) →
    .done (.error e) ∈ t.fates ∧ t.advance.2.tracker.AtRest ∧ t.advance.2.Gone k
  waits : t.advance.1 = none → (∀ e, .done (.error e) ∉ t.fates) ∧ ∃ r ∈ t.fates, ¬r.Succeeded
  given_up : t.abandon.Gone k ∧ t.polled.abandon.Gone k

/-- How a stop may go on from where it waits. -/
structure Stops (options : K) (k : SinkId) (t : Scene σ K κ) : Prop where
  commands : List.Forall₂ (Request.Of σ) (stopBatch options) t.fates
  stopped : ∀ o, t.advance.1 = some o →
    (∃ r, o = .stopped r) ∧ t.advance.2.tracker.AtRest ∧ t.advance.2.Gone k
  succeeds_iff : (∃ entries, t.advance.1 = some (.stopped (.ok entries))) ↔
    (∀ r ∈ t.fates, r.Succeeded) ∧
      ∃ snapshot rest usage, t.fates = .done (.ok snapshot) :: rest ∧ Strategy.usage options snapshot = .ok usage
  waits : t.advance.1 = none → (∀ e, .done (.error e) ∉ t.fates) ∧ ∃ r ∈ t.fates, ¬r.Succeeded
  given_up : t.abandon.Gone k ∧ t.polled.abandon.Gone k

/-- What starts and stops do to a tracker. -/
structure Lifecycle (s : Scene σ K κ) : Prop where
  already_enabled : s.tracker.isEnabled = true → ∀ options,
    s.beginStart options = (.error (.alreadyEnabled (Strategy.kind K)), s)
  not_enabled : s.tracker.phase = .idle → s.beginStop = (.error (.notEnabled (Strategy.kind K)), s)
  subscribes : s.tracker.phase = .idle → ∀ options,
    (s.beginStart options).1 = (subscriptions K s.session).map fun _ => ()
  refused : s.tracker.phase = .idle → ∀ options e, (s.beginStart options).1 = .error e →
    (s.beginStart options).2.tracker.AtRest ∧ (s.beginStart options).2.Gone (Session.openSink s.session).1
  starts : s.tracker.phase = .idle → ∀ options, (s.beginStart options).1 = .ok () →
    ∀ t, Relation.ReflTransGen (Awaits (Session.openSink s.session).1) (s.beginStart options).2 t →
      t.Starts options (Session.openSink s.session).1
  stops : ∀ options a, s.tracker.phase = .enabled options a →
    s.beginStop.1 = .ok () ∧ s.drop.Gone a.sink ∧
      ∀ t, Relation.ReflTransGen (Awaits a.sink) s.beginStop.2 t → t.Stops options a.sink

section

variable [LawfulSession σ] {s t : Scene σ K κ} {options : K} {a : Attachment} {batch : List (Request κ)}
  {k : SinkId}

theorem Sound.starts (h : Sound t) (starting : t.tracker.phase = .starting options a batch) :
    t.Starts options a.sink := by
  have hpolled := h.of_polled
  have htracker := polled_of_starting starting
  have hstarting : t.polled.tracker.phase = .starting options a t.fates := by rw [htracker]
  obtain ⟨hclosed, hempty, -⟩ := h.starting options a batch starting
  have hgiven : t.abandon.Gone a.sink ∧ t.polled.abandon.Gone a.sink :=
    ⟨h.gone_abandon starting, hpolled.gone_abandon hstarting⟩
  have hcommands := h.commands_of_starting starting
  have hended : t.polled.abandon.tracker = ⟨t.tracker.cache, .idle, t.tracker.fetches⟩ := by
    rw [tracker_abandon (by simp only [Tracker.isEnabled, hstarting]), htracker]
  cases Request.verdict t.fates with
  | failed e hfirst hmem =>
    have hadvance : t.advance = (some (.started (.error e)), t.polled.abandon) := by
      rw [advance_starting starting, hfirst]
    have hnot : ¬∀ r ∈ t.fates, r.Succeeded := fun hall => Request.not_mem_of_succeeded hall e hmem
    have hrest : t.polled.abandon.tracker.AtRest := by
      rw [hended]
      exact ⟨rfl, hempty, hclosed⟩
    refine ⟨hcommands, ?_, ?_, ?_, ?_, ?_, ?_, hgiven⟩ <;> rw [hadvance]
    · rintro o ⟨⟩
      exact ⟨_, rfl⟩
    · simpa using hnot
    · simpa [hended, Tracker.isEnabled] using hnot
    · simp [hended, Tracker.isEnabled]
    · rintro e' ⟨⟩
      exact ⟨hmem, hrest, hgiven.2⟩
    · simp
  | succeeded vs hfirst hanswers hall =>
    have hadvance : t.advance = (some (.started (.ok ())), t.polled.finishStart options a) := by
      rw [advance_starting starting, hfirst, hanswers]
    have hopened : (t.polled.finishStart options a).tracker =
        ⟨t.tracker.cache.openUp, .enabled options a, t.tracker.fetches⟩ := by
      show Tracker.mk t.polled.tracker.cache.openUp _ t.polled.tracker.fetches = _
      rw [htracker]
    refine ⟨hcommands, ?_, ?_, ?_, ?_, ?_, ?_, hgiven⟩ <;> rw [hadvance]
    · rintro o ⟨⟩
      exact ⟨_, rfl⟩
    · simpa using hall
    · simpa [hopened, Tracker.isEnabled] using hall
    · intro _
      rw [hopened]
      exact ⟨rfl, hempty, rfl⟩
    · simp
    · simp
  | waiting hfirst hanswers hnone hwaits =>
    have hadvance : t.advance = (none, t.polled) := by
      rw [advance_starting starting, hfirst, hanswers]
    obtain ⟨r, hr, hopen⟩ := hwaits
    have hnot : ¬∀ r ∈ t.fates, r.Succeeded := fun hall => hopen (hall r hr)
    refine ⟨hcommands, ?_, ?_, ?_, ?_, ?_, ?_, hgiven⟩ <;> rw [hadvance]
    · simp
    · simpa using hnot
    · simpa [htracker, Tracker.isEnabled] using hnot
    · simp [htracker, Tracker.isEnabled]
    · simp
    · exact fun _ => ⟨hnone, r, hr, hopen⟩

omit [Strategy K] in
/-- A stop that is given up leaves no listener where there was none. -/
theorem gone_abandon_of_stopping (stopping : s.tracker.phase = .stopping options batch)
    (unfed : (Session.router s.session).feeders k = []) : s.abandon.Gone k := by
  have hgiven : s.abandon = { s with session := Request.cancelAll s.session batch }.enter .idle := by
    simp only [abandon, stopping]
  rw [hgiven]
  refine ⟨rfl, ?_⟩
  have hrouter : Session.router (Request.cancelAll s.session batch) = Session.router s.session :=
    Request.router_cancelAll ..
  exact (congrArg (Router.feeders · k) hrouter).trans unfed

/-- The records of a stop whose requests have all succeeded are joined with the usage, if it can be read. -/
theorem entriesOf_ok_iff (options : K) (records : List Record) (snapshot : Value) (rest : List Value) :
    (∃ entries, entriesOf options records (snapshot :: rest) = .ok entries) ↔
      ∃ usage, Strategy.usage options snapshot = .ok usage := by
  simp only [entriesOf, List.headD_cons]
  cases Strategy.usage options snapshot <;> simp [Except.map]

theorem Sound.stops (h : Sound t) (stopping : t.tracker.phase = .stopping options batch)
    (unfed : (Session.router t.session).feeders k = []) : t.Stops options k := by
  have hrouter : Session.router t.polled.session = Session.router t.session := router_polled t
  have htracker := polled_of_stopping stopping
  have hstopping : t.polled.tracker.phase = .stopping options t.fates := by rw [htracker]
  obtain ⟨hclosed, -⟩ := h.stopping options batch stopping
  have hcommands := h.commands_of_stopping stopping
  have hunfed : (Session.router t.polled.session).feeders k = [] := by
    rw [hrouter]
    exact unfed
  have hgone := gone_abandon_of_stopping hstopping hunfed
  have hgiven : t.abandon.Gone k ∧ t.polled.abandon.Gone k := ⟨gone_abandon_of_stopping stopping unfed, hgone⟩
  cases Request.verdict t.fates with
  | failed e hfirst hmem =>
    have hadvance : t.advance = (some (.stopped (.error e)), t.polled.abandon.finishStop.2) := by
      rw [advance_stopping stopping, hfirst]
    have hnot : ¬∀ r ∈ t.fates, r.Succeeded := fun hall => Request.not_mem_of_succeeded hall e hmem
    refine ⟨hcommands, ?_, ?_, ?_, hgiven⟩ <;> rw [hadvance]
    · rintro o ⟨⟩
      have hended : t.polled.abandon.tracker = ⟨t.tracker.cache, .idle, t.tracker.fetches⟩ := by
        rw [tracker_abandon (by simp only [Tracker.isEnabled, hstopping]), htracker]
      refine ⟨⟨_, rfl⟩, ⟨rfl, rfl, ?_⟩, rfl, hgone.unfed⟩
      show t.polled.abandon.tracker.cache.accepting = false
      rw [hended]
      exact hclosed
    · simp [hnot]
    · simp
  | succeeded vs hfirst hanswers hall =>
    have hadvance : t.advance =
        (some (.stopped (entriesOf options t.tracker.cache.records vs)), t.polled.finishStop.2) := by
      rw [advance_stopping stopping, hfirst, hanswers]
    refine ⟨hcommands, ?_, ?_, ?_, hgiven⟩ <;> rw [hadvance]
    · rintro o ⟨⟩
      refine ⟨⟨_, rfl⟩, ⟨rfl, rfl, ?_⟩, rfl, hunfed⟩
      show t.polled.tracker.cache.accepting = false
      rw [htracker]
      exact hclosed
    · -- The first request of a stop collects the snapshot, so an answered batch begins with it.
      have hfates := Request.answers?_eq_some_iff.mp hanswers
      cases vs with
      | nil =>
        rw [hfates] at hcommands
        cases hcommands
      | cons snapshot rest =>
        have hentries := entriesOf_ok_iff options t.tracker.cache.records snapshot rest
        rw [hfates, List.map_cons]
        simp only [Option.some.injEq, Outcome.stopped.injEq, hentries]
        constructor
        · rintro ⟨usage, husage⟩
          rw [hfates] at hall
          exact ⟨hall, snapshot, _, usage, rfl, husage⟩
        · rintro ⟨-, _, _, usage, ⟨⟩, husage⟩
          exact ⟨usage, husage⟩
    · simp
  | waiting hfirst hanswers hnone hwaits =>
    have hadvance : t.advance = (none, t.polled) := by
      rw [advance_stopping stopping, hfirst, hanswers]
    obtain ⟨r, hr, hopen⟩ := hwaits
    have hnot : ¬∀ r ∈ t.fates, r.Succeeded := fun hall => hopen (hall r hr)
    refine ⟨hcommands, ?_, ?_, ?_, hgiven⟩ <;> rw [hadvance]
    · simp
    · simp [hnot]
    · exact fun _ => ⟨hnone, r, hr, hopen⟩

/-- A start goes on waiting with the same options and the same attachment. -/
theorem Awaits.starting (h : Sound s) (starting : s.tracker.phase = .starting options a batch)
    (step : Awaits a.sink s t) : Sound t ∧ ∃ rest, t.tracker.phase = .starting options a rest := by
  cases step with
  | poll => exact ⟨h.of_polled, _, by rw [polled_of_starting starting]⟩
  | fetch i => exact ⟨h.fetch i, batch, (tracker_fetchAt s i).1.trans starting⟩
  | elsewhere u elsewhere =>
    refine ⟨h.elsewhere elsewhere fun b hb => ?_, batch, starting⟩
    simp only [Tracker.attachment?, starting, Option.some.injEq] at hb
    rw [hb]

/-- A stop goes on waiting unheard, with the records that it began with. -/
theorem Awaits.stopping (h : Sound s) (stopping : s.tracker.phase = .stopping options batch)
    (unfed : (Session.router s.session).feeders k = []) (step : Awaits k s t) :
    Sound t ∧ (∃ rest, t.tracker.phase = .stopping options rest) ∧
      (Session.router t.session).feeders k = [] ∧ t.tracker.cache = s.tracker.cache := by
  cases step with
  | poll =>
    have htracker := polled_of_stopping stopping
    exact ⟨h.of_polled, ⟨s.fates, by rw [htracker]⟩, by rwa [router_polled], by rw [htracker]⟩
  | fetch i =>
    obtain ⟨hphase, -, hcache⟩ := tracker_fetchAt s i
    obtain ⟨hclosed, -⟩ := h.stopping options batch stopping
    exact ⟨h.fetch i, ⟨batch, hphase.trans stopping⟩, by rwa [router_fetchAt], hcache hclosed⟩
  | elsewhere u elsewhere =>
    refine ⟨h.elsewhere elsewhere fun b hb => ?_, ⟨batch, stopping⟩, ?_, rfl⟩
    · simp [Tracker.attachment?, stopping] at hb
    · rw [Router.feeders, List.filter_eq_nil_iff]
      intro l hl hk
      have hsink : some l.sink = some k := congrArg some (beq_iff_eq.mp hk)
      have hfeeds : l ∈ (Session.router s.session).feeders k :=
        List.mem_filter.mpr ⟨elsewhere.listeners l hl hsink, hk⟩
      rw [unfed] at hfeeds
      cases hfeeds

theorem starting_of_awaits (h : Sound s) (starting : s.tracker.phase = .starting options a batch)
    (waited : Relation.ReflTransGen (Awaits a.sink) s t) :
    Sound t ∧ ∃ rest, t.tracker.phase = .starting options a rest := by
  induction waited with
  | refl => exact ⟨h, batch, starting⟩
  | tail _ step ih =>
    obtain ⟨hsound, rest, hphase⟩ := ih
    exact step.starting hsound hphase

theorem stopping_of_awaits (h : Sound s) (stopping : s.tracker.phase = .stopping options batch)
    (unfed : (Session.router s.session).feeders k = []) (waited : Relation.ReflTransGen (Awaits k) s t) :
    Sound t ∧ (∃ rest, t.tracker.phase = .stopping options rest) ∧
      (Session.router t.session).feeders k = [] ∧ t.tracker.cache = s.tracker.cache := by
  induction waited with
  | refl => exact ⟨h, ⟨batch, stopping⟩, unfed, rfl⟩
  | tail _ step ih =>
    obtain ⟨hsound, ⟨rest, hphase⟩, hunfed, hcache⟩ := ih
    obtain ⟨hsound, hphase, hunfed, hsame⟩ := step.stopping hsound hphase hunfed
    exact ⟨hsound, hphase, hunfed, hsame.trans hcache⟩

theorem Sound.refused (h : Sound s) (idle : s.tracker.phase = .idle) {e : CoverageError}
    (refused : subscriptions K s.session = .error e) :
    (s.beginStart options).2.tracker.AtRest ∧ (s.beginStart options).2.Gone (Session.openSink s.session).1 := by
  have hunfed := unfed_attach (s := s.withCache s.tracker.cache.beginSession) h.wellFormed refused
  have htracker := (attach_spec (K := K) (s := s.withCache s.tracker.cache.beginSession) h.wellFormed).1
  rw [beginStart_of_refused idle refused]
  refine ⟨?_, ⟨?_, hunfed⟩⟩
  · rw [htracker]
    exact ⟨idle, rfl, rfl⟩
  · rw [htracker]
    exact idle

/-- Starts and stops are refused without effect, succeed exactly if all of their requests do, and leave the
tracker at rest otherwise, however they end or are given up. -/
theorem lifecycle (reachable : Reachable s) : s.Lifecycle := by
  have h := reachable.sound
  constructor
  case already_enabled =>
    intro henabled options
    rw [beginStart, if_pos henabled]
  case not_enabled =>
    intro hidle
    rw [beginStop_of_not_enabled (by simp only [Tracker.isEnabled, hidle]), abandon_of_idle hidle]
  case subscribes =>
    intro hidle options
    cases hsubscribed : subscriptions K s.session with
    | error e => rw [beginStart_of_refused hidle hsubscribed]; rfl
    | ok begun => rw [beginStart_of_subscribed hidle hsubscribed]; rfl
  case refused =>
    intro hidle options e hrefused
    cases hsubscribed : subscriptions K s.session with
    | error e' => exact h.refused hidle hsubscribed
    | ok begun =>
      rw [beginStart_of_subscribed hidle hsubscribed] at hrefused
      cases hrefused
  case starts =>
    intro hidle options hok t waited
    cases hsubscribed : subscriptions K s.session with
    | error e =>
      rw [beginStart_of_refused hidle hsubscribed] at hok
      cases hok
    | ok begun =>
      -- The start has the new sink for as long as it waits.
      have hbegun := h.start_of_idle hidle options
      rw [beginStart_of_subscribed hidle hsubscribed] at hbegun waited
      obtain ⟨hsound, rest, hstarting⟩ := starting_of_awaits hbegun rfl waited
      exact hsound.starts hstarting
  case stops =>
    intro options a henabled
    have hstop := h.stop
    rw [beginStop_of_phase henabled] at hstop ⊢
    refine ⟨rfl, h.gone_drop henabled, fun t waited => ?_⟩
    obtain ⟨hsound, ⟨rest, hstopping⟩, hunfed, -⟩ :=
      stopping_of_awaits hstop rfl (unfed_detach (h.owned_of_enabled henabled)) waited
    exact hsound.stops hstopping hunfed

end

/-- A start, polled once, on a stand-in that has been told how to answer one method. -/
def startAnswered (s : Scene StandIn K HeldCall) (method : String) (r : Reply) (options : K) :
    Scene StandIn K HeldCall :=
  ({ s with session := s.session.respond method r }.beginStart options).2.advance.2

theorem steps_startAnswered (s : Scene StandIn K HeldCall) (method : String) (r : Reply) (options : K) :
    Relation.ReflTransGen Step s (s.startAnswered method r options) := by
  let told := { s with session := s.session.respond method r }
  have answers : Step s told := .elsewhere s (s.session.respond method r) ⟨id, fun _ h _ => h⟩
  exact .tail (.tail (.single answers) (.start told options)) (.advance (told.beginStart options).2)

/-- Script coverage whose start has failed with a rejected command. -/
def refusedScripts : Scene StandIn ScriptOptions HeldCall :=
  ({ session := {}, tracker := {} } : Scene _ _ _).startAnswered Method.debuggerEnable (.reject "gone") {}

/-- Another start succeeds where one has failed. -/
theorem lifecycle_of_restarted :
    let s := refusedScripts.startAnswered Method.debuggerEnable (.fixed .empty) {}
    Reachable s ∧ refusedScripts.tracker.phase = .idle ∧ s.tracker.isEnabled = true ∧ s.Lifecycle := by
  have failing := steps_startAnswered ({ session := {}, tracker := {} } : Scene _ ScriptOptions _)
    Method.debuggerEnable (.reject "gone") {}
  have succeeding := steps_startAnswered refusedScripts Method.debuggerEnable (.fixed .empty) {}
  have fresh : (Session.router ({} : StandIn)).WellFormed := nofun
  have reachable : Reachable (refusedScripts.startAnswered Method.debuggerEnable (.fixed .empty) {}) :=
    ⟨{}, fresh, failing.trans succeeding⟩
  exact ⟨reachable, rfl, rfl, lifecycle reachable⟩

end Scene

end PageCoverage
