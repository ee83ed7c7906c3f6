import PageCoverage.Proofs.Router.Delivery
import PageCoverage.Proofs.Session.Lawful
import PageCoverage.Tracking.Scene

namespace PageCoverage

section

variable {K : Type} [Strategy K]

/-- The registration that an event asks a tracker to fetch. -/
def Strategy.admitted? (options : K) (e : Event) : Option Registration :=
  if e.method = Event.executionContextsCleared then none
  else match Strategy.registration options e.params with
    | .ok r => r
    | .error _ => none

theorem Strategy.admitted?_eq_some_iff {options : K} {e : Event} {r : Registration} :
    Strategy.admitted? options e = some r ↔
      e.method ≠ Event.executionContextsCleared ∧ Strategy.registration options e.params = .ok (some r) := by
  rw [Strategy.admitted?]
  split
  next hcleared => simp [hcleared]
  next hcleared => cases Strategy.registration options e.params <;> simp [hcleared]

theorem Strategy.method_ne_of_admitted? {options : K} {e : Event} {r : Registration}
    (h : Strategy.admitted? options e = some r) : e.method ≠ Event.executionContextsCleared :=
  (Strategy.admitted?_eq_some_iff.mp h).1

/-- The names of the events that a tracker subscribes to. -/
def Strategy.events (K : Type) [Strategy K] : List String :=
  [Strategy.registrationEvent K, Event.executionContextsCleared]

end

theorem Tracker.isEnabled_iff {K κ : Type} {t : Tracker K κ} :
    t.isEnabled = true ↔ ∃ options a, t.phase = .enabled options a := by
  rw [isEnabled]
  cases t.phase <;> simp

namespace Scene

variable {σ K κ : Type} [Session σ κ] [Strategy K]

omit [Session σ κ] [Strategy K] in
theorem tracker_enter (s : Scene σ K κ) (p : Phase K κ) :
    (s.enter p).tracker = ⟨s.tracker.cache, p, s.tracker.fetches⟩ := rfl

omit [Strategy K] in
theorem abandon_of_enabled {s : Scene σ K κ} {options : K} {a : Attachment}
    (h : s.tracker.phase = .enabled options a) : s.abandon = s := by
  simp only [abandon, h]

omit [Strategy K] in
theorem tracker_abandon {s : Scene σ K κ} (h : s.tracker.isEnabled = false) :
    s.abandon.tracker = ⟨s.tracker.cache, .idle, s.tracker.fetches⟩ := by
  obtain ⟨session, ⟨cache, phase, fetches⟩, log⟩ := s
  cases phase with
  | enabled options a => simp [Tracker.isEnabled] at h
  | _ => rfl

section Router

variable [LawfulSession σ]

omit [Strategy K] in
theorem wellFormed_detach {s : Scene σ K κ} (h : (Session.router s.session).WellFormed) (a : Attachment) :
    (Session.router (s.detach a).session).WellFormed := by
  have hrelease : (Session.router (a.subscriptions.foldl Session.release s.session)).WellFormed := by
    generalize s.session = session at h ⊢
    induction a.subscriptions generalizing session with
    | nil => exact h
    | cons sub subs ih =>
      refine ih (Session.release session sub) ?_
      rw [Session.router_release]
      exact Router.wellFormed_release h sub
  rw [detach, Session.router_closeSink]
  exact Router.wellFormed_closeSink hrelease a.sink

omit [Strategy K] in
theorem wellFormed_abandon {s : Scene σ K κ} (h : (Session.router s.session).WellFormed) :
    (Session.router s.abandon.session).WellFormed := by
  have hcancel (batch : List (Request κ)) :
      (Session.router (Request.cancelAll s.session batch)).WellFormed := by
    rw [Request.router_cancelAll]
    exact h
  rw [abandon]
  split
  · exact wellFormed_detach (s := { s with session := Request.cancelAll s.session _ }) (hcancel _) _
  · exact hcancel _
  · exact h

/-- An attachment begins with an empty sink that is subscribed to the events of the tracker. -/
theorem attach_spec {s : Scene σ K κ} (h : (Session.router s.session).WellFormed) :
    s.attach.2.tracker = s.tracker ∧ (Session.router s.attach.2.session).WellFormed ∧
      ∀ a, s.attach.1 = .ok a →
        (Session.router s.attach.2.session).Delivers a.sink (Strategy.events K) [] [] := by
  have hk : (Session.router s.session).openSink.1 < (Session.router s.session).openSink.2.sinks.length := by
    simp [Router.openSink]
  have hopened := Router.wellFormed_openSink h
  rw [← Session.router_openSink] at hopened hk
  cases hfirst : Session.subscribe (Session.openSink s.session).2 (Strategy.registrationEvent K)
      (Session.openSink s.session).1 with
  | error e =>
    simp only [attach, hfirst, Session.router_closeSink]
    exact ⟨trivial, Router.wellFormed_closeSink hopened _, by simp⟩
  | ok one =>
    obtain ⟨registrations, session⟩ := one
    have hrouter := Session.router_of_subscribe hfirst
    have hone : (Session.router session).WellFormed := by
      rw [hrouter]
      exact Router.wellFormed_subscribe hopened _ hk
    cases hsecond : Session.subscribe session Event.executionContextsCleared
        (Session.openSink s.session).1 with
    | error e =>
      simp only [attach, hfirst, hsecond, Session.router_closeSink, Session.router_release]
      exact ⟨trivial, Router.wellFormed_closeSink (Router.wellFormed_release hone _) _, by simp⟩
    | ok both =>
      obtain ⟨resets, last⟩ := both
      have hlast := Session.router_of_subscribe hsecond
      rw [hrouter, Session.router_openSink] at hlast
      have hdelivers :=
        Router.delivers_subscribe h (Strategy.registrationEvent K) Event.executionContextsCleared
      simp only [attach, hfirst, hsecond, Except.ok.injEq, forall_eq']
      rw [hlast]
      exact ⟨trivial, hdelivers.wellFormed, hdelivers⟩

/-- A start that is refused leaves the tracker idle with an emptied cache; any other one subscribes first. -/
theorem beginStart_spec {s : Scene σ K κ} (h : (Session.router s.session).WellFormed)
    (idle : s.tracker.isEnabled = false) (options : K) :
    (Session.router (s.beginStart options).2.session).WellFormed ∧
      ((∃ e, (s.beginStart options).1 = .error e ∧
          (s.beginStart options).2.tracker = ⟨s.tracker.cache.beginSession, .idle, s.tracker.fetches⟩) ∨
        ∃ a, (s.beginStart options).1 = .ok () ∧
          (s.beginStart options).2.tracker = ⟨s.tracker.cache.beginSession,
            .starting options a ((Strategy.enableCommands options).map .unsent), s.tracker.fetches⟩ ∧
          (Session.router (s.beginStart options).2.session).Delivers a.sink (Strategy.events K) [] []) := by
  have habandon := tracker_abandon idle
  generalize hbegun : s.abandon.withCache s.abandon.tracker.cache.beginSession = begun
  have hwell : (Session.router begun.session).WellFormed := by
    rw [← hbegun]
    exact wellFormed_abandon h
  have htracker : begun.tracker = ⟨s.tracker.cache.beginSession, .idle, s.tracker.fetches⟩ := by
    rw [← hbegun, withCache, habandon]
  obtain ⟨hsame, hkept, hdelivers⟩ := attach_spec hwell
  rw [htracker] at hsame
  rcases hattach : begun.attach with ⟨result, t⟩
  rw [hattach] at hsame hkept hdelivers
  cases result with
  | error e =>
    have hrefused : s.beginStart options = (.error e, t) := by
      simp only [beginStart, idle, Bool.false_eq_true, if_false, hbegun, hattach]
    rw [hrefused]
    exact ⟨hkept, Or.inl ⟨e, rfl, hsame⟩⟩
  | ok a =>
    have hattached : s.beginStart options =
        (.ok (), t.enter (.starting options a ((Strategy.enableCommands options).map .unsent))) := by
      simp only [beginStart, idle, Bool.false_eq_true, if_false, hbegun, hattach]
    rw [hattached]
    refine ⟨hkept, Or.inr ⟨a, rfl, ?_, hdelivers a rfl⟩⟩
    refine (tracker_enter t _).trans ?_
    rw [hsame]

/-- A stop of an enabled tracker closes the cache and keeps its records. -/
theorem beginStop_spec {s : Scene σ K κ} {options : K} {a : Attachment}
    (h : (Session.router s.session).WellFormed) (enabled : s.tracker.phase = .enabled options a) :
    s.beginStop.1 = .ok () ∧ (Session.router s.beginStop.2.session).WellFormed ∧
      ∃ batch, s.beginStop.2.tracker = ⟨s.tracker.cache.close, .stopping options batch, s.tracker.fetches⟩ := by
  have hdetach := wellFormed_detach h a
  simp only [beginStop, enabled]
  exact ⟨trivial, hdetach, _, rfl⟩

omit [LawfulSession σ] in
theorem beginStop_of_not_enabled {s : Scene σ K κ} (h : s.tracker.isEnabled = false) :
    s.beginStop = (.error (.notEnabled (Strategy.kind K)), s.abandon) := by
  rw [beginStop]
  split
  next hphase => simp [Tracker.isEnabled, hphase] at h
  · rfl

/-- A poll of a start leaves it waiting, gives it up, or opens the cache. -/
theorem advance_of_starting {s : Scene σ K κ} {options : K} {a : Attachment} {batch : List (Request κ)}
    (starting : s.tracker.phase = .starting options a batch) :
    (s.advance.2.tracker = ⟨s.tracker.cache, .idle, s.tracker.fetches⟩ ∧
        ((Session.router s.session).WellFormed → (Session.router s.advance.2.session).WellFormed)) ∨
      (Session.router s.advance.2.session = Session.router s.session ∧
        ((∃ rest, s.advance.2.tracker = ⟨s.tracker.cache, .starting options a rest, s.tracker.fetches⟩) ∨
          s.advance.2.tracker = ⟨s.tracker.cache.openUp, .enabled options a, s.tracker.fetches⟩)) := by
  have hpolled := Request.router_pollAll s.session batch
  simp only [advance, starting]
  split
  · refine Or.inl ⟨?_, fun hwell => wellFormed_abandon ?_⟩
    · exact tracker_abandon rfl
    · rw [← hpolled] at hwell
      exact hwell
  · refine Or.inr ?_
    split
    · exact ⟨hpolled, Or.inr rfl⟩
    · exact ⟨hpolled, Or.inl ⟨_, rfl⟩⟩

/-- A poll of a stop leaves it waiting, or ends it with an emptied cache. -/
theorem advance_of_stopping {s : Scene σ K κ} {options : K} {batch : List (Request κ)}
    (stopping : s.tracker.phase = .stopping options batch) :
    Session.router s.advance.2.session = Session.router s.session ∧
      ((∃ rest, s.advance.2.tracker = ⟨s.tracker.cache, .stopping options rest, s.tracker.fetches⟩) ∨
        s.advance.2.tracker = ⟨s.tracker.cache.clear, .idle, s.tracker.fetches⟩) := by
  have hpolled := Request.router_pollAll s.session batch
  simp only [advance, stopping]
  split
  · refine ⟨?_, Or.inr rfl⟩
    exact (Request.router_cancelAll _ _).trans hpolled
  · split
    · exact ⟨hpolled, Or.inr rfl⟩
    · exact ⟨hpolled, Or.inl ⟨_, rfl⟩⟩

omit [LawfulSession σ] in
/-- What a stop returns is made of the records it takes. -/
theorem entries_of_advance {s t : Scene σ K κ} {options : K} {batch : List (Request κ)}
    {entries : List Entry} (stopping : s.tracker.phase = .stopping options batch)
    (h : s.advance = (some (.stopped (.ok entries)), t)) :
    ∃ usage, entries = buildEntries s.finishStop.1 usage := by
  simp only [advance, stopping] at h
  split at h
  · simp at h
  · split at h
    next answers _ =>
      simp only [Prod.mk.injEq, Option.some.injEq, Outcome.stopped.injEq] at h
      obtain ⟨hentries, -⟩ := h
      rw [entriesOf] at hentries
      cases husage : Strategy.usage options (answers.headD .null) with
      | error e =>
        rw [husage] at hentries
        cases hentries
      | ok usage =>
        rw [husage] at hentries
        exact ⟨usage, (Except.ok.inj hentries).symm⟩
    · simp at h

omit [LawfulSession σ] in
theorem advance_of_idle {s : Scene σ K κ} (idle : s.tracker.phase = .idle) : s.advance = (none, s) := by
  simp only [advance, idle]

omit [LawfulSession σ] in
theorem advance_of_enabled {s : Scene σ K κ} {options : K} {a : Attachment}
    (enabled : s.tracker.phase = .enabled options a) : s.advance = (none, s) := by
  simp only [advance, enabled]

end Router

theorem pump_of_not_enabled {s : Scene σ K κ} (h : s.tracker.isEnabled = false) : s.pump = s := by
  rw [pump]
  split
  next hphase => simp [Tracker.isEnabled, hphase] at h
  · rfl

theorem pumpAll_of_not_enabled {s : Scene σ K κ} (h : s.tracker.isEnabled = false) : s.pumpAll = s := by
  rw [pumpAll]
  generalize s.waiting + 1 = n
  induction n with
  | zero => rfl
  | succ n ih => rw [Nat.repeat, ih, pump_of_not_enabled h]

/-- The event that the pump handles next. -/
def next? (s : Scene σ K κ) : Option Event :=
  match s.tracker.phase with
  | .enabled _ a => if a.reading then ((Session.router s.session).queue a.sink).head? else none
  | _ => none

omit [Session σ κ] in
/-- An event changes at most the cache, the fetches and the log. -/
theorem onEvent_frame (s : Scene σ K κ) (options : K) (e : Event) :
    (s.onEvent options e).session = s.session ∧
      (s.onEvent options e).tracker.phase = s.tracker.phase := by
  rw [onEvent]
  split
  · rw [onReset]
    split
    · split <;> exact ⟨rfl, rfl⟩
    · exact ⟨rfl, rfl⟩
  · rw [onRegistration]
    split
    · exact ⟨rfl, rfl⟩
    · exact ⟨rfl, rfl⟩
    · split <;> exact ⟨rfl, rfl⟩

omit [Session σ κ] in
/-- A cleared page empties the cache, where it is to do so; any other event that is not admitted changes
nothing. -/
theorem tracker_onEvent_of_refused {s : Scene σ K κ} {options : K} {e : Event}
    (accepting : s.tracker.cache.accepting = true) (h : Strategy.admitted? options e = none) :
    (s.onEvent options e).tracker =
      if e.method = Event.executionContextsCleared ∧ Strategy.resetOnNavigation options = true then
        ⟨s.tracker.cache.clear.advance, s.tracker.phase, s.tracker.fetches⟩
      else s.tracker := by
  by_cases hcleared : e.method = Event.executionContextsCleared
  · rw [onEvent, if_pos hcleared, onReset]
    by_cases hreset : Strategy.resetOnNavigation options = true
    · rw [if_pos hreset, if_pos ⟨hcleared, hreset⟩, Cache.reset, if_pos accepting]
      rfl
    · rw [if_neg hreset, if_neg fun hboth => hreset hboth.2]
  · rw [onEvent, if_neg hcleared, if_neg fun hboth => hcleared hboth.1, onRegistration]
    rw [Strategy.admitted?, if_neg hcleared] at h
    cases hr : Strategy.registration options e.params with
    | error error => rfl
    | ok r =>
      rw [hr] at h
      simp only at h
      rw [h]

omit [Session σ κ] in
/-- An admitted registration begins a fetch of the present generation. -/
theorem tracker_onEvent_of_admitted {s : Scene σ K κ} {options : K} {e : Event} {r : Registration}
    (accepting : s.tracker.cache.accepting = true) (h : Strategy.admitted? options e = some r) :
    (s.onEvent options e).tracker =
      ⟨s.tracker.cache, s.tracker.phase, s.tracker.fetches ++ [⟨options, r, s.tracker.cache.generation,
        .unsent (Strategy.fetchCommand options r.id)⟩]⟩ := by
  rw [Strategy.admitted?] at h
  split at h
  · cases h
  next hcleared =>
    rw [onEvent, if_neg hcleared, onRegistration]
    split at h
    next hr =>
      subst h
      rw [hr, Cache.acceptingGeneration, if_pos accepting]
    · cases h

theorem pump_of_next? {s : Scene σ K κ} {e : Event} (h : s.next? = some e) :
    ∃ options a rest, ∃ taken : Scene σ K κ, s.tracker.phase = .enabled options a ∧
      (Session.router s.session).queue a.sink = e :: rest ∧ taken.tracker = s.tracker ∧
      taken.session = Session.withRouter s.session ((Session.router s.session).take a.sink).2 ∧
      s.pump = taken.onEvent options e := by
  rw [next?] at h
  split at h
  next options a hphase =>
    split at h
    next hreading =>
      obtain ⟨rest, hqueue⟩ := List.head?_eq_some_iff.mp h
      refine ⟨options, a, rest,
        { s with session := Session.withRouter s.session ((Session.router s.session).take a.sink).2 },
        hphase, hqueue, rfl, rfl, ?_⟩
      simp only [pump, hphase, hreading, Router.take_of_queue_cons hqueue, if_true]
    · cases h
  · cases h

/-- With no event to handle, the pump at most notices that nothing feeds its sink any more. -/
theorem pump_of_next?_eq_none {s : Scene σ K κ} (h : s.next? = none) :
    s.pump = s ∨ ∃ options a, s.tracker.phase = .enabled options a ∧
      (Session.router s.session).queue a.sink = [] ∧ (Session.router s.session).feeders a.sink = [] ∧
      s.pump.session = Session.closeSink s.session a.sink ∧
      s.pump.tracker =
        ⟨s.tracker.cache, .enabled options { a with reading := false }, s.tracker.fetches⟩ := by
  rw [next?] at h
  split at h
  next options a hphase =>
    split at h
    next hreading =>
      have hqueue := List.head?_eq_none_iff.mp h
      by_cases hfed : (Session.router s.session).isFed a.sink = true
      · left
        simp only [pump, hphase, hreading, Router.take_of_queue_nil hqueue, hfed, if_true]
      · right
        refine ⟨options, a, hphase, hqueue, by_contra fun hne => hfed (Router.isFed_iff.mpr hne), ?_⟩
        simp only [pump, hphase, hreading, Router.take_of_queue_nil hqueue, hfed, if_true]
        exact ⟨rfl, rfl⟩
    next hreading =>
      left
      simp only [pump, hphase, hreading, Bool.false_eq_true, if_false]
  next hphase =>
    left
    rw [pump]
    split
    next hphase' => exact absurd hphase' (hphase _ _)
    · rfl

/-- A fetch that has its answer leaves the tracker; its source is stored if the cache takes it. -/
theorem fetchAt_of_done {s : Scene σ K κ} {i : Nat} {f : Fetch K κ} {result : Except CoverageError Value}
    (hf : s.tracker.fetches[i]? = some f) (done : (f.request.poll s.session).1 = .done result) :
    (s.fetchAt i).session = (f.request.poll s.session).2 ∧
      (s.fetchAt i).tracker =
        ⟨match result.bind (Strategy.sourceText f.options) with
          | .ok source => (s.tracker.cache.insert f.generation ⟨f.resource.id, f.resource.url, source⟩).2
          | .error _ => s.tracker.cache,
        s.tracker.phase, s.tracker.fetches.eraseIdx i⟩ := by
  simp only [fetchAt, hf, advanceFetch, done, finishFetch]
  cases result.bind (Strategy.sourceText f.options) with
  | error e => exact ⟨rfl, rfl⟩
  | ok source =>
    simp only [Cache.insert]
    by_cases htakes : s.tracker.cache.accepting = true ∧ f.generation = s.tracker.cache.generation
    · simp only [if_pos htakes]
      exact ⟨rfl, rfl⟩
    · simp only [if_neg htakes]
      exact ⟨rfl, rfl⟩

theorem fetchAt_of_waiting {s : Scene σ K κ} {i : Nat} {f : Fetch K κ}
    (hf : s.tracker.fetches[i]? = some f)
    (waiting : ∀ result, (f.request.poll s.session).1 ≠ .done result) :
    (s.fetchAt i).session = (f.request.poll s.session).2 ∧
      (s.fetchAt i).tracker = ⟨s.tracker.cache, s.tracker.phase,
        s.tracker.fetches.eraseIdx i ++ [{ f with request := (f.request.poll s.session).1 }]⟩ := by
  -- The fallback branch is taken, since `waiting` rules the other one out.
  simp [fetchAt, hf, advanceFetch]

end Scene

end PageCoverage
