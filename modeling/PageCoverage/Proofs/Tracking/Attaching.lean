import PageCoverage.Proofs.Session.Listening
import PageCoverage.Proofs.Tracking.Steps
import PageCoverage.Proofs.Tracking.Teardown

namespace PageCoverage

namespace Session

variable {σ κ : Type} [Session σ κ] [LawfulSession σ] {s t : σ} {subs : List Subscription}

/-- What feeds a new sink are the listeners that were added for it. -/
theorem owned_of_listeners (wellFormed : (router s).WellFormed)
    (h : (router t).listeners =
      (router (openSink s).2).listeners ++ subs.map (fun sub => ⟨sub.event, sub.id, (openSink s).1⟩)) :
    ∀ l ∈ (router t).feeders (openSink s).1, ⟨l.event, l.id⟩ ∈ subs := by
  intro l hl
  have hnew : (router (openSink s).2).feeders (openSink s).1 = [] := by
    rw [router_openSink]
    exact Router.feeders_openSink wellFormed
  rw [Router.feeders, h, List.filter_append, List.mem_append] at hl
  obtain hold | hadded := hl
  · rw [← Router.feeders, hnew] at hold
    cases hold
  · obtain ⟨sub, hsub, rfl⟩ := List.mem_map.mp (List.mem_of_mem_filter hadded)
    exact hsub

end Session

namespace Scene

variable {σ K κ : Type} [Session σ κ] [Strategy K] {s : Scene σ K κ} {options : K} {a : Attachment}
  {e : CoverageError} {subs : List Subscription} {t : σ}

/-- The subscriptions of a start, on a session with a new sink. -/
def subscriptions (K : Type) [Strategy K] (s : σ) : Except CoverageError (List Subscription × σ) :=
  Session.subscribeAll (Session.openSink s).1 (Strategy.events K) (Session.openSink s).2

section Lawful

variable [LawfulSession σ]

/-- A start that is refused a subscription undoes the ones it has made, and one that has both of them holds
them. -/
theorem attach_cases (s : Scene σ K κ) :
    (∃ e, ∃ made : List Subscription, ∃ u, subscriptions K s.session = .error e ∧
      (Session.router u).listeners = (Session.router (Session.openSink s.session).2).listeners ++
        made.map (fun sub => ⟨sub.event, sub.id, (Session.openSink s.session).1⟩) ∧
      s.attach = (.error e, { s with
        session := Session.closeSink (made.foldl Session.release u) (Session.openSink s.session).1 })) ∨
    ∃ made u, subscriptions K s.session = .ok (made, u) ∧
      s.attach = (.ok { sink := (Session.openSink s.session).1, subscriptions := made }, { s with session := u }) := by
  cases hfirst : Session.subscribe (Session.openSink s.session).2 (Strategy.registrationEvent K)
      (Session.openSink s.session).1 with
  | error e =>
    have hall : subscriptions K s.session = .error e := by
      simp only [subscriptions, Strategy.events, Session.subscribeAll, hfirst]
    refine .inl ⟨e, [], _, hall, (List.append_nil _).symm, ?_⟩
    simp only [attach, hfirst, List.foldl_nil]
  | ok one =>
    obtain ⟨registrations, u⟩ := one
    cases hsecond : Session.subscribe u Event.executionContextsCleared (Session.openSink s.session).1 with
    | error e =>
      have hall : subscriptions K s.session = .error e := by
        simp only [subscriptions, Strategy.events, Session.subscribeAll, hfirst, hsecond, Except.map]
      refine .inl ⟨e, [registrations], u, hall, (Session.listeners_subscribe hfirst).1, ?_⟩
      simp only [attach, hfirst, hsecond, List.foldl_cons, List.foldl_nil]
    | ok both =>
      obtain ⟨resets, v⟩ := both
      have hall : subscriptions K s.session = .ok ([registrations, resets], v) := by
        simp only [subscriptions, Strategy.events, Session.subscribeAll, hfirst, hsecond, Except.map]
      refine .inr ⟨_, v, hall, ?_⟩
      simp only [attach, hfirst, hsecond]

theorem attach_of_refused (h : subscriptions K s.session = .error e) : s.attach = (.error e, s.attach.2) := by
  obtain ⟨e', _, _, hall, -, hattach⟩ | ⟨_, _, hall, -⟩ := attach_cases s
  · rw [h] at hall
    cases hall
    rw [hattach]
  · rw [h] at hall
    cases hall

theorem attach_of_subscribed (h : subscriptions K s.session = .ok (subs, t)) :
    s.attach =
      (.ok { sink := (Session.openSink s.session).1, subscriptions := subs }, { s with session := t }) := by
  obtain ⟨_, _, _, hall, -⟩ | ⟨_, _, hall, hattach⟩ := attach_cases s
  · rw [h] at hall
    cases hall
  · rw [h] at hall
    cases hall
    exact hattach

theorem wellFormed_subscriptions (wellFormed : (Session.router s.session).WellFormed)
    (h : subscriptions K s.session = .ok (subs, t)) : (Session.router t).WellFormed := by
  have hspec := (attach_spec (K := K) (s := s) wellFormed).2.1
  rwa [attach_of_subscribed h] at hspec

/-- A refused start leaves its sink without listeners. -/
theorem unfed_attach (wellFormed : (Session.router s.session).WellFormed)
    (h : subscriptions K s.session = .error e) :
    (Session.router s.attach.2.session).feeders (Session.openSink s.session).1 = [] := by
  obtain ⟨_, made, u, -, hlisteners, hattach⟩ | ⟨_, _, hall, -⟩ := attach_cases s
  · rw [hattach]
    exact Session.feeders_release made (Session.owned_of_listeners wellFormed hlisteners)
  · rw [h] at hall
    cases hall

/-- What feeds a new sink are the subscriptions made for it. -/
theorem owned_subscriptions (wellFormed : (Session.router s.session).WellFormed)
    (h : subscriptions K s.session = .ok (subs, t)) :
    ∀ l ∈ (Session.router t).feeders (Session.openSink s.session).1, ⟨l.event, l.id⟩ ∈ subs :=
  Session.owned_of_listeners wellFormed (Session.listeners_subscribeAll h).1

omit [Strategy K] in
/-- An attachment that is undone leaves no listener behind. -/
theorem unfed_detach (owned : ∀ l ∈ (Session.router s.session).feeders a.sink, ⟨l.event, l.id⟩ ∈ a.subscriptions) :
    (Session.router (s.detach a).session).feeders a.sink = [] :=
  Session.feeders_release a.subscriptions owned

end Lawful

omit [Strategy K] in
theorem abandon_of_idle (idle : s.tracker.phase = .idle) : s.abandon = s := by
  simp only [Scene.abandon, idle]

theorem beginStart_of_refused [LawfulSession σ] (idle : s.tracker.phase = .idle)
    (refused : subscriptions K s.session = .error e) :
    s.beginStart options = (.error e, (s.withCache s.tracker.cache.beginSession).attach.2) := by
  have hnot : s.tracker.isEnabled = false := by simp only [Tracker.isEnabled, idle]
  have hattach := attach_of_refused (s := s.withCache s.tracker.cache.beginSession) refused
  rw [beginStart, if_neg (by simp [hnot])]
  simp only [abandon_of_idle idle]
  rw [hattach]

theorem beginStart_of_subscribed [LawfulSession σ] (idle : s.tracker.phase = .idle)
    (subscribed : subscriptions K s.session = .ok (subs, t)) :
    s.beginStart options =
      (.ok (), { s with session := t, tracker := ⟨s.tracker.cache.beginSession,
        .starting options { sink := (Session.openSink s.session).1, subscriptions := subs }
          ((Strategy.enableCommands options).map .unsent), s.tracker.fetches⟩ }) := by
  have hnot : s.tracker.isEnabled = false := by simp only [Tracker.isEnabled, idle]
  have hattach := attach_of_subscribed (s := s.withCache s.tracker.cache.beginSession) subscribed
  have hbegun : s.beginStart options = (.ok (), { s.withCache s.tracker.cache.beginSession with session := t }.enter
      (.starting options { sink := (Session.openSink s.session).1, subscriptions := subs }
        ((Strategy.enableCommands options).map .unsent))) := by
    rw [beginStart, if_neg (by simp [hnot])]
    simp only [abandon_of_idle idle]
    rw [hattach]
    exact Prod.ext rfl rfl
  exact hbegun

theorem beginStop_of_phase (enabled : s.tracker.phase = .enabled options a) :
    s.beginStop = (.ok (), ((s.detach a).withCache s.tracker.cache.close).enter
      (.stopping options ((stopBatch options).map .unsent))) := by
  simp only [beginStop, enabled]
  rfl

end Scene

end PageCoverage
