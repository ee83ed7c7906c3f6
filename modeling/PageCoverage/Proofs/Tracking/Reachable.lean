import PageCoverage.Proofs.Cache.Latest
import PageCoverage.Proofs.Tracking.Attaching
import PageCoverage.Proofs.Tracking.Polling
import Mathlib.Logic.Relation

namespace PageCoverage

/-- Others change a session without letting anything more into a sink, if one is to be left alone. -/
structure Session.Elsewhere {σ κ : Type} [Session σ κ] (k : Option SinkId) (s t : σ) : Prop where
  wellFormed : (Session.router s).WellFormed → (Session.router t).WellFormed
  listeners : ∀ l ∈ (Session.router t).listeners, some l.sink = k → l ∈ (Session.router s).listeners

namespace Scene

variable {σ K κ : Type} [Session σ κ] [Strategy K]

/-- One step of a tracker or of what surrounds it. A start or a stop may be given up while it waits for
answers, and behind them for the cache; a stop also before it closes the cache, as when the tracker is
dropped. -/
inductive Step : Scene σ K κ → Scene σ K κ → Prop where
  | start (s : Scene σ K κ) (options : K) : Step s (s.beginStart options).2
  | stop (s : Scene σ K κ) : Step s s.beginStop.2
  | advance (s : Scene σ K κ) : Step s s.advance.2
  | abandon (s : Scene σ K κ) : Step s s.abandon
  | abandonPolled (s : Scene σ K κ) : Step s s.polled.abandon
  | drop (s : Scene σ K κ) : Step s s.drop
  | pump (s : Scene σ K κ) : Step s s.pump
  | fetch (s : Scene σ K κ) (i : Nat) : Step s (s.fetchAt i)
  | elsewhere (s : Scene σ K κ) (t : σ) :
    Session.Elsewhere (s.tracker.attachment?.map Attachment.sink) s.session t → Step s { s with session := t }

/-- What holds of a tracker in every state. -/
structure Sound (s : Scene σ K κ) : Prop where
  wellFormed : (Session.router s.session).WellFormed
  indexed : s.tracker.cache.Indexed
  /-- What feeds the tracker's sink is released with its subscriptions. -/
  owned : ∀ a, s.tracker.attachment? = some a → ∀ l ∈ (Session.router s.session).feeders a.sink,
    ⟨l.event, l.id⟩ ∈ a.subscriptions
  starting : ∀ options a batch, s.tracker.phase = .starting options a batch →
    s.tracker.cache.accepting = false ∧ s.tracker.cache.records = [] ∧
      List.Forall₂ (Request.Of σ) (Strategy.enableCommands options) batch
  stopping : ∀ options batch, s.tracker.phase = .stopping options batch →
    s.tracker.cache.accepting = false ∧ List.Forall₂ (Request.Of σ) (stopBatch options) batch

/-- Nothing is going on, and nothing feeds a sink. -/
structure Gone (s : Scene σ K κ) (k : SinkId) : Prop where
  idle : s.tracker.phase = .idle
  unfed : (Session.router s.session).feeders k = []

section Sound

variable {s t : Scene σ K κ} {options : K} {a : Attachment} {batch : List (Request κ)}

theorem sound_of_idle (wellFormed : (Session.router s.session).WellFormed) (indexed : s.tracker.cache.Indexed)
    (idle : s.tracker.phase = .idle) : Sound s where
  wellFormed := wellFormed
  indexed := indexed
  owned a ha := by simp [Tracker.attachment?, idle] at ha
  starting _ _ _ h := by simp [idle] at h
  stopping _ _ h := by simp [idle] at h

theorem sound_of_starting (wellFormed : (Session.router s.session).WellFormed)
    (indexed : s.tracker.cache.Indexed) (starting : s.tracker.phase = .starting options a batch)
    (owned : ∀ l ∈ (Session.router s.session).feeders a.sink, ⟨l.event, l.id⟩ ∈ a.subscriptions)
    (closed : s.tracker.cache.accepting = false) (empty : s.tracker.cache.records = [])
    (commands : List.Forall₂ (Request.Of σ) (Strategy.enableCommands options) batch) : Sound s where
  wellFormed := wellFormed
  indexed := indexed
  owned b hb := by
    simp only [Tracker.attachment?, starting, Option.some.injEq] at hb
    exact hb ▸ owned
  starting _ _ _ h := by
    rw [starting] at h
    cases h
    exact ⟨closed, empty, commands⟩
  stopping _ _ h := by simp [starting] at h

theorem sound_of_enabled (wellFormed : (Session.router s.session).WellFormed)
    (indexed : s.tracker.cache.Indexed) (enabled : s.tracker.phase = .enabled options a)
    (owned : ∀ l ∈ (Session.router s.session).feeders a.sink, ⟨l.event, l.id⟩ ∈ a.subscriptions) :
    Sound s where
  wellFormed := wellFormed
  indexed := indexed
  owned b hb := by
    simp only [Tracker.attachment?, enabled, Option.some.injEq] at hb
    exact hb ▸ owned
  starting _ _ _ h := by simp [enabled] at h
  stopping _ _ h := by simp [enabled] at h

theorem sound_of_stopping (wellFormed : (Session.router s.session).WellFormed)
    (indexed : s.tracker.cache.Indexed) (stopping : s.tracker.phase = .stopping options batch)
    (closed : s.tracker.cache.accepting = false)
    (commands : List.Forall₂ (Request.Of σ) (stopBatch options) batch) : Sound s where
  wellFormed := wellFormed
  indexed := indexed
  owned b hb := by simp [Tracker.attachment?, stopping] at hb
  starting _ _ _ h := by simp [stopping] at h
  stopping _ _ h := by
    rw [stopping] at h
    cases h
    exact ⟨closed, commands⟩

/-- A step that leaves the phase, and the cache unless it is open, changes nothing that matters. -/
theorem Sound.of_phase (h : Sound s) (phase : t.tracker.phase = s.tracker.phase)
    (wellFormed : (Session.router t.session).WellFormed) (indexed : t.tracker.cache.Indexed)
    (closed : s.tracker.cache.accepting = false → t.tracker.cache = s.tracker.cache)
    (listeners : ∀ a, s.tracker.attachment? = some a →
      ∀ l ∈ (Session.router t.session).feeders a.sink, l ∈ (Session.router s.session).feeders a.sink) :
    Sound t where
  wellFormed := wellFormed
  indexed := indexed
  owned a ha l hl := by
    have hs : s.tracker.attachment? = some a := by
      rwa [Tracker.attachment?, phase] at ha
    exact h.owned a hs l (listeners a hs l hl)
  starting options a batch ht := by
    obtain ⟨hclosed, hempty, hbatch⟩ := h.starting options a batch (phase ▸ ht)
    rw [closed hclosed]
    exact ⟨hclosed, hempty, hbatch⟩
  stopping options batch ht := by
    obtain ⟨hclosed, hbatch⟩ := h.stopping options batch (phase ▸ ht)
    rw [closed hclosed]
    exact ⟨hclosed, hbatch⟩

theorem Sound.owned_of_starting (h : Sound s) (starting : s.tracker.phase = .starting options a batch) :
    ∀ l ∈ (Session.router s.session).feeders a.sink, ⟨l.event, l.id⟩ ∈ a.subscriptions :=
  h.owned a (by simp only [Tracker.attachment?, starting])

theorem Sound.owned_of_enabled (h : Sound s) (enabled : s.tracker.phase = .enabled options a) :
    ∀ l ∈ (Session.router s.session).feeders a.sink, ⟨l.event, l.id⟩ ∈ a.subscriptions :=
  h.owned a (by simp only [Tracker.attachment?, enabled])

theorem Sound.commands_of_starting (h : Sound s) (starting : s.tracker.phase = .starting options a batch) :
    List.Forall₂ (Request.Of σ) (Strategy.enableCommands options) s.fates := by
  obtain ⟨-, -, hbatch⟩ := h.starting options a batch starting
  simp only [fates, starting]
  exact Request.forall₂_pollAll hbatch s.session

theorem Sound.commands_of_stopping (h : Sound s) (stopping : s.tracker.phase = .stopping options batch) :
    List.Forall₂ (Request.Of σ) (stopBatch options) s.fates := by
  obtain ⟨-, hbatch⟩ := h.stopping options batch stopping
  simp only [fates, stopping]
  exact Request.forall₂_pollAll hbatch s.session

end Sound

section Preservation

variable [LawfulSession σ] {s t : Scene σ K κ} {options : K} {a : Attachment} {batch : List (Request κ)}

/-- A poll from which nothing is concluded. -/
theorem Sound.of_polled (h : Sound s) : Sound s.polled := by
  have hrouter := router_polled s
  have hwell : (Session.router s.polled.session).WellFormed := by
    rw [hrouter]
    exact h.wellFormed
  cases hphase : s.tracker.phase with
  | starting options a batch =>
    have htracker := polled_of_starting hphase
    obtain ⟨hclosed, hempty, -⟩ := h.starting options a batch hphase
    have hstarting : s.polled.tracker.phase = .starting options a s.fates := by rw [htracker]
    refine sound_of_starting hwell ?_ hstarting ?_ ?_ ?_ (h.commands_of_starting hphase)
    · rw [htracker]
      exact h.indexed
    · rw [hrouter]
      exact h.owned_of_starting hphase
    · rw [htracker]
      exact hclosed
    · rw [htracker]
      exact hempty
  | stopping options batch =>
    have htracker := polled_of_stopping hphase
    obtain ⟨hclosed, -⟩ := h.stopping options batch hphase
    have hstopping : s.polled.tracker.phase = .stopping options s.fates := by rw [htracker]
    refine sound_of_stopping hwell ?_ hstopping ?_ (h.commands_of_stopping hphase)
    · rw [htracker]
      exact h.indexed
    · rw [htracker]
      exact hclosed
  | _ =>
    have hsame : s.polled = s := by simp only [polled, hphase]
    rw [hsame]
    exact h

theorem Sound.gone_abandon (h : Sound s) (starting : s.tracker.phase = .starting options a batch) :
    Gone s.abandon a.sink := by
  let given : Scene σ K κ := { s with session := Request.cancelAll s.session batch }
  have hgiven : s.abandon = (given.detach a).enter .idle := by simp only [abandon, starting, given]
  have howned : ∀ l ∈ (Session.router given.session).feeders a.sink, ⟨l.event, l.id⟩ ∈ a.subscriptions := by
    rw [Request.router_cancelAll]
    exact h.owned_of_starting starting
  rw [hgiven]
  exact ⟨rfl, unfed_detach howned⟩

theorem Sound.gone_drop (h : Sound s) (enabled : s.tracker.phase = .enabled options a) : Gone s.drop a.sink := by
  have hdrop : s.drop = (s.detach a).enter .idle := by simp only [drop, abandon, enabled]
  rw [hdrop]
  exact ⟨rfl, unfed_detach (h.owned_of_enabled enabled)⟩

theorem Sound.abandon (h : Sound s) : Sound s.abandon := by
  cases henabled : s.tracker.isEnabled with
  | false =>
    have htracker := tracker_abandon henabled
    refine sound_of_idle (wellFormed_abandon h.wellFormed) ?_ (by rw [htracker])
    rw [htracker]
    exact h.indexed
  | true =>
    obtain ⟨options, a, hphase⟩ := Tracker.isEnabled_iff.mp henabled
    rw [abandon_of_enabled hphase]
    exact h

theorem Sound.drop (h : Sound s) : Sound s.drop := by
  cases hphase : s.tracker.phase with
  | enabled options a =>
    have hdrop : s.drop = (s.detach a).enter .idle := by simp only [Scene.drop, Scene.abandon, hphase]
    rw [hdrop]
    exact sound_of_idle (wellFormed_detach h.wellFormed a) h.indexed rfl
  | _ =>
    have hidle : s.abandon.tracker.phase = .idle := by
      rw [tracker_abandon (by simp [Tracker.isEnabled, hphase])]
    have hdrop : s.drop = s.abandon := by simp only [Scene.drop, hidle]
    rw [hdrop]
    exact h.abandon

/-- A start on an idle tracker is refused, or it begins to collect anew. -/
theorem Sound.start_of_idle (h : Sound s) (idle : s.tracker.phase = .idle) (options : K) :
    Sound (s.beginStart options).2 := by
  have hwell : (Session.router s.session).WellFormed := h.wellFormed
  have hindexed : s.tracker.cache.beginSession.Indexed := Cache.indexed_clear s.tracker.cache
  cases hsubscribed : subscriptions K s.session with
  | error e =>
    -- `beginStart_spec` also has the start that goes on, which a refusal excludes.
    have hnot : s.tracker.isEnabled = false := by simp only [Tracker.isEnabled, idle]
    obtain ⟨hkept, ⟨_, -, htracker⟩ | ⟨_, hok, -⟩⟩ := beginStart_spec hwell hnot options
    · refine sound_of_idle hkept ?_ (by rw [htracker])
      rw [htracker]
      exact hindexed
    · rw [beginStart_of_refused idle hsubscribed] at hok
      cases hok
  | ok begun =>
    obtain ⟨subs, u⟩ := begun
    rw [beginStart_of_subscribed idle hsubscribed]
    exact sound_of_starting (wellFormed_subscriptions hwell hsubscribed) hindexed rfl
      (owned_subscriptions hwell hsubscribed) rfl rfl (Request.forall₂_unsent _)

theorem Sound.start (h : Sound s) (options : K) : Sound (s.beginStart options).2 := by
  cases henabled : s.tracker.isEnabled with
  | true =>
    have hrefused : s.beginStart options = (.error (.alreadyEnabled (Strategy.kind K)), s) := by
      rw [beginStart, if_pos henabled]
    rw [hrefused]
    exact h
  | false =>
    -- A start that had not ended is given up first.
    have htracker := tracker_abandon henabled
    have hidle : s.abandon.tracker.phase = .idle := by rw [htracker]
    have hnot : s.abandon.tracker.isEnabled = false := by simp only [Tracker.isEnabled, hidle]
    have hsame : s.beginStart options = s.abandon.beginStart options := by
      simp only [beginStart, henabled, hnot, abandon_of_idle hidle, Bool.false_eq_true, if_false]
    rw [hsame]
    exact h.abandon.start_of_idle hidle options

theorem Sound.stop (h : Sound s) : Sound s.beginStop.2 := by
  cases henabled : s.tracker.isEnabled with
  | false =>
    rw [beginStop_of_not_enabled henabled]
    exact h.abandon
  | true =>
    obtain ⟨options, a, hphase⟩ := Tracker.isEnabled_iff.mp henabled
    rw [beginStop_of_phase hphase]
    exact sound_of_stopping (wellFormed_detach h.wellFormed a) h.indexed rfl rfl (Request.forall₂_unsent _)

theorem Sound.advance (h : Sound s) : Sound s.advance.2 := by
  have hpolled := h.of_polled
  cases hphase : s.tracker.phase with
  | starting options a batch =>
    have htracker := polled_of_starting hphase
    have hstarting : s.polled.tracker.phase = .starting options a s.fates := by rw [htracker]
    rw [advance_starting hphase]
    split
    · exact hpolled.abandon
    · split
      · exact sound_of_enabled hpolled.wellFormed hpolled.indexed rfl (hpolled.owned_of_starting hstarting)
      · exact hpolled
  | stopping options batch =>
    rw [advance_stopping hphase]
    split
    · exact sound_of_idle hpolled.abandon.wellFormed (Cache.indexed_clear _) rfl
    · split
      · exact sound_of_idle hpolled.wellFormed (Cache.indexed_clear _) rfl
      · exact hpolled
  | idle =>
    rw [advance_of_idle hphase]
    exact h
  | enabled options a =>
    rw [advance_of_enabled hphase]
    exact h

omit [Session σ κ] [LawfulSession σ] in
theorem indexed_onEvent {e : Event} (indexed : s.tracker.cache.Indexed) :
    (s.onEvent options e).tracker.cache.Indexed := by
  rw [onEvent]
  split
  · rw [onReset]
    split
    · rw [Cache.reset]
      split
      next hreset =>
        split at hreset
        · cases hreset
          exact Cache.indexed_clear s.tracker.cache
        · cases hreset
      · exact indexed
    · exact indexed
  · rw [onRegistration]
    split
    · exact indexed
    · exact indexed
    · split <;> exact indexed

theorem Sound.pump (h : Sound s) : Sound s.pump := by
  cases hnext : s.next? with
  | none =>
    obtain hsame | ⟨options, a, hphase, -, hunfed, hsession, htracker⟩ := pump_of_next?_eq_none hnext
    · rw [hsame]
      exact h
    · have hrouter : Session.router s.pump.session = (Session.router s.session).closeSink a.sink := by
        rw [hsession, Session.router_closeSink]
      have henabled : s.pump.tracker.phase = .enabled options { a with reading := false } := by rw [htracker]
      refine sound_of_enabled ?_ ?_ henabled ?_
      · rw [hrouter]
        exact Router.wellFormed_closeSink h.wellFormed a.sink
      · rw [htracker]
        exact h.indexed
      · rw [hrouter]
        exact Sound.owned_of_enabled (a := a) h hphase
  | some e =>
    obtain ⟨options, a, rest, taken, hphase, hqueue, htracker, hsession, hpump⟩ := pump_of_next? hnext
    obtain ⟨hkept, hsame⟩ := onEvent_frame taken options e
    have hlisteners : (Session.router s.pump.session).listeners = (Session.router s.session).listeners ∧
        (Session.router s.pump.session).sinks.length = (Session.router s.session).sinks.length := by
      rw [hpump, hkept, hsession, LawfulSession.router_withRouter, Router.take_of_queue_cons hqueue]
      exact ⟨rfl, List.length_modify ..⟩
    have henabled : s.pump.tracker.phase = .enabled options a := by
      rw [hpump, hsame, htracker]
      exact hphase
    -- Taking an event changes a queue and leaves all listeners.
    refine sound_of_enabled ?_ ?_ henabled ?_
    · intro l hl
      rw [hlisteners.1] at hl
      rw [hlisteners.2]
      exact h.wellFormed l hl
    · rw [hpump]
      refine indexed_onEvent ?_
      rw [htracker]
      exact h.indexed
    · rw [Router.feeders, hlisteners.1]
      exact h.owned_of_enabled hphase

omit [LawfulSession σ] in
/-- A fetch changes the cache at most, and that only while it is open. -/
theorem tracker_fetchAt (s : Scene σ K κ) (i : Nat) :
    (s.fetchAt i).tracker.phase = s.tracker.phase ∧
      (s.tracker.cache.Indexed → (s.fetchAt i).tracker.cache.Indexed) ∧
      (s.tracker.cache.accepting = false → (s.fetchAt i).tracker.cache = s.tracker.cache) := by
  cases hf : s.tracker.fetches[i]? with
  | none =>
    have hsame : s.fetchAt i = s := by simp only [fetchAt, hf]
    rw [hsame]
    exact ⟨rfl, id, fun _ => rfl⟩
  | some f =>
    by_cases hdone : ∃ result, (f.request.poll s.session).1 = .done result
    · obtain ⟨result, hresult⟩ := hdone
      obtain ⟨-, htracker⟩ := fetchAt_of_done hf hresult
      rw [htracker]
      refine ⟨rfl, ?_, ?_⟩
      · intro hindexed
        cases result.bind (Strategy.sourceText f.options) with
        | ok source => exact Cache.indexed_insert hindexed _ _
        | error e => exact hindexed
      · intro hclosed
        cases result.bind (Strategy.sourceText f.options) with
        | ok source => exact Cache.insert_of_refused (.inl hclosed) _
        | error e => rfl
    · obtain ⟨-, htracker⟩ := fetchAt_of_waiting hf (not_exists.mp hdone)
      rw [htracker]
      exact ⟨rfl, id, fun _ => rfl⟩

theorem router_fetchAt (s : Scene σ K κ) (i : Nat) :
    Session.router (s.fetchAt i).session = Session.router s.session := by
  cases hf : s.tracker.fetches[i]? with
  | none => simp only [fetchAt, hf]
  | some f =>
    have hrouter := Request.router_poll s.session f.request
    by_cases hdone : ∃ result, (f.request.poll s.session).1 = .done result
    · obtain ⟨result, hresult⟩ := hdone
      rw [(fetchAt_of_done hf hresult).1, hrouter]
    · rw [(fetchAt_of_waiting hf (not_exists.mp hdone)).1, hrouter]

theorem Sound.fetch (h : Sound s) (i : Nat) : Sound (s.fetchAt i) := by
  obtain ⟨hphase, hindexed, hclosed⟩ := tracker_fetchAt s i
  have hrouter := router_fetchAt s i
  refine h.of_phase hphase ?_ (hindexed h.indexed) hclosed ?_
  · rw [hrouter]
    exact h.wellFormed
  · rw [hrouter]
    exact fun _ _ _ => id

omit [LawfulSession σ] in
/-- Others on the session do not reach the tracker's sink. -/
theorem Sound.elsewhere (h : Sound s) {k : Option SinkId} {u : σ} (elsewhere : Session.Elsewhere k s.session u)
    (sink : ∀ a, s.tracker.attachment? = some a → k = some a.sink) : Sound { s with session := u } := by
  refine h.of_phase rfl (elsewhere.wellFormed h.wellFormed) h.indexed (fun _ => rfl) ?_
  intro a ha l hl
  obtain ⟨hl, hfeeds⟩ := List.mem_filter.mp hl
  have hsink : some l.sink = k := by rw [sink a ha, beq_iff_eq.mp hfeeds]
  exact List.mem_filter.mpr ⟨elsewhere.listeners l hl hsink, hfeeds⟩

theorem Sound.step (h : Sound s) (step : Step s t) : Sound t := by
  cases step with
  | start options => exact h.start options
  | stop => exact h.stop
  | advance => exact h.advance
  | abandon => exact h.abandon
  | abandonPolled => exact h.of_polled.abandon
  | drop => exact h.drop
  | pump => exact h.pump
  | fetch i => exact h.fetch i
  | elsewhere u elsewhere =>
    refine h.elsewhere elsewhere fun a ha => ?_
    rw [ha]
    rfl

/-- The tracker has been new on some session, and steps have led here. -/
def Reachable (s : Scene σ K κ) : Prop :=
  ∃ session : σ, (Session.router session).WellFormed ∧
    Relation.ReflTransGen Step { session, tracker := {} } s

theorem Reachable.sound (reachable : Reachable s) : Sound s := by
  obtain ⟨session, hwell, steps⟩ := reachable
  induction steps with
  | refl => exact sound_of_idle hwell (Cache.indexed_clear {}) rfl
  | tail _ step ih => exact ih.step step

end Preservation

end Scene

end PageCoverage
