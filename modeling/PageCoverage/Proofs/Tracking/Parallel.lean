import PageCoverage.Proofs.Page.Sides
import PageCoverage.Proofs.Tracking.Sharing

namespace PageCoverage

/-- A phase without the place of its attachment. -/
def Phase.bare {K κ : Type} : Phase K κ → Phase K κ
  | .starting options _ batch => .starting options { sink := 0, subscriptions := [] } batch
  | .enabled options _ => .enabled options { sink := 0, subscriptions := [] }
  | p => p

namespace StandIn

variable {s t : StandIn}

/-- The outcome of a poll depends on neither commands nor routing. -/
theorem poll_congr (h : s.bare = t.bare) (r : Request HeldCall) : (r.poll s).1 = (r.poll t).1 := by
  have hbare (s : StandIn) : (r.poll s.bare).1 = (r.poll s).1 := by cases r <;> rfl
  rw [← hbare s, h, hbare]

theorem pollAll_congr (h : s.bare = t.bare) (rs : List (Request HeldCall)) :
    (Request.pollAll s rs).1 = (Request.pollAll t rs).1 := by
  induction rs generalizing s t with
  | nil => rfl
  | cons r rs ih =>
    have hnext : (r.poll s).2.bare = (r.poll t).2.bare := by
      rw [(continues_poll s r).bare, (continues_poll t r).bare, h]
    rw [Request.pollAll_cons, Request.pollAll_cons, poll_congr h r]
    split
    · rfl
    · exact congrArg (_ :: ·) (ih hnext)

theorem touch_congr (h : s.bare = t.bare) (touch : Touch) : (s.touch touch).bare = (t.touch touch).bare := by
  have hbare (s : StandIn) : (s.bare.touch touch).bare = (s.touch touch).bare := by cases touch <;> rfl
  rw [← hbare s, h, hbare]

end StandIn

namespace Scene

open StandIn

variable {K : Type} {s t u v : Scene StandIn K HeldCall} {options : K} {a : Attachment}
  {batch : List (Request HeldCall)}

/-- Two scenes that go on in the same way, apart from the events that wait. -/
structure Parallel (s t : Scene StandIn K HeldCall) : Prop where
  session : s.session.bare = t.session.bare
  cache : s.tracker.cache = t.tracker.cache
  phase : s.tracker.phase.bare = t.tracker.phase.bare
  fetches : s.tracker.fetches = t.tracker.fetches

theorem Parallel.refl (s : Scene StandIn K HeldCall) : Parallel s s := ⟨rfl, rfl, rfl, rfl⟩

theorem Parallel.of_idle (h : Parallel s t) (idle : s.tracker.phase = .idle) : t.tracker.phase = .idle := by
  have hphase := h.phase
  rw [idle] at hphase
  cases ht : t.tracker.phase <;> rw [ht] at hphase <;> cases hphase

theorem Parallel.of_starting (h : Parallel s t) (starting : s.tracker.phase = .starting options a batch) :
    ∃ b, t.tracker.phase = .starting options b batch := by
  have hphase := h.phase
  rw [starting] at hphase
  cases ht : t.tracker.phase <;> rw [ht] at hphase <;> cases hphase
  exact ⟨_, rfl⟩

theorem Parallel.of_enabled (h : Parallel s t) (enabled : s.tracker.phase = .enabled options a) :
    ∃ b, t.tracker.phase = .enabled options b := by
  have hphase := h.phase
  rw [enabled] at hphase
  cases ht : t.tracker.phase <;> rw [ht] at hphase <;> cases hphase
  exact ⟨_, rfl⟩

theorem Parallel.of_stopping (h : Parallel s t) (stopping : s.tracker.phase = .stopping options batch) :
    t.tracker.phase = .stopping options batch := by
  have hphase := h.phase
  rw [stopping] at hphase
  cases ht : t.tracker.phase <;> rw [ht] at hphase <;> cases hphase
  rfl

theorem Parallel.isEnabled (h : Parallel s t) : s.tracker.isEnabled = t.tracker.isEnabled := by
  have hphase := h.phase
  cases hs : s.tracker.phase <;> cases ht : t.tracker.phase <;> rw [hs, ht] at hphase <;>
    first | cases hphase; simp only [Tracker.isEnabled, hs, ht] | cases hphase

theorem Parallel.options? (h : Parallel s t) : s.tracker.options? = t.tracker.options? := by
  have hphase := h.phase
  cases hs : s.tracker.phase <;> cases ht : t.tracker.phase <;> rw [hs, ht] at hphase <;>
    first | cases hphase; simp only [Tracker.options?, hs, ht] | cases hphase

theorem Parallel.attached_iff (h : Parallel s t) :
    s.tracker.attachment?.isSome = t.tracker.attachment?.isSome := by
  have hphase := h.phase
  cases hs : s.tracker.phase <;> cases ht : t.tracker.phase <;> rw [hs, ht] at hphase <;>
    first | cases hphase; simp only [Tracker.attachment?, hs, ht, Option.isSome] | cases hphase

/-- What both sessions go on to is in step if the trackers are. -/
theorem Parallel.continue (h : Parallel s t) (left : s.session.Continues u.session)
    (right : t.session.Continues v.session) (cache : u.tracker.cache = v.tracker.cache)
    (phase : u.tracker.phase.bare = v.tracker.phase.bare) (fetches : u.tracker.fetches = v.tracker.fetches) :
    Parallel u v where
  session := left.bare.trans (h.session.trans right.bare.symm)
  cache := cache
  phase := phase
  fetches := fetches

theorem Parallel.abandon (h : Parallel s t) : Parallel s.abandon t.abandon := by
  by_cases henabled : s.tracker.isEnabled = true
  · obtain ⟨options, a, hs⟩ := Tracker.isEnabled_iff.mp henabled
    obtain ⟨b, ht⟩ := h.of_enabled hs
    rw [abandon_of_enabled hs, abandon_of_enabled ht]
    exact h
  · have hs := tracker_abandon (by simpa using henabled)
    have ht := tracker_abandon (s := t) (by rw [← h.isEnabled]; simpa using henabled)
    refine h.continue (continues_abandon s) (continues_abandon t) ?_ ?_ ?_
    · rw [hs, ht, h.cache]
    · rw [hs, ht]
    · rw [hs, ht, h.fetches]

theorem Parallel.fates (h : Parallel s t) : s.fates = t.fates := by
  cases hs : s.tracker.phase with
  | idle =>
    have ht := h.of_idle hs
    simp only [Scene.fates, hs, ht]
  | starting options a batch =>
    obtain ⟨b, ht⟩ := h.of_starting hs
    simp only [Scene.fates, hs, ht]
    exact pollAll_congr h.session batch
  | enabled options a =>
    obtain ⟨b, ht⟩ := h.of_enabled hs
    simp only [Scene.fates, hs, ht]
  | stopping options batch =>
    have ht := h.of_stopping hs
    simp only [Scene.fates, hs, ht]
    exact pollAll_congr h.session batch

theorem Parallel.polled (h : Parallel s t) : Parallel s.polled t.polled := by
  cases hs : s.tracker.phase with
  | starting options a batch =>
    obtain ⟨b, ht⟩ := h.of_starting hs
    have hs' := polled_of_starting hs
    have ht' := polled_of_starting ht
    refine h.continue (continues_polled s) (continues_polled t) ?_ ?_ ?_
    · rw [hs', ht', h.cache]
    · rw [hs', ht', h.fates]
      rfl
    · rw [hs', ht', h.fetches]
  | stopping options batch =>
    have ht := h.of_stopping hs
    have hs' := polled_of_stopping hs
    have ht' := polled_of_stopping ht
    refine h.continue (continues_polled s) (continues_polled t) ?_ ?_ ?_
    · rw [hs', ht', h.cache]
    · rw [hs', ht', h.fates]
    · rw [hs', ht', h.fetches]
  | idle =>
    have ht := h.of_idle hs
    rw [Scene.polled, Scene.polled, hs, ht]
    exact h
  | enabled options a =>
    obtain ⟨b, ht⟩ := h.of_enabled hs
    rw [Scene.polled, Scene.polled, hs, ht]
    exact h

theorem Parallel.drop (h : Parallel s t) : Parallel s.drop t.drop := by
  have habandon := h.abandon
  by_cases henabled : s.abandon.tracker.isEnabled = true
  · obtain ⟨options, a, hs⟩ := Tracker.isEnabled_iff.mp henabled
    obtain ⟨b, ht⟩ := habandon.of_enabled hs
    have hsdrop : s.drop = (s.abandon.detach a).enter .idle := by simp only [Scene.drop, hs]
    have htdrop : t.drop = (t.abandon.detach b).enter .idle := by simp only [Scene.drop, ht]
    rw [hsdrop, htdrop]
    exact habandon.continue (continues_detach _ a) (continues_detach _ b) habandon.cache rfl habandon.fetches
  · have hnot (s : Scene StandIn K HeldCall) (hs : ¬s.abandon.tracker.isEnabled = true) : s.drop = s.abandon := by
      rw [Scene.drop]
      split
      next hphase => exact absurd (Tracker.isEnabled_iff.mpr ⟨_, _, hphase⟩) hs
      · rfl
    rw [hnot s henabled, hnot t (by rwa [← habandon.isEnabled])]
    exact habandon

/-- What is done to both stand-ins from outside leaves the trackers in step. -/
theorem Parallel.touch (h : Parallel s t) (touch : Touch) (session : u.session = s.session.touch touch)
    (tracker : u.tracker = s.tracker) (session' : v.session = t.session.touch touch)
    (tracker' : v.tracker = t.tracker) : Parallel u v where
  session := by
    rw [session, session']
    exact touch_congr h.session touch
  cache := by rw [tracker, tracker', h.cache]
  phase := by rw [tracker, tracker', h.phase]
  fetches := by rw [tracker, tracker', h.fetches]

variable [Strategy K]

theorem Parallel.beginStart (h : Parallel s t) (options : K) :
    (s.beginStart options).1 = (t.beginStart options).1 ∧
      Parallel (s.beginStart options).2 (t.beginStart options).2 := by
  by_cases henabled : s.tracker.isEnabled = true
  · have henabled' : t.tracker.isEnabled = true := by rw [← h.isEnabled, henabled]
    rw [Scene.beginStart, Scene.beginStart, if_pos henabled, if_pos henabled']
    exact ⟨rfl, h⟩
  · have henabled' : ¬t.tracker.isEnabled = true := by rwa [← h.isEnabled]
    -- What a start makes does not depend on where the new sink stands.
    have hbegun (s : Scene StandIn K HeldCall) (hs : ¬s.tracker.isEnabled = true) :
        (s.beginStart options).1 = .ok () ∧
          (s.beginStart options).2.tracker.cache = s.abandon.tracker.cache.beginSession ∧
          (s.beginStart options).2.tracker.phase.bare =
            .starting options { sink := 0, subscriptions := [] } ((Strategy.enableCommands options).map .unsent) ∧
          (s.beginStart options).2.tracker.fetches = s.abandon.tracker.fetches := by
      rw [Scene.beginStart, if_neg hs]
      exact ⟨rfl, rfl, rfl, rfl⟩
    obtain ⟨hs, hscache, hsphase, hsfetches⟩ := hbegun s henabled
    obtain ⟨ht, htcache, htphase, htfetches⟩ := hbegun t henabled'
    have habandon := h.abandon
    refine ⟨by rw [hs, ht], h.continue (continues_beginStart s options) (continues_beginStart t options) ?_ ?_ ?_⟩
    · rw [hscache, htcache, habandon.cache]
    · rw [hsphase, htphase]
    · rw [hsfetches, htfetches, habandon.fetches]

theorem Parallel.beginStop (h : Parallel s t) :
    s.beginStop.1 = t.beginStop.1 ∧ Parallel s.beginStop.2 t.beginStop.2 := by
  by_cases henabled : s.tracker.isEnabled = true
  · obtain ⟨options, a, hs⟩ := Tracker.isEnabled_iff.mp henabled
    obtain ⟨b, ht⟩ := h.of_enabled hs
    have hsession := continues_beginStop s
    have hsession' := continues_beginStop t
    rw [beginStop_of_phase hs] at hsession ⊢
    rw [beginStop_of_phase ht] at hsession' ⊢
    exact ⟨rfl, h.continue hsession hsession' (congrArg Cache.close h.cache) rfl h.fetches⟩
  · rw [beginStop_of_not_enabled (by simpa using henabled),
      beginStop_of_not_enabled (s := t) (by rw [← h.isEnabled]; simpa using henabled)]
    exact ⟨rfl, h.abandon⟩

theorem Parallel.advance (h : Parallel s t) :
    s.advance.1 = t.advance.1 ∧ Parallel s.advance.2 t.advance.2 := by
  have hpolled := h.polled
  cases hs : s.tracker.phase with
  | idle =>
    rw [advance_of_idle hs, advance_of_idle (h.of_idle hs)]
    exact ⟨rfl, h⟩
  | enabled options a =>
    obtain ⟨b, ht⟩ := h.of_enabled hs
    rw [advance_of_enabled hs, advance_of_enabled ht]
    exact ⟨rfl, h⟩
  | starting options a batch =>
    obtain ⟨b, ht⟩ := h.of_starting hs
    rw [advance_starting hs, advance_starting ht, ← h.fates]
    cases Request.firstFailure? s.fates with
    | some e => exact ⟨rfl, hpolled.abandon⟩
    | none =>
      cases Request.answers? s.fates with
      | none => exact ⟨rfl, hpolled⟩
      | some answers =>
        exact ⟨rfl, hpolled.continue (.refl _) (.refl _) (congrArg Cache.openUp hpolled.cache) rfl hpolled.fetches⟩
  | stopping options batch =>
    have ht := h.of_stopping hs
    rw [advance_stopping hs, advance_stopping ht, ← h.fates]
    cases Request.firstFailure? s.fates with
    | some e =>
      have habandon := hpolled.abandon
      exact ⟨rfl, habandon.continue (.refl _) (.refl _) (congrArg Cache.clear habandon.cache) rfl habandon.fetches⟩
    | none =>
      cases Request.answers? s.fates with
      | none => exact ⟨rfl, hpolled⟩
      | some answers =>
        refine ⟨?_, hpolled.continue (.refl _) (.refl _) (congrArg Cache.clear hpolled.cache) rfl hpolled.fetches⟩
        rw [h.cache]

theorem Parallel.advanceFetch (h : Parallel s t) (f : Fetch K HeldCall) :
    Parallel (s.advanceFetch f) (t.advanceFetch f) := by
  obtain ⟨hs, hsphase⟩ := advanceFetch_frame s f
  obtain ⟨ht, htphase⟩ := advanceFetch_frame t f
  have hpoll := poll_congr h.session f.request
  have htracker : (s.advanceFetch f).tracker.cache = (t.advanceFetch f).tracker.cache ∧
      (s.advanceFetch f).tracker.fetches = (t.advanceFetch f).tracker.fetches := by
    cases hrequest : (f.request.poll s.session).1 with
    | done result =>
      have hrequest' := hpoll.symm.trans hrequest
      simp only [Scene.advanceFetch, hrequest, hrequest', finishFetch]
      cases result.bind (Strategy.sourceText f.options) with
      | error e => exact ⟨h.cache, h.fetches⟩
      | ok source =>
        simp only [h.cache]
        cases t.tracker.cache.insert f.generation ⟨f.resource.id, f.resource.url, source⟩ with
        | mk taken cache => cases taken <;> exact ⟨by first | exact h.cache | rfl, h.fetches⟩
    | _ =>
      have hrequest' := hpoll.symm.trans hrequest
      simp only [Scene.advanceFetch, hrequest, hrequest']
      exact ⟨h.cache, congrArg (· ++ _) h.fetches⟩
  refine h.continue ?_ ?_ htracker.1 ?_ htracker.2
  · rw [hs]
    exact continues_poll _ _
  · rw [ht]
    exact continues_poll _ _
  · rw [hsphase, htphase, h.phase]

theorem Parallel.fetchAt (h : Parallel s t) (i : Nat) : Parallel (s.fetchAt i) (t.fetchAt i) := by
  rw [Scene.fetchAt, Scene.fetchAt, h.fetches]
  cases t.tracker.fetches[i]? with
  | none => exact h
  | some f =>
    exact Parallel.advanceFetch (s := { s with tracker := { s.tracker with fetches := t.tracker.fetches.eraseIdx i } })
      (t := { t with tracker := { t.tracker with fetches := t.tracker.fetches.eraseIdx i } })
      ⟨h.session, h.cache, h.phase, rfl⟩ f

theorem onEvent_congr (cache : s.tracker.cache = t.tracker.cache)
    (fetches : s.tracker.fetches = t.tracker.fetches) (options : K) (e : Event) :
    (s.onEvent options e).tracker.cache = (t.onEvent options e).tracker.cache ∧
      (s.onEvent options e).tracker.fetches = (t.onEvent options e).tracker.fetches := by
  rw [Scene.onEvent, Scene.onEvent]
  split
  · rw [onReset, onReset, cache]
    split
    · split <;> exact ⟨by first | exact cache | rfl, fetches⟩
    · exact ⟨cache, fetches⟩
  · rw [onRegistration, onRegistration, cache]
    split
    · exact ⟨cache, fetches⟩
    · exact ⟨cache, fetches⟩
    · split
      · exact ⟨cache, fetches⟩
      · exact ⟨cache, congrArg (· ++ _) fetches⟩

end Scene

end PageCoverage
