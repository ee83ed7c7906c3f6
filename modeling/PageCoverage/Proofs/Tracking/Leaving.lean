import PageCoverage.Proofs.Tracking.Reachable

namespace PageCoverage

/-- The sink that a tracker listens on. -/
def Tracker.sink? {K κ : Type} (t : Tracker K κ) : Option SinkId := t.attachment?.map Attachment.sink

namespace Tracker

variable {K κ : Type} {t u : Tracker K κ} {options : K} {a : Attachment} {batch : List (Request κ)}

theorem sink?_of_phase (phase : u.phase = t.phase) : u.sink? = t.sink? := by
  simp only [sink?, attachment?, phase]

theorem sink?_of_idle (idle : t.phase = .idle) : t.sink? = none := by
  simp only [sink?, attachment?, idle, Option.map_none]

theorem sink?_of_starting (starting : t.phase = .starting options a batch) : t.sink? = some a.sink := by
  simp only [sink?, attachment?, starting, Option.map_some]

theorem sink?_of_enabled (enabled : t.phase = .enabled options a) : t.sink? = some a.sink := by
  simp only [sink?, attachment?, enabled, Option.map_some]

theorem sink?_of_stopping (stopping : t.phase = .stopping options batch) : t.sink? = none := by
  simp only [sink?, attachment?, stopping, Option.map_none]

end Tracker

namespace Session

variable {σ κ : Type} [Session σ κ]

/-- The number of sinks that have been opened on a session. -/
def opened (s : σ) : Nat := (router s).sinks.length

/-- Listeners are added on new sinks only, and no sink is forgotten. -/
structure Extends (s t : σ) : Prop where
  opened : opened s ≤ opened t
  listeners : ∀ l ∈ (router t).listeners, l ∈ (router s).listeners ∨ Session.opened s ≤ l.sink

theorem Extends.refl (s : σ) : Extends s s := ⟨Nat.le_refl _, fun _ => .inl⟩

theorem Extends.trans {s t u : σ} (h : Extends s t) (h' : Extends t u) : Extends s u where
  opened := Nat.le_trans h.opened h'.opened
  listeners l hl := by
    obtain hold | hnew := h'.listeners l hl
    · exact h.listeners l hold
    · exact .inr (Nat.le_trans h.opened hnew)

theorem Extends.of_router {s t : σ} (listeners : (router t).listeners ⊆ (router s).listeners)
    (sinks : (router t).sinks.length = (router s).sinks.length) : Extends s t where
  opened := Nat.le_of_eq sinks.symm
  listeners _ hl := .inl (listeners hl)

/-- The listeners of an old sink have been there before. -/
theorem Extends.feeders {s t : σ} (h : Extends s t) {k : SinkId} (old : k < Session.opened s) :
    ∀ l ∈ (router t).feeders k, l ∈ (router s).feeders k := by
  intro l hl
  obtain ⟨hl, hk⟩ := List.mem_filter.mp hl
  obtain hthere | hnew := h.listeners l hl
  · exact List.mem_filter.mpr ⟨hthere, hk⟩
  · rw [beq_iff_eq.mp hk] at hnew
    exact absurd hnew (Nat.not_le_of_lt old)

theorem Extends.unfed {s t : σ} (h : Extends s t) {k : SinkId} (old : k < Session.opened s)
    (unfed : (router s).feeders k = []) : (router t).feeders k = [] :=
  List.eq_nil_iff_forall_not_mem.mpr fun l hl => by
    have hthere := h.feeders old l hl
    rw [unfed] at hthere
    cases hthere

theorem sinks_foldl_release [LawfulSession σ] (subs : List Subscription) (s : σ) :
    (router (subs.foldl release s)).sinks = (router s).sinks := by
  induction subs generalizing s with
  | nil => rfl
  | cons sub subs ih => rw [List.foldl_cons, ih, router_release, Router.release]

/-- Nothing feeds a sink that has not been opened. -/
theorem unfed_of_unopened {s : σ} (wellFormed : (router s).WellFormed) {k : SinkId} (h : opened s ≤ k) :
    (router s).feeders k = [] := by
  rw [Router.feeders, List.filter_eq_nil_iff]
  intro l hl
  exact mt beq_iff_eq.mp (Nat.ne_of_lt (Nat.lt_of_lt_of_le (wellFormed l hl) h))

end Session

namespace Scene

variable {σ K κ : Type} [Session σ κ] [Strategy K]

/-- The work of a tracker, as the session sees it. -/
structure Works (s t : Scene σ K κ) : Prop where
  grown : Session.Extends s.session t.session
  taken : ∀ k, t.tracker.sink? = some k →
    s.tracker.sink? = some k ∨ Session.opened s.session ≤ k ∧ k < Session.opened t.session
  /-- A sink that is let go of, or one that has been opened in vain. -/
  left : ∀ k, s.tracker.sink? = some k ∨ Session.opened s.session ≤ k → t.tracker.sink? ≠ some k →
    (Session.router t.session).feeders k = []

variable {s t u : Scene σ K κ} {options : K} {a : Attachment} {batch : List (Request κ)}

section

omit [Strategy K]

theorem Works.trans (h : Works s t) (h' : Works t u) : Works s u where
  grown := h.grown.trans h'.grown
  taken k hk := by
    have hgrown := h.grown.opened
    obtain hk | ⟨hlow, hhigh⟩ := h'.taken k hk
    · obtain hs | ⟨hlow, hhigh⟩ := h.taken k hk
      · exact .inl hs
      · exact .inr ⟨hlow, Nat.lt_of_lt_of_le hhigh h'.grown.opened⟩
    · exact .inr ⟨Nat.le_trans hgrown hlow, hhigh⟩
  left k hk hu := by
    by_cases ht : t.tracker.sink? = some k
    · exact h'.left k (.inl ht) hu
    by_cases hnew : Session.opened t.session ≤ k
    · exact h'.left k (.inr hnew) hu
    · exact h'.grown.unfed (Nat.lt_of_not_le hnew) (h.left k hk ht)

/-- Work that opens no sink keeps the one that the tracker has or leaves it without listeners. -/
theorem works_of_router (wellFormed : (Session.router s.session).WellFormed)
    (listeners : (Session.router t.session).listeners ⊆ (Session.router s.session).listeners)
    (sinks : (Session.router t.session).sinks.length = (Session.router s.session).sinks.length)
    (kept : t.tracker.sink? = s.tracker.sink? ∨ t.tracker.sink? = none ∧
      ∀ k, s.tracker.sink? = some k → (Session.router t.session).feeders k = []) : Works s t where
  grown := .of_router listeners sinks
  taken k hk := by
    obtain hsame | ⟨hnone, -⟩ := kept
    · exact .inl (hsame ▸ hk)
    · rw [hnone] at hk
      cases hk
  left k hk ht := by
    obtain hs | hnew := hk
    · obtain hsame | ⟨-, hunfed⟩ := kept
      · exact absurd (hsame.trans hs) ht
      · exact hunfed k hs
    · refine Session.unfed_of_unopened (fun l hl => ?_) (Nat.le_trans (Nat.le_of_eq sinks) hnew)
      rw [sinks]
      exact wellFormed l (listeners hl)

/-- Work that changes neither the router nor the phase. -/
theorem works_of_same (wellFormed : (Session.router s.session).WellFormed)
    (router : Session.router t.session = Session.router s.session) (sink : t.tracker.sink? = s.tracker.sink?) :
    Works s t :=
  works_of_router wellFormed (by rw [router]; exact List.Subset.refl _) (by rw [router]) (.inl sink)

end

variable [LawfulSession σ]

/-- Work at whose end the tracker has undone its subscriptions. -/
theorem works_of_detached (h : Sound s) (attached : s.tracker.attachment? = some a)
    (session : t.session = (s.detach a).session) (detached : t.tracker.sink? = none) : Works s t := by
  have hlisteners : (Session.router (s.detach a).session).listeners ⊆ (Session.router s.session).listeners := by
    rw [detach, Session.router_closeSink, Router.closeSink, Session.listeners_foldl_release]
    exact List.filter_subset_self _
  have hsinks : (Session.router (s.detach a).session).sinks.length = (Session.router s.session).sinks.length := by
    rw [detach, Session.router_closeSink, Router.closeSink, List.length_modify, Session.sinks_foldl_release]
  refine works_of_router h.wellFormed (session ▸ hlisteners) (session ▸ hsinks) (.inr ⟨detached, fun k hk => ?_⟩)
  simp only [Tracker.sink?, attached, Option.map_some, Option.some.injEq] at hk
  rw [session, ← hk]
  exact unfed_detach (h.owned a attached)

theorem works_abandon (h : Sound s) : Works s s.abandon := by
  cases hphase : s.tracker.phase with
  | starting options a batch =>
    let given : Scene σ K κ := { s with session := Request.cancelAll s.session batch }
    have hrouter : Session.router given.session = Session.router s.session := Request.router_cancelAll ..
    have hgiven : Sound given :=
      h.elsewhere (k := some a.sink) ⟨by rw [hrouter]; exact id, by rw [hrouter]; exact fun _ hl _ => hl⟩
        fun b hb => by simp only [Tracker.attachment?, hphase, Option.some.injEq] at hb; rw [hb]
    have hworks : Works s given := works_of_same h.wellFormed hrouter rfl
    have hattached : given.tracker.attachment? = some a := by simp only [given, Tracker.attachment?, hphase]
    refine hworks.trans (works_of_detached hgiven hattached ?_ ?_)
    · simp only [abandon, hphase]
      rfl
    · refine Tracker.sink?_of_idle ?_
      simp only [abandon, hphase]
      rfl
  | stopping options batch =>
    have hsession : s.abandon.session = Request.cancelAll s.session batch := by
      simp only [abandon, hphase]
      rfl
    have hidle : s.abandon.tracker.phase = .idle := by
      simp only [abandon, hphase]
      rfl
    refine works_of_same h.wellFormed ?_ ?_
    · rw [hsession, Request.router_cancelAll]
    · rw [Tracker.sink?_of_idle hidle, Tracker.sink?_of_stopping hphase]
  | _ =>
    have hsame : s.abandon = s := by simp only [abandon, hphase]
    rw [hsame]
    exact works_of_same h.wellFormed rfl rfl

theorem works_polled (h : Sound s) : Works s s.polled := by
  refine works_of_same h.wellFormed (router_polled s) ?_
  cases hphase : s.tracker.phase with
  | starting options a batch =>
    rw [Tracker.sink?_of_starting hphase, polled_of_starting hphase]
    rfl
  | stopping options batch =>
    rw [Tracker.sink?_of_stopping hphase, polled_of_stopping hphase]
    rfl
  | _ =>
    have hsame : s.polled = s := by simp only [polled, hphase]
    rw [hsame]

theorem works_advance (h : Sound s) : Works s s.advance.2 := by
  have hpolled := works_polled h
  have hsound := h.of_polled
  cases hphase : s.tracker.phase with
  | starting options a batch =>
    have hstarting : s.polled.tracker.phase = .starting options a s.fates := by rw [polled_of_starting hphase]
    rw [advance_starting hphase]
    split
    · exact hpolled.trans (works_abandon hsound)
    · split
      · refine hpolled.trans (works_of_same hsound.wellFormed rfl ?_)
        rw [Tracker.sink?_of_starting hstarting]
        rfl
      · exact hpolled
  | stopping options batch =>
    have hstopping : s.polled.tracker.phase = .stopping options s.fates := by rw [polled_of_stopping hphase]
    have hdetached := Tracker.sink?_of_stopping hstopping
    rw [advance_stopping hphase]
    split
    · have hgiven := works_abandon hsound
      have hidle : s.polled.abandon.tracker.phase = .idle := by
        rw [tracker_abandon (by simp only [Tracker.isEnabled, hstopping])]
      refine (hpolled.trans hgiven).trans (works_of_same hsound.abandon.wellFormed rfl ?_)
      rw [Tracker.sink?_of_idle hidle]
      rfl
    · split
      · refine hpolled.trans (works_of_same hsound.wellFormed rfl ?_)
        rw [hdetached]
        rfl
      · exact hpolled
  | idle =>
    rw [advance_of_idle hphase]
    exact works_of_same h.wellFormed rfl rfl
  | enabled options a =>
    rw [advance_of_enabled hphase]
    exact works_of_same h.wellFormed rfl rfl

theorem works_beginStop (h : Sound s) : Works s s.beginStop.2 := by
  cases henabled : s.tracker.isEnabled with
  | false =>
    rw [beginStop_of_not_enabled henabled]
    exact works_abandon h
  | true =>
    obtain ⟨options, a, hphase⟩ := Tracker.isEnabled_iff.mp henabled
    rw [beginStop_of_phase hphase]
    exact works_of_detached (a := a) h (by simp only [Tracker.attachment?, hphase]) rfl rfl

theorem opened_attach (s : Scene σ K κ) :
    Session.opened s.attach.2.session = Session.opened s.session + 1 := by
  have hopened : Session.opened (Session.openSink s.session).2 = Session.opened s.session + 1 := by
    rw [Session.opened, Session.router_openSink]
    exact List.length_append
  have hclosed (u : σ) (k : SinkId) : Session.opened (Session.closeSink u k) = Session.opened u := by
    rw [Session.opened, Session.router_closeSink, Router.closeSink, List.length_modify]
    rfl
  have hreleased (u : σ) (sub : Subscription) : Session.opened (Session.release u sub) = Session.opened u := by
    rw [Session.opened, Session.router_release]
    rfl
  cases hfirst : Session.subscribe (Session.openSink s.session).2 (Strategy.registrationEvent K)
      (Session.openSink s.session).1 with
  | error e =>
    simp only [attach, hfirst, hclosed, hopened]
  | ok one =>
    obtain ⟨registrations, u⟩ := one
    have hone : Session.opened u = Session.opened s.session + 1 := by
      rw [Session.opened, (Session.listeners_subscribe hfirst).2]
      exact hopened
    cases hsecond : Session.subscribe u Event.executionContextsCleared (Session.openSink s.session).1 with
    | error e => simp only [attach, hfirst, hsecond, hclosed, hreleased, hone]
    | ok both =>
      have hboth : Session.opened both.2 = Session.opened u :=
        congrArg List.length (Session.listeners_subscribe hsecond).2
      simp only [attach, hfirst, hsecond, hboth, hone]

theorem extends_attach (s : Scene σ K κ) : Session.Extends s.session s.attach.2.session where
  opened := by
    rw [opened_attach]
    exact Nat.le_succ _
  listeners l hl := by
    have hsubscribed {u : σ} {made : List Subscription}
        (listeners : (Session.router u).listeners = (Session.router (Session.openSink s.session).2).listeners ++
          made.map (fun sub => ⟨sub.event, sub.id, (Session.openSink s.session).1⟩))
        (hl : l ∈ (Session.router u).listeners) :
        l ∈ (Session.router s.session).listeners ∨ Session.opened s.session ≤ l.sink := by
      rw [listeners, Session.router_openSink] at hl
      obtain hold | hnew := List.mem_append.mp hl
      · exact .inl hold
      · obtain ⟨sub, -, rfl⟩ := List.mem_map.mp hnew
        exact .inr (Nat.le_refl _)
    obtain ⟨_, made, u, -, hlisteners, hattach⟩ | ⟨made, u, hall, hattach⟩ := attach_cases s
    · rw [hattach, Session.router_closeSink, Router.closeSink, Session.listeners_foldl_release] at hl
      exact hsubscribed hlisteners (List.mem_of_mem_filter hl)
    · rw [hattach] at hl
      exact hsubscribed (Session.listeners_subscribeAll hall).1 hl

/-- A start opens one sink, which it keeps if both of its subscriptions are made. -/
theorem works_beginStart_of_idle (h : Sound s) (idle : s.tracker.phase = .idle) (options : K) :
    Works s (s.beginStart options).2 := by
  let begun := s.withCache s.tracker.cache.beginSession
  have hdetached := Tracker.sink?_of_idle idle
  have hgrown : Session.Extends s.session begun.attach.2.session := extends_attach begun
  have hopened : Session.opened begun.attach.2.session = Session.opened s.session + 1 := opened_attach begun
  have hsound := h.start_of_idle idle options
  cases hsubscribed : subscriptions K s.session with
  | error e =>
    have hunfed := unfed_attach (s := begun) h.wellFormed hsubscribed
    have hnone : begun.attach.2.tracker.sink? = none := by
      rw [(attach_spec (K := K) (s := begun) h.wellFormed).1]
      exact hdetached
    rw [beginStart_of_refused idle hsubscribed] at hsound ⊢
    refine ⟨hgrown, fun k hk => ?_, fun k hk _ => ?_⟩
    · rw [hnone] at hk
      cases hk
    · obtain hk | hk := hk
      · rw [hdetached] at hk
        cases hk
      · obtain rfl | hlt := Nat.eq_or_lt_of_le hk
        · exact hunfed
        · exact Session.unfed_of_unopened hsound.wellFormed (hopened ▸ hlt)
  | ok made =>
    obtain ⟨subs, u⟩ := made
    have hattach := attach_of_subscribed (s := begun) hsubscribed
    rw [hattach] at hgrown hopened
    rw [beginStart_of_subscribed idle hsubscribed] at hsound ⊢
    refine ⟨hgrown, fun k hk => ?_, fun k hk hother => ?_⟩
    · cases hk
      exact .inr ⟨Nat.le_refl _, Nat.lt_of_lt_of_eq (Nat.lt_succ_self _) hopened.symm⟩
    · obtain hk | hk := hk
      · rw [hdetached] at hk
        cases hk
      · obtain rfl | hlt := Nat.eq_or_lt_of_le hk
        · exact absurd rfl hother
        · exact Session.unfed_of_unopened hsound.wellFormed (hopened ▸ hlt)

theorem works_pump (h : Sound s) : Works s s.pump := by
  cases hnext : s.next? with
  | none =>
    obtain hsame | ⟨options, a, hphase, -, -, hsession, htracker⟩ := pump_of_next?_eq_none hnext
    · rw [hsame]
      exact works_of_same h.wellFormed rfl rfl
    · have hrouter : Session.router s.pump.session = (Session.router s.session).closeSink a.sink := by
        rw [hsession, Session.router_closeSink]
      refine works_of_router h.wellFormed ?_ ?_ (.inl ?_)
      · rw [hrouter]
        exact List.Subset.refl _
      · rw [hrouter, Router.closeSink, List.length_modify]
      · rw [htracker, Tracker.sink?_of_enabled hphase]
        rfl
  | some e =>
    obtain ⟨options, a, rest, taken, hphase, -, htracker, hsession, hpump⟩ := pump_of_next? hnext
    obtain ⟨hkept, hsame⟩ := onEvent_frame taken options e
    obtain ⟨-, hlisteners, hsinks⟩ := (Session.router s.session).take_frame a.sink
    have hrouter : Session.router s.pump.session = ((Session.router s.session).take a.sink).2 := by
      rw [hpump, hkept, hsession, LawfulSession.router_withRouter]
    refine works_of_router h.wellFormed ?_ ?_ (.inl ?_)
    · rw [hrouter, hlisteners]
      exact List.Subset.refl _
    · rw [hrouter, hsinks]
    · rw [hpump]
      exact Tracker.sink?_of_phase (hsame.trans (congrArg Tracker.phase htracker))

theorem works_fetchAt (h : Sound s) (i : Nat) : Works s (s.fetchAt i) :=
  works_of_same h.wellFormed (router_fetchAt s i) (Tracker.sink?_of_phase (tracker_fetchAt s i).1)

end Scene

end PageCoverage
