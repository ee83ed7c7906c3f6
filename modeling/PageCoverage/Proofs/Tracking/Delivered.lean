import PageCoverage.Proofs.Tracking.Watched
import PageCoverage.Strategy.Script
import PageCoverage.Strategy.Stylesheet

namespace PageCoverage

/-- The strategies that tell registrations from resets. -/
class LawfulStrategy (K : Type) [Strategy K] : Prop where
  registrationEvent_ne : Strategy.registrationEvent K ≠ Event.executionContextsCleared

instance : LawfulStrategy ScriptOptions := ⟨by decide⟩

instance : LawfulStrategy StylesheetOptions := ⟨by decide⟩

theorem Strategy.nodup_events (K : Type) [Strategy K] [LawfulStrategy K] : (Strategy.events K).Nodup := by
  simp [Strategy.events, LawfulStrategy.registrationEvent_ne]

namespace Watched

open Occurrence

variable {σ K κ : Type} [Session σ κ] [Strategy K]

/-- What has been handled is the beginning of what has been dispatched; while the tracker is attached, its
sink holds what comes next. -/
structure Delivered (w : Watched σ K κ) : Prop where
  wellFormed : (Session.router w.scene.session).WellFormed
  inOrder : handled w.history <+: (dispatched w.history).filter (·.method ∈ Strategy.events K)
  attached : ∀ a, w.scene.tracker.attachment? = some a →
    (Session.router w.scene.session).Delivers a.sink (Strategy.events K) (dispatched w.history)
      (handled w.history)

theorem Delivered.of_detached {w : Watched σ K κ} (wellFormed : (Session.router w.scene.session).WellFormed)
    (inOrder : handled w.history <+: (dispatched w.history).filter (·.method ∈ Strategy.events K))
    (detached : w.scene.tracker.attachment? = none) : w.Delivered :=
  ⟨wellFormed, inOrder, fun a ha => by simp [detached] at ha⟩

/-- While the tracker is attached, its sink tells all. -/
theorem Delivered.of_delivers {w : Watched σ K κ} {a : Attachment}
    (attached : w.scene.tracker.attachment? = some a)
    (h : (Session.router w.scene.session).Delivers a.sink (Strategy.events K) (dispatched w.history)
      (handled w.history)) : w.Delivered := by
  refine ⟨h.wellFormed, (List.prefix_append _ _).trans h.inOrder, fun b hb => ?_⟩
  rw [attached] at hb
  cases hb
  exact h

/-- A step that touches neither the router nor the attachment nor the record of events. -/
theorem Delivered.congr {w v : Watched σ K κ} (h : w.Delivered)
    (router : Session.router v.scene.session = Session.router w.scene.session)
    (attachment : ∀ a, v.scene.tracker.attachment? = some a → w.scene.tracker.attachment? = some a)
    (handled : handled v.history = handled w.history)
    (dispatched : dispatched v.history = dispatched w.history) : v.Delivered := by
  refine ⟨?_, ?_, fun a ha => ?_⟩
  · rw [router]
    exact h.wellFormed
  · rw [handled, dispatched]
    exact h.inOrder
  · rw [router, handled, dispatched]
    exact h.attached a (attachment a ha)

theorem delivered_fresh {session : σ} (h : (Session.router session).WellFormed) :
    (fresh session : Watched σ K κ).Delivered :=
  .of_detached h List.nil_prefix rfl

variable [LawfulSession σ]

theorem delivered_start {w : Watched σ K κ} (h : w.Delivered) (options : K) : (w.start options).Delivered := by
  by_cases henabled : w.scene.tracker.isEnabled = true
  · have hrefused : w.scene.beginStart options = (.error (.alreadyEnabled (Strategy.kind K)), w.scene) := by
      rw [Scene.beginStart, if_pos henabled]
    rw [start, hrefused]
    exact h.congr rfl (fun _ => id) rfl rfl
  · obtain ⟨hwell, hcases⟩ := Scene.beginStart_spec h.wellFormed (by simpa using henabled) options
    rw [start]
    rcases hbegun : w.scene.beginStart options with ⟨result, s⟩
    rw [hbegun] at hwell hcases
    rcases hcases with ⟨e, rfl, htracker⟩ | ⟨a, rfl, htracker, hdelivers⟩
    · refine .of_detached hwell h.inOrder ?_
      show s.tracker.attachment? = none
      rw [htracker]
      rfl
    · refine .of_delivers (a := a) ?_ hdelivers
      show s.tracker.attachment? = some a
      rw [htracker]
      rfl

theorem delivered_abandon {w : Watched σ K κ} (h : w.Delivered) : (w.see w.scene.abandon).Delivered := by
  by_cases henabled : w.scene.tracker.isEnabled = true
  · obtain ⟨options, a, hphase⟩ := Tracker.isEnabled_iff.mp henabled
    rw [Scene.abandon_of_enabled hphase]
    exact h.congr rfl (fun _ => id) rfl rfl
  · refine .of_detached (Scene.wellFormed_abandon h.wellFormed) h.inOrder ?_
    show w.scene.abandon.tracker.attachment? = none
    rw [Scene.tracker_abandon (by simpa using henabled)]
    rfl

theorem delivered_stop {w : Watched σ K κ} (h : w.Delivered) : w.stop.Delivered := by
  rw [stop]
  by_cases henabled : w.scene.tracker.isEnabled = true
  · obtain ⟨options, a, hphase⟩ := Tracker.isEnabled_iff.mp henabled
    obtain ⟨hok, hwell, batch, htracker⟩ := Scene.beginStop_spec h.wellFormed hphase
    rcases hbegun : w.scene.beginStop with ⟨result, s⟩
    rw [hbegun] at hok hwell htracker
    subst hok
    refine .of_detached hwell ?_ ?_
    · simpa [handled?, dispatched?] using h.inOrder
    · show s.tracker.attachment? = none
      rw [htracker]
      rfl
  · rw [Scene.beginStop_of_not_enabled (by simpa using henabled)]
    exact delivered_abandon h

theorem delivered_advance {w : Watched σ K κ} (h : w.Delivered) : w.advance.Delivered := by
  rw [advance]
  cases hphase : w.scene.tracker.phase with
  | idle =>
    rw [Scene.advance_of_idle hphase]
    exact h.congr rfl (fun _ => id) rfl rfl
  | enabled options a =>
    rw [Scene.advance_of_enabled hphase]
    exact h.congr rfl (fun _ => id) rfl rfl
  | starting options a batch =>
    have hattached : w.scene.tracker.attachment? = some a := by rw [Tracker.attachment?, hphase]
    rcases Scene.advance_of_starting hphase with ⟨htracker, hwell⟩ | ⟨hrouter, ⟨rest, htracker⟩ | htracker⟩
    · refine .of_detached (hwell h.wellFormed) h.inOrder ?_
      show w.scene.advance.2.tracker.attachment? = none
      rw [htracker]
      rfl
    all_goals
      refine h.congr hrouter (fun b hb => ?_) rfl rfl
      change w.scene.advance.2.tracker.attachment? = some b at hb
      rw [htracker] at hb
      rw [hattached]
      exact hb
  | stopping options batch =>
    obtain ⟨hrouter, hcases⟩ := Scene.advance_of_stopping hphase
    refine h.congr hrouter (fun b hb => ?_) rfl rfl
    change w.scene.advance.2.tracker.attachment? = some b at hb
    rcases hcases with ⟨rest, htracker⟩ | htracker
    all_goals
      rw [htracker] at hb
      cases hb

theorem delivered_pump {w : Watched σ K κ} (h : w.Delivered) : w.pump.Delivered := by
  rw [pump]
  cases hnext : w.scene.next? with
  | none =>
    rcases Scene.pump_of_next?_eq_none hnext with
      hsame | ⟨options, a, hphase, hempty, hunfed, hsession, htracker⟩
    · rw [hsame]
      exact h.congr rfl (fun _ => id) (by simp) (by simp)
    · have hattached : w.scene.tracker.attachment? = some a := by rw [Tracker.attachment?, hphase]
      refine .of_delivers (a := { a with reading := false }) ?_ ?_
      · show w.scene.pump.tracker.attachment? = _
        rw [htracker]
        rfl
      · show (Session.router w.scene.pump.session).Delivers _ _ _ _
        rw [hsession, Session.router_closeSink]
        simpa using (h.attached a hattached).closeSink hempty hunfed
  | some e =>
    obtain ⟨options, a, rest, taken, hphase, hqueue, htaken, hrouter, hpump⟩ := Scene.pump_of_next? hnext
    have hattached : w.scene.tracker.attachment? = some a := by rw [Tracker.attachment?, hphase]
    obtain ⟨hsession, hsame⟩ := taken.onEvent_frame options e
    rw [← hpump, htaken] at hsame
    rw [← hpump, hrouter] at hsession
    refine .of_delivers (a := a) ?_ ?_
    · show w.scene.pump.tracker.attachment? = some a
      rw [Tracker.attachment?, hsame, hphase]
    · show (Session.router w.scene.pump.session).Delivers _ _ _ _
      rw [hsession, LawfulSession.router_withRouter]
      simpa [handled?, dispatched?] using (h.attached a hattached).take hqueue

theorem delivered_fetch {w : Watched σ K κ} (h : w.Delivered) (i : Nat) : (w.fetch i).Delivered := by
  rw [fetch]
  split
  next f errand hf herrand =>
    split
    next result hdone =>
      obtain ⟨hsession, htracker⟩ := Scene.fetchAt_of_done hf hdone
      refine h.congr ?_ (fun b hb => ?_) (by simp [handled?]) (by simp [dispatched?])
      · show Session.router (w.scene.fetchAt i).session = _
        rw [hsession, Request.router_poll]
      · change (w.scene.fetchAt i).tracker.attachment? = some b at hb
        rw [htracker] at hb
        exact hb
    next hwaiting =>
      obtain ⟨hsession, htracker⟩ := Scene.fetchAt_of_waiting hf hwaiting
      refine h.congr ?_ (fun b hb => ?_) rfl rfl
      · show Session.router (w.scene.fetchAt i).session = _
        rw [hsession, Request.router_poll]
      · change (w.scene.fetchAt i).tracker.attachment? = some b at hb
        rw [htracker] at hb
        exact hb
  · exact h

theorem delivered_dispatch [LawfulStrategy K] {w : Watched σ K κ} (h : w.Delivered) (e : Event) :
    (w.dispatch e).Delivered := by
  have hrouter : Session.router (w.dispatch e).scene.session =
      ((Session.router w.scene.session).dispatch e).2 := LawfulSession.router_withRouter ..
  have hhandled : handled (w.history ++ [.dispatch e]) = handled w.history := by simp [handled?]
  have hdispatched : dispatched (w.history ++ [.dispatch e]) = dispatched w.history ++ [e] := by
    simp [dispatched?]
  refine ⟨?_, ?_, fun a ha => ?_⟩
  · rw [hrouter]
    exact Router.wellFormed_dispatch h.wellFormed e
  · show handled (w.history ++ [.dispatch e]) <+: (dispatched (w.history ++ [.dispatch e])).filter _
    rw [hhandled, hdispatched, List.filter_append]
    exact h.inOrder.trans (List.prefix_append _ _)
  · show (Session.router (w.dispatch e).scene.session).Delivers _ _
      (dispatched (w.history ++ [.dispatch e])) (handled (w.history ++ [.dispatch e]))
    rw [hrouter, hhandled, hdispatched]
    exact (h.attached a ha).dispatch (Strategy.nodup_events K) e

omit [LawfulSession σ] in
theorem delivered_elsewhere {w : Watched σ K κ} (h : w.Delivered) {s : σ} (hs : w.Elsewhere s) :
    (w.withSession s).Delivered :=
  ⟨hs.1 h.wellFormed, h.inOrder, fun a ha => (h.attached a ha).spared (hs.2 a ha)⟩

theorem delivered_step [LawfulStrategy K] {w v : Watched σ K κ} (step : Step w v) (h : w.Delivered) :
    v.Delivered := by
  cases step with
  | start options => exact delivered_start h options
  | stop => exact delivered_stop h
  | advance => exact delivered_advance h
  | abandon => exact delivered_abandon h
  | pump => exact delivered_pump h
  | fetch i => exact delivered_fetch h i
  | dispatch e => exact delivered_dispatch h e
  | elsewhere s hs => exact delivered_elsewhere h hs

theorem delivered_of_steps [LawfulStrategy K] {w v : Watched σ K κ} (h : w.Delivered)
    (steps : Relation.ReflTransGen Step w v) : v.Delivered := by
  induction steps with
  | refl => exact h
  | tail _ step ih => exact delivered_step step ih

end Watched

end PageCoverage
