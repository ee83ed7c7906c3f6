import PageCoverage.Proofs.Tracking.Attaching
import PageCoverage.Proofs.Tracking.Polling

namespace PageCoverage

/-- Something that stays true of a session whichever commands are sent on it, answered or given up, and whoever
listens. -/
structure Session.Lasts {σ κ : Type} [Session σ κ] (P : σ → Prop) : Prop where
  withRouter (s : σ) (r : Router) : P s → P (Session.withRouter s r)
  send (s : σ) (c : Command) : P s → P (Session.send s c).2
  poll (s : σ) (call : κ) : P s → P (Session.poll s call).2
  cancel (s : σ) (call : κ) : P s → P (Session.cancel s call)

namespace Session.Lasts

variable {σ κ : Type} [Session σ κ] {P : σ → Prop} {s : σ} (lasts : Lasts P)

include lasts

theorem request (r : Request κ) (h : P s) : P (r.poll s).2 := by
  cases r with
  | unsent c => exact lasts.poll _ _ (lasts.send s c h)
  | pending call => exact lasts.poll s call h
  | done result => exact h

theorem pollAll (rs : List (Request κ)) (h : P s) : P (Request.pollAll s rs).2 := by
  induction rs generalizing s with
  | nil => exact h
  | cons r rs ih =>
    rw [Request.pollAll_cons]
    split
    · exact lasts.request r h
    · exact ih (lasts.request r h)

theorem cancelAll (rs : List (Request κ)) (h : P s) : P (Request.cancelAll s rs) := by
  induction rs generalizing s with
  | nil => exact h
  | cons r rs ih =>
    refine ih ?_
    cases r with
    | pending call => exact lasts.cancel s call h
    | _ => exact h

theorem releases (subs : List Subscription) (h : P s) : P (subs.foldl Session.release s) := by
  induction subs generalizing s with
  | nil => exact h
  | cons sub subs ih => exact ih (lasts.withRouter s _ h)

theorem subscribe {t : σ} {name : String} {k : SinkId} {sub : Subscription}
    (subscribed : Session.subscribe s name k = .ok (sub, t)) (h : P s) : P t := by
  rw [Session.subscribe] at subscribed
  split at subscribed
  · cases subscribed
  · cases subscribed
    exact lasts.withRouter s _ h

end Session.Lasts

namespace Scene

/-- A fetch that is advanced asks the session for its answer and leaves the phase alone. -/
theorem advanceFetch_frame {σ K κ : Type} [Session σ κ] [Strategy K] (s : Scene σ K κ) (f : Fetch K κ) :
    (s.advanceFetch f).session = (f.request.poll s.session).2 ∧
      (s.advanceFetch f).tracker.phase = s.tracker.phase := by
  cases hrequest : (f.request.poll s.session).1 with
  | done result =>
    simp only [advanceFetch, hrequest, finishFetch]
    split
    · exact ⟨rfl, rfl⟩
    · split <;> exact ⟨rfl, rfl⟩
  | _ =>
    simp only [advanceFetch, hrequest]
    exact ⟨trivial, trivial⟩

variable {σ K κ : Type} [Session σ κ] {P : σ → Prop} {s : Scene σ K κ} (lasts : Session.Lasts P)

include lasts

theorem lasts_detach (a : Attachment) (h : P s.session) : P (s.detach a).session :=
  lasts.withRouter _ _ (lasts.releases a.subscriptions h)

theorem lasts_abandon (h : P s.session) : P s.abandon.session := by
  rw [abandon]
  split
  · exact lasts_detach lasts (s := { s with session := _ }) _ (lasts.cancelAll _ h)
  · exact lasts.cancelAll _ h
  · exact h

theorem lasts_polled (h : P s.session) : P s.polled.session := by
  rw [polled]
  split
  · exact lasts.pollAll _ h
  · exact lasts.pollAll _ h
  · exact h

theorem lasts_drop (h : P s.session) : P s.drop.session := by
  rw [drop]
  split
  · exact lasts_detach lasts _ (lasts_abandon lasts h)
  · exact lasts_abandon lasts h

variable [Strategy K]

theorem lasts_attach (h : P s.session) : P s.attach.2.session := by
  have hopened : P (Session.openSink s.session).2 := lasts.withRouter s.session _ h
  rw [attach]
  cases hregistrations : Session.subscribe (Session.openSink s.session).2 (Strategy.registrationEvent K)
      (Session.openSink s.session).1 with
  | error e =>
    simp only [hregistrations]
    exact lasts.withRouter _ _ hopened
  | ok subscribed =>
    have hfirst := lasts.subscribe hregistrations hopened
    cases hresets : Session.subscribe subscribed.2 Event.executionContextsCleared (Session.openSink s.session).1 with
    | error e =>
      simp only [hregistrations, hresets]
      exact lasts.withRouter _ _ (lasts.withRouter _ _ hfirst)
    | ok both =>
      simp only [hregistrations, hresets]
      exact lasts.subscribe hresets hfirst

theorem lasts_beginStart (options : K) (h : P s.session) : P (s.beginStart options).2.session := by
  have hattach : P (s.abandon.withCache s.abandon.tracker.cache.beginSession).attach.2.session :=
    lasts_attach lasts (lasts_abandon lasts h)
  rw [beginStart]
  split
  · exact h
  · cases hattached : (s.abandon.withCache s.abandon.tracker.cache.beginSession).attach with
    | mk r t =>
      rw [hattached] at hattach
      cases r with
      | error e =>
        simp only [hattached]
        exact hattach
      | ok a =>
        simp only [hattached]
        exact hattach

theorem lasts_beginStop (h : P s.session) : P s.beginStop.2.session := by
  rw [beginStop]
  split
  · exact lasts_detach lasts _ h
  · exact lasts_abandon lasts h

theorem lasts_advance (h : P s.session) : P s.advance.2.session := by
  have hpolled := lasts_polled lasts h
  cases hphase : s.tracker.phase with
  | idle => rwa [advance_of_idle hphase]
  | enabled options a => rwa [advance_of_enabled hphase]
  | starting options a batch =>
    rw [advance_starting hphase]
    cases Request.firstFailure? s.fates with
    | some e => exact lasts_abandon lasts hpolled
    | none => cases Request.answers? s.fates <;> exact hpolled
  | stopping options batch =>
    rw [advance_stopping hphase]
    cases Request.firstFailure? s.fates with
    | some e => exact lasts_abandon lasts hpolled
    | none => cases Request.answers? s.fates <;> exact hpolled

theorem lasts_pump (h : P s.session) : P s.pump.session := by
  cases hnext : s.next? with
  | none =>
    obtain hsame | ⟨_, _, _, _, _, hsession, -⟩ := pump_of_next?_eq_none hnext
    · rwa [hsame]
    · rw [hsession]
      exact lasts.withRouter _ _ h
  | some e =>
    obtain ⟨options, a, _, taken, _, _, _, htaken, hpump⟩ := pump_of_next? hnext
    rw [hpump, (taken.onEvent_frame options e).1, htaken]
    exact lasts.withRouter _ _ h

theorem lasts_pumpAll (h : P s.session) : P s.pumpAll.session := by
  rw [pumpAll]
  generalize s.waiting + 1 = n
  induction n with
  | zero => exact h
  | succ n ih => exact lasts_pump lasts ih

theorem lasts_advanceFetch (f : Fetch K κ) (h : P s.session) : P (s.advanceFetch f).session := by
  rw [(advanceFetch_frame s f).1]
  exact lasts.request f.request h

theorem lasts_fetchAt (i : Nat) (h : P s.session) : P (s.fetchAt i).session := by
  rw [fetchAt]
  split
  · exact h
  · exact lasts_advanceFetch lasts _ h

theorem lasts_fetchAll (h : P s.session) : P s.fetchAll.session := by
  rw [fetchAll]
  have hall (fs : List (Fetch K κ)) (t : Scene σ K κ) (ht : P t.session) : P (fs.foldl advanceFetch t).session := by
    induction fs generalizing t with
    | nil => exact ht
    | cons f fs ih => exact ih _ (lasts_advanceFetch lasts f ht)
  exact hall s.tracker.fetches _ h

end Scene

end PageCoverage
