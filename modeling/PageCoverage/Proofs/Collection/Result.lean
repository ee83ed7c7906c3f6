import PageCoverage.Proofs.Collection.Opening
import PageCoverage.Proofs.Collection.Progress

namespace PageCoverage

open Scene

namespace Page

variable {σ κ : Type} [Session σ κ]

theorem lasts_settle {P : σ → Prop} (lasts : Session.Lasts P) {p : Page σ κ} (h : P p.session) :
    P p.settle.session := by
  have hfetch {p : Page σ κ} (h : P p.session) : P p.fetchAll.session :=
    lasts_fetchAll lasts (s := Page.stylesheetScene _) (lasts_fetchAll lasts (s := p.scriptScene) h)
  have hpump {p : Page σ κ} (h : P p.session) : P p.pumpAll.session := by
    rw [pumpAll]
    split
    · exact lasts_pumpAll lasts (s := Page.scriptScene _) (lasts_pumpAll lasts (s := p.stylesheetScene) h)
    · exact lasts_pumpAll lasts (s := Page.stylesheetScene _) (lasts_pumpAll lasts (s := p.scriptScene) h)
  exact hfetch (hpump (hfetch h))

/-- The work in the background neither ends a start or a stop nor begins one. -/
theorem phase_settle [LawfulSession σ] {p : Page σ κ} {kind : ResourceKind}
    (h : (p.scene kind).tracker.isEnabled = false) :
    (p.settle.scene kind).tracker.phase = (p.scene kind).tracker.phase := by
  have hfetch (p : Page σ κ) : (p.fetchAll.scene kind).tracker.phase = (p.scene kind).tracker.phase := by
    cases kind with
    | script => exact (fetchAll_frame p.scriptScene).2
    | stylesheet => exact (fetchAll_frame (Page.stylesheetScene _)).2
  have hpump {p : Page σ κ} (h : (p.scene kind).tracker.isEnabled = false) :
      (p.pumpAll.scene kind).tracker.phase = (p.scene kind).tracker.phase := by
    rw [Page.pumpAll]
    split
    · cases kind with
      | script =>
        let q := p.withStylesheets p.stylesheetScene.pumpAll
        exact congrArg (·.tracker.phase) (pumpAll_of_not_enabled (s := q.scriptScene) h)
      | stylesheet => exact congrArg (·.tracker.phase) (pumpAll_of_not_enabled (s := p.stylesheetScene) h)
    · cases kind with
      | script => exact congrArg (·.tracker.phase) (pumpAll_of_not_enabled (s := p.scriptScene) h)
      | stylesheet =>
        let q := p.withScripts p.scriptScene.pumpAll
        exact congrArg (·.tracker.phase) (pumpAll_of_not_enabled (s := q.stylesheetScene) h)
  have hfetched : (p.fetchAll.scene kind).tracker.isEnabled = false := by
    rwa [Tracker.isEnabled, hfetch, ← Tracker.isEnabled]
  rw [settle, hfetch, hpump hfetched, hfetch]

end Page

namespace Run

variable {r : Run Socket SocketCall} {settings : Settings}

/-- What a run waits for is under way, and on a connection that has ended nobody waits. -/
structure Coherent (r : Run Socket SocketCall) : Prop where
  underWay : Collection.UnderWay r.collection.page r.collection.stage
  drained : r.session.IsDrained

theorem Coherent.withSession (h : r.Coherent) {s : Socket} (drained : s.IsDrained) : (r.withSession s).Coherent where
  underWay := h.underWay.of_phases fun kind _ => by cases kind <;> rfl
  drained := drained

theorem isClosed_receive (s : Socket) (text : String) : (s.receive text).isClosed = s.isClosed := by
  rw [Socket.receive]
  split
  · rw [Socket.accept]
    split
    · rw [Socket.resolve]
      split <;> rfl
    · rfl
    · rfl
  · rfl

/-- The end of the wait begins the stop of a run that waits, and any other run passes over it. -/
theorem meet_enough (r : Run Socket SocketCall) (interrupt : Option Nat) :
    (r.collection.stage = .waiting ∧ ∃ log, r.meet (.enough interrupt) = { r with
      collection := ⟨{ r.collection.page with log := log }, r.collection.settings, .beginStop⟩ }) ∨
    r.collection.stage ≠ .waiting ∧ r.meet (.enough interrupt) = r := by
  obtain ⟨⟨page, settings, stage⟩, opening⟩ := r
  cases stage with
  | waiting => exact .inl ⟨rfl, _, rfl⟩
  | _ => exact .inr ⟨nofun, rfl⟩

theorem Coherent.meet (h : r.Coherent) (x : Happening) : (r.meet x).Coherent := by
  cases x with
  | frame text =>
    rw [Run.meet]
    split
    · exact h
    next hopen =>
      refine h.withSession fun closed => ?_
      rw [isClosed_receive] at closed
      exact absurd closed hopen
  | ending e =>
    rw [Run.meet]
    split
    · exact h
    · exact h.withSession fun _ => (Socket.isOver_finish _ e).2
  | enough interrupt =>
    obtain ⟨-, log, hmet⟩ | ⟨-, hmet⟩ := meet_enough r interrupt
    · rw [hmet]
      exact ⟨.ending none .script, h.drained⟩
    · rwa [hmet]

/-- A run goes on with its collection if the runtime domain is enabled, and otherwise it does nothing else. -/
theorem advance_cases (r : Run Socket SocketCall) :
    (r.advance.IsOpen ∧ r.advance.collection = (r.withSession (r.opening.poll r.session).2).collection.drive.settle) ∨
      r.advance = { r.withSession (r.opening.poll r.session).2 with opening := (r.opening.poll r.session).1 } ∧
        ∀ v, (r.opening.poll r.session).1 ≠ .done (.ok v) := by
  cases hopening : (r.opening.poll r.session).1 with
  | done result =>
    cases result with
    | ok v => exact .inl ⟨⟨v, by simp only [Run.advance, hopening]⟩, by simp only [Run.advance, hopening]⟩
    | error e => exact .inr ⟨by simp only [Run.advance, hopening], by simp⟩
  | _ => exact .inr ⟨by simp only [Run.advance, hopening], by simp⟩

/-- How a collection is driven on, with the work in the background. -/
theorem forward_drive {c : Collection Socket SocketCall} (h : Collection.UnderWay c.page c.stage) :
    Collection.Forward 10 c c.drive.settle := by
  have hdrive : Collection.Forward 10 c c.drive := Collection.forward_steps h 10
  exact ⟨hdrive.underWay.of_phases fun kind hkind => Page.phase_settle hkind, hdrive.rank,
    fun P hP hc => Page.lasts_settle hP (hdrive.lasts P hP hc), hdrive.prompt⟩

theorem Coherent.advance (h : r.Coherent) : r.advance.Coherent := by
  have hpolled := h.withSession (Socket.lasts_isDrained.request r.opening h.drained)
  obtain ⟨-, hcollection⟩ | ⟨hadvance, -⟩ := advance_cases r
  · have hforward := forward_drive hpolled.underWay
    rw [← hcollection] at hforward
    exact ⟨hforward.underWay, hforward.lasts _ Socket.lasts_isDrained hpolled.drained⟩
  · rw [hadvance]
    exact ⟨hpolled.underWay, hpolled.drained⟩

theorem coherent_follow (settings : Settings) (happenings : List Happening) :
    ((new {} settings : Run Socket SocketCall).follow happenings).Coherent := by
  have fresh : (new {} settings : Run Socket SocketCall).Coherent := ⟨.beginning .script, nofun⟩
  rw [follow]
  exact List.foldlRecOn (motive := Coherent) happenings _ fresh.advance fun r h x _ => (h.meet x).advance

/-- Once the connection has ended, a run has failed to begin, or it has come to its wait or to its end. -/
theorem Coherent.advance_of_over (h : r.Coherent) (gone : r.session.IsOver) :
    r.advance.session.IsOver ∧ ((∃ e, r.advance.opening = .done (.error e)) ∨
      r.advance.IsOpen ∧ r.advance.collection.Rests ∧ r.collection.stage.rank ≤ r.advance.collection.stage.rank) := by
  have hpolled : (r.opening.poll r.session).2.IsOver := Socket.prompt_isOver.request r.opening gone
  obtain ⟨hopen, hcollection⟩ | ⟨hadvance, hfailed⟩ := advance_cases r
  · have hunderWay := (h.withSession (fun _ => hpolled.2)).underWay
    have hforward := forward_drive hunderWay
    have hrests := Collection.rests_drive Socket.prompt_isOver hpolled hunderWay
    rw [← hcollection] at hforward
    refine ⟨hforward.lasts _ Socket.prompt_isOver.toLasts hpolled, .inr ⟨hopen, ?_, hforward.rank⟩⟩
    rwa [hcollection]
  · obtain ⟨result, hresult⟩ := Socket.prompt_isOver.request_done r.opening gone
    cases result with
    | ok v => exact absurd hresult (hfailed v)
    | error e =>
      rw [hadvance]
      exact ⟨hpolled, .inl ⟨e, hresult⟩⟩

theorem opening_meet (r : Run Socket SocketCall) (x : Happening) : (r.meet x).opening = r.opening := by
  cases x with
  | frame text =>
    rw [Run.meet]
    split <;> rfl
  | ending e =>
    rw [Run.meet]
    split <;> rfl
  | enough interrupt => obtain ⟨-, log, hmet⟩ | ⟨-, hmet⟩ := meet_enough r interrupt <;> rw [hmet]

theorem opening_advance {result : Except CoverageError Value} (h : r.opening = .done result) :
    r.advance.opening = .done result := by
  cases result <;> simp only [Run.advance, h, Request.poll]

theorem isOver_meet_ending (h : r.Coherent) (e : Ending) : (r.meet (.ending e)).session.IsOver := by
  rw [Run.meet]
  split
  next closed => exact ⟨closed, h.drained closed⟩
  · exact Socket.isOver_finish _ e

/-- Behind the end of its wait a run stands where trackers are stopped, or later. -/
theorem meet_enough_of_rests (rests : r.collection.Rests) (interrupt : Option Nat) :
    5 ≤ (r.meet (.enough interrupt)).collection.stage.rank := by
  obtain ⟨-, log, hmet⟩ | ⟨hnot, hmet⟩ := meet_enough r interrupt
  · rw [hmet]
    exact Nat.le_refl 5
  · obtain hwaiting | ⟨result, hfinished⟩ := rests
    · exact absurd hwaiting hnot
    · rw [hmet, hfinished]
      simp [Stage.rank]

/-- Whatever a run meets on a connection, when that has ended and the wait is over there is a result. -/
theorem exists_result (settings : Settings) (happenings : List Happening) (e : Ending) (interrupt : Option Nat) :
    ∃ result, ((new {} settings : Run Socket SocketCall).follow
      (happenings ++ [.ending e, .enough interrupt])).result? = some result := by
  let q : Run Socket SocketCall := (new {} settings).follow happenings
  let ended := (q.meet (.ending e)).advance
  let stopped := (ended.meet (.enough interrupt)).advance
  have hsplit : (new {} settings : Run Socket SocketCall).follow (happenings ++ [.ending e, .enough interrupt]) =
      stopped := by
    simp only [follow, List.foldl_append, List.foldl_cons, List.foldl_nil]
    rfl
  have hcoherent : q.Coherent := coherent_follow settings happenings
  have hended : ended.Coherent := (hcoherent.meet _).advance
  obtain ⟨gone, hfirst⟩ := (hcoherent.meet (.ending e)).advance_of_over (isOver_meet_ending hcoherent e)
  have hgone : (ended.meet (.enough interrupt)).session.IsOver := by
    obtain ⟨-, log, hmet⟩ | ⟨-, hmet⟩ := meet_enough ended interrupt <;> rw [hmet] <;> exact gone
  obtain ⟨-, hlast⟩ := (hended.meet (.enough interrupt)).advance_of_over hgone
  rw [hsplit]
  obtain ⟨e', he'⟩ | ⟨⟨v, hv⟩, hrests, hrank⟩ := hlast
  · exact ⟨.error e', by simp only [result?, stopped, he', Request.failure?]⟩
  · obtain ⟨e', he'⟩ | ⟨-, hrested, -⟩ := hfirst
    · -- The runtime domain was not enabled before, and nobody asks again.
      have hstill : stopped.opening = .done (.error e') := opening_advance (opening_meet ended _ ▸ he')
      cases hv.symm.trans hstill
    · have hlate : 5 ≤ stopped.collection.stage.rank := Nat.le_trans (meet_enough_of_rests hrested interrupt) hrank
      obtain hwaiting | ⟨result, hfinished⟩ := hrests
      · have hearly : stopped.collection.stage.rank = 4 := congrArg Stage.rank hwaiting
        omega
      · refine ⟨result, ?_⟩
        have hfinished : stopped.collection.stage = .finished result := hfinished
        simp only [result?, stopped, hv, Request.failure?, Collection.result?]
        rw [hfinished]

/-- Once it is connected, a collection returns the result of its run. -/
theorem against_of_connected {m : Type → Type} [Monad m] [LawfulMonad m]
    {connect : String → m (Except CoverageError (List Happening))} {url : String} {happenings : List Happening}
    (connected : connect url = pure (.ok happenings)) (settings : Settings) :
    ∃ result, against connect url settings = pure result ∧
      ((new {} settings : Run Socket SocketCall).follow
        (happenings ++ [.ending .closed, .enough none])).result? = some result := by
  obtain ⟨result, hresult⟩ := exists_result settings happenings .closed none
  refine ⟨result, ?_, hresult⟩
  rw [against, connected, pure_bind]
  simp only [hresult, Option.getD_some]

end Run

end PageCoverage
