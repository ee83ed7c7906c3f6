import PageCoverage.Proofs.Tracking.Lasting

namespace PageCoverage

namespace StandIn

/-- A stand-in without what trackers leave on it. -/
def bare (s : StandIn) : StandIn := { s with router := {}, history := [] }

/-- The same stand-in later, behind commands and routing alone. -/
structure Continues (s t : StandIn) : Prop where
  bare : t.bare = s.bare
  history : s.history.length ≤ t.history.length

theorem Continues.refl (s : StandIn) : s.Continues s := ⟨rfl, Nat.le_refl _⟩

theorem Continues.trans {s t u : StandIn} (h : s.Continues t) (h' : t.Continues u) : s.Continues u :=
  ⟨h'.bare.trans h.bare, Nat.le_trans h.history h'.history⟩

theorem lasts_continues (s : StandIn) : Session.Lasts s.Continues where
  withRouter _ _ h := h.trans ⟨rfl, Nat.le_refl _⟩
  send t c h := by
    refine h.trans ⟨rfl, ?_⟩
    show t.history.length ≤ (t.history ++ [c]).length
    rw [List.length_append]
    exact Nat.le_add_right _ _
  poll _ _ h := h
  cancel _ _ h := h

theorem continues_poll (s : StandIn) (r : Request HeldCall) : s.Continues (r.poll s).2 :=
  (lasts_continues s).request r (.refl s)

theorem cancelAll_eq (s : StandIn) (rs : List (Request HeldCall)) : Request.cancelAll s rs = s := by
  induction rs generalizing s with
  | nil => rfl
  | cons r rs ih =>
    have hr : Request.cancel s r = s := by cases r <;> rfl
    rw [Request.cancelAll, List.foldl_cons, hr]
    exact ih s

theorem foldl_release (s : StandIn) (subs : List Subscription) :
    subs.foldl Session.release s = { s with router := subs.foldl Router.release s.router } := by
  induction subs generalizing s with
  | nil => rfl
  | cons sub subs ih => exact ih _

/-- The first poll of a batch sends its first command, if no more. -/
theorem history_pollAll_unsent (s : StandIn) (c : Command) (rs : List (Request HeldCall)) :
    s.history.length + 1 ≤ (Request.pollAll s (.unsent c :: rs)).2.history.length := by
  have hsent : s.history.length + 1 = ((Request.unsent c : Request HeldCall).poll s).2.history.length := by
    show _ = (s.history ++ [c]).length
    rw [List.length_append, List.length_singleton]
  rw [Request.pollAll_cons, hsent]
  split
  · exact Nat.le_refl _
  · exact ((lasts_continues _).pollAll rs (.refl _)).history

end StandIn

namespace Scene

open StandIn

variable {K : Type}

theorem session_detach (s : Scene StandIn K HeldCall) (a : Attachment) :
    (s.detach a).session =
      { s.session with router := (a.subscriptions.foldl Router.release s.session.router).closeSink a.sink } := by
  show Session.closeSink (a.subscriptions.foldl Session.release s.session) a.sink = _
  rw [foldl_release]
  rfl

theorem continues_detach (s : Scene StandIn K HeldCall) (a : Attachment) : s.session.Continues (s.detach a).session :=
  lasts_detach (lasts_continues _) a (.refl _)

theorem continues_abandon (s : Scene StandIn K HeldCall) : s.session.Continues s.abandon.session :=
  lasts_abandon (lasts_continues _) (.refl _)

theorem continues_polled (s : Scene StandIn K HeldCall) : s.session.Continues s.polled.session :=
  lasts_polled (lasts_continues _) (.refl _)

theorem continues_drop (s : Scene StandIn K HeldCall) : s.session.Continues s.drop.session :=
  lasts_drop (lasts_continues _) (.refl _)

variable [Strategy K]

theorem continues_beginStart (s : Scene StandIn K HeldCall) (options : K) :
    s.session.Continues (s.beginStart options).2.session :=
  lasts_beginStart (lasts_continues _) options (.refl _)

theorem continues_beginStop (s : Scene StandIn K HeldCall) : s.session.Continues s.beginStop.2.session :=
  lasts_beginStop (lasts_continues _) (.refl _)

theorem continues_advance (s : Scene StandIn K HeldCall) : s.session.Continues s.advance.2.session :=
  lasts_advance (lasts_continues _) (.refl _)

theorem continues_pump (s : Scene StandIn K HeldCall) : s.session.Continues s.pump.session :=
  lasts_pump (lasts_continues _) (.refl _)

theorem continues_pumpAll (s : Scene StandIn K HeldCall) : s.session.Continues s.pumpAll.session :=
  lasts_pumpAll (lasts_continues _) (.refl _)

theorem continues_fetchAt (s : Scene StandIn K HeldCall) (i : Nat) : s.session.Continues (s.fetchAt i).session :=
  lasts_fetchAt (lasts_continues _) i (.refl _)

theorem continues_fetchAll (s : Scene StandIn K HeldCall) : s.session.Continues s.fetchAll.session :=
  lasts_fetchAll (lasts_continues _) (.refl _)

theorem fetchAll_frame {σ κ : Type} [Session σ κ] [LawfulSession σ] (s : Scene σ K κ) :
    Session.router s.fetchAll.session = Session.router s.session ∧
      s.fetchAll.tracker.phase = s.tracker.phase := by
  have hall (fs : List (Fetch K κ)) (t : Scene σ K κ) :
      Session.router (fs.foldl advanceFetch t).session = Session.router t.session ∧
        (fs.foldl advanceFetch t).tracker.phase = t.tracker.phase := by
    induction fs generalizing t with
    | nil => exact ⟨rfl, rfl⟩
    | cons f fs ih =>
      obtain ⟨hrouter, hphase⟩ := ih (t.advanceFetch f)
      obtain ⟨hsession, hsame⟩ := advanceFetch_frame t f
      rw [List.foldl_cons, hrouter, hphase, hsession, Request.router_poll]
      exact ⟨rfl, hsame⟩
  exact hall s.tracker.fetches { s with tracker := { s.tracker with fetches := [] } }

end Scene

end PageCoverage
