import PageCoverage.Proofs.Session.Recorded
import PageCoverage.Session.Socket
import PageCoverage.Session.StandIn

namespace PageCoverage

/-- Only routing changes the router of a session. -/
class LawfulSession (σ : Type) {κ : Type} [Session σ κ] : Prop where
  router_withRouter (s : σ) (r : Router) : Session.router (Session.withRouter s r) = r
  router_send (s : σ) (c : Command) : Session.router (Session.send s c).2 = Session.router s
  router_poll (s : σ) (call : κ) : Session.router (Session.poll s call).2 = Session.router s
  router_cancel (s : σ) (call : κ) : Session.router (Session.cancel s call) = Session.router s

attribute [simp] LawfulSession.router_withRouter LawfulSession.router_send LawfulSession.router_poll
  LawfulSession.router_cancel

instance : LawfulSession StandIn where
  router_withRouter _ _ := rfl
  router_send _ _ := rfl
  router_poll _ _ := rfl
  router_cancel _ _ := rfl

instance : LawfulSession Socket where
  router_withRouter _ _ := rfl
  router_send s c := by
    show (s.send c).2.router = s.router
    cases h : s.isClosed || s.wire == .broken <;> simp [Socket.send, Socket.takeId, h]
  router_poll s call := by
    show (s.poll call).2.router = s.router
    cases call with
    | refused => rfl
    | sent id =>
      rw [Socket.poll]
      split
      · rfl
      · split <;> rfl
  router_cancel s call := by cases call <;> rfl

section

variable {σ κ : Type} [Session σ κ] [LawfulSession σ]

instance : LawfulSession (Recorded σ) where
  router_withRouter s r := LawfulSession.router_withRouter s.session r
  router_send s c := LawfulSession.router_send s.session c
  router_poll s call := LawfulSession.router_poll s.session call
  router_cancel s call := LawfulSession.router_cancel s.session call

namespace Session

@[simp] theorem router_openSink (s : σ) : router (openSink s).2 = (router s).openSink.2 :=
  LawfulSession.router_withRouter ..

@[simp] theorem router_closeSink (s : σ) (k : SinkId) : router (closeSink s k) = (router s).closeSink k :=
  LawfulSession.router_withRouter ..

@[simp] theorem router_release (s : σ) (sub : Subscription) :
    router (release s sub) = (router s).release sub :=
  LawfulSession.router_withRouter ..

theorem router_of_subscribe {s t : σ} {name : String} {k : SinkId} {sub : Subscription}
    (h : subscribe s name k = .ok (sub, t)) : router t = ((router s).subscribe name k).2 := by
  rw [subscribe] at h
  split at h
  · cases h
  · cases h
    exact LawfulSession.router_withRouter ..

end Session

namespace Request

@[simp] theorem router_poll (s : σ) (r : Request κ) : Session.router (r.poll s).2 = Session.router s := by
  cases r <;> simp [poll]

@[simp] theorem router_pollAll (s : σ) (rs : List (Request κ)) :
    Session.router (pollAll s rs).2 = Session.router s := by
  induction rs generalizing s with
  | nil => rfl
  | cons r rs ih =>
    rw [pollAll_cons]
    split
    · exact router_poll s r
    · exact (ih _).trans (router_poll s r)

@[simp] theorem router_cancelAll (s : σ) (rs : List (Request κ)) :
    Session.router (cancelAll s rs) = Session.router s := by
  induction rs generalizing s with
  | nil => rfl
  | cons r rs ih =>
    have hr : Session.router (cancel s r) = Session.router s := by cases r <;> simp [cancel]
    exact (ih _).trans hr

end Request

end

end PageCoverage
