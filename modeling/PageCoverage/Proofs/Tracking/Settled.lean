import PageCoverage.Proofs.Session.Attended
import PageCoverage.Proofs.Tracking.Alike

namespace PageCoverage

namespace StandIn

/-- A poll ends a request or leaves it waiting. -/
theorem poll_cases (s : StandIn) (r : Request HeldCall) :
    (∃ result, (r.poll s).1 = .done result) ∨ ∃ call, (r.poll s).1 = .pending call ∧ s.poll call = .waiting call := by
  have hcall (call : HeldCall) : (∃ result, Request.ofProgress (s.poll call) = .done result) ∨
      ∃ next, Request.ofProgress (s.poll call) = .pending next ∧ s.poll next = .waiting next := by
    cases hpoll : s.poll call with
    | finished result => exact .inl ⟨result, rfl⟩
    | waiting next => exact .inr ⟨next, rfl, poll_of_waiting hpoll⟩
  cases r with
  | unsent c => exact hcall (s.send c).1
  | pending call => exact hcall call
  | done result => exact .inl ⟨result, rfl⟩

end StandIn

namespace Scene

open StandIn

variable {K : Type} {s t : Scene StandIn K HeldCall}

/-- Nothing can proceed in the background: an enabled tracker has handled its events, and all fetches wait. -/
structure Settled (s : Scene StandIn K HeldCall) : Prop where
  inbox : s.tracker.isEnabled = true → s.inbox = []
  fetches : ∀ f ∈ s.tracker.fetches, ∃ call, f.request = .pending call ∧ s.session.poll call = .waiting call

variable [Strategy K] {others : List Listener}

theorem Settled.fetchAll (h : Settled s) : s.fetchAll = s := by
  have hall (fs : List (Fetch K HeldCall)) {t : Scene StandIn K HeldCall}
      (waits : ∀ f ∈ fs, ∃ call, f.request = .pending call ∧ t.session.poll call = .waiting call) :
      fs.foldl Scene.advanceFetch t =
        { t with tracker := { t.tracker with fetches := t.tracker.fetches ++ fs } } := by
    induction fs generalizing t with
    | nil =>
      rw [List.append_nil]
      rfl
    | cons f fs ih =>
      obtain ⟨call, hcall, hwaits⟩ := waits f List.mem_cons_self
      have hpoll : f.request.poll t.session = (f.request, t.session) := by
        rw [hcall]
        show (Request.ofProgress (t.session.poll call), t.session) = _
        rw [hwaits]
        rfl
      have hstep : t.advanceFetch f =
          { t with tracker := { t.tracker with fetches := t.tracker.fetches ++ [f] } } := by
        rw [Scene.advanceFetch, hpoll, hcall]
        simp only [← hcall]
      have hrest := ih (t := { t with tracker := { t.tracker with fetches := t.tracker.fetches ++ [f] } })
        fun g hg => waits g (List.mem_cons_of_mem _ hg)
      rw [List.foldl_cons, hstep, hrest]
      simp only [List.append_assoc, List.singleton_append]
  exact hall s.tracker.fetches (t := { s with tracker := { s.tracker with fetches := [] } }) h.fetches

theorem Settled.pumpAll (h : Settled s) (among : Among others s) : s.pumpAll = s := by
  rw [Scene.pumpAll, waiting_eq]
  by_cases henabled : s.tracker.isEnabled = true
  · have hempty := h.inbox henabled
    rw [if_pos henabled, hempty]
    exact among.pump_of_inbox_nil hempty
  · rw [if_neg henabled]
    exact pump_of_not_enabled (s := s) (by simpa using henabled)

theorem Among.inbox_pump (h : Among others s) (enabled : s.tracker.isEnabled = true) :
    s.pump.tracker.isEnabled = true ∧ s.pump.inbox = s.inbox.tail := by
  obtain ⟨options, a, hphase⟩ := Tracker.isEnabled_iff.mp enabled
  cases hinbox : s.inbox with
  | nil =>
    rw [h.pump_of_inbox_nil hinbox]
    exact ⟨enabled, hinbox⟩
  | cons e rest =>
    obtain ⟨taken, htaken, hpump, hrest⟩ := h.pump_of_inbox_cons hphase hinbox
    refine ⟨?_, hrest⟩
    rw [Tracker.isEnabled_iff]
    refine ⟨options, a, ?_⟩
    rw [hpump, (taken.onEvent_frame options e).2, htaken, hphase]

theorem Among.inbox_pumpAll (h : Among others s) (enabled : s.tracker.isEnabled = true) :
    s.pumpAll.tracker.isEnabled = true ∧ s.pumpAll.inbox = [] := by
  have hall (n : Nat) : Among others (Nat.repeat Scene.pump n s) ∧
      (Nat.repeat Scene.pump n s).tracker.isEnabled = true ∧ (Nat.repeat Scene.pump n s).inbox = s.inbox.drop n := by
    induction n with
    | zero => exact ⟨h, enabled, rfl⟩
    | succ n ih =>
      obtain ⟨hn, henabled, hinbox⟩ := ih
      obtain ⟨hstill, htail⟩ := hn.inbox_pump henabled
      refine ⟨(moves_pump hn).among, hstill, ?_⟩
      rw [Nat.repeat, htail, hinbox, List.tail_drop]
  obtain ⟨-, hstill, hdrop⟩ := hall (s.inbox.length + 1)
  rw [List.drop_of_length_le (Nat.le_succ _)] at hdrop
  rw [Scene.pumpAll, waiting_eq, if_pos enabled]
  exact ⟨hstill, hdrop⟩

theorem fetches_advanceFetch (s : Scene StandIn K HeldCall) (f : Fetch K HeldCall) :
    (s.advanceFetch f).tracker.fetches = s.tracker.fetches ∨
      ∃ call, (s.advanceFetch f).tracker.fetches = s.tracker.fetches ++ [{ f with request := .pending call }] ∧
        s.session.poll call = .waiting call := by
  obtain ⟨result, hdone⟩ | ⟨call, hpending, hwaits⟩ := poll_cases s.session f.request
  · left
    simp only [Scene.advanceFetch, hdone, finishFetch]
    split
    · rfl
    · split <;> rfl
  · right
    refine ⟨call, ?_, hwaits⟩
    simp only [Scene.advanceFetch, hpending]

theorem waits_fetchAll (s : Scene StandIn K HeldCall) :
    ∀ f ∈ s.fetchAll.tracker.fetches,
      ∃ call, f.request = .pending call ∧ s.fetchAll.session.poll call = .waiting call := by
  have hall (fs : List (Fetch K HeldCall)) {t : Scene StandIn K HeldCall}
      (waits : ∀ f ∈ t.tracker.fetches, ∃ call, f.request = .pending call ∧ t.session.poll call = .waiting call) :
      ∀ f ∈ (fs.foldl Scene.advanceFetch t).tracker.fetches, ∃ call, f.request = .pending call ∧
        (fs.foldl Scene.advanceFetch t).session.poll call = .waiting call := by
    induction fs generalizing t with
    | nil => exact waits
    | cons f fs ih =>
      have hbare : (t.advanceFetch f).session.bare = t.session.bare := by
        rw [(advanceFetch_frame t f).1]
        exact (continues_poll _ _).bare
      -- Sending a command opens no gate, so what waited before still does.
      have hpoll (call : HeldCall) : (t.advanceFetch f).session.poll call = t.session.poll call := by
        show (t.advanceFetch f).session.bare.poll call = t.session.bare.poll call
        rw [hbare]
      refine ih fun g hg => ?_
      simp only [hpoll]
      obtain hsame | ⟨call, hnew, hwaits⟩ := fetches_advanceFetch t f
      · exact waits g (hsame ▸ hg)
      · rw [hnew] at hg
        rcases List.mem_append.mp hg with hold | hg
        · exact waits g hold
        · rw [List.mem_singleton.mp hg]
          exact ⟨call, rfl, hwaits⟩
  exact hall s.tracker.fetches (t := { s with tracker := { s.tracker with fetches := [] } }) nofun

/-- All that can proceed on one side of a page does. -/
def settle (s : Scene StandIn K HeldCall) : Scene StandIn K HeldCall := s.fetchAll.pumpAll.fetchAll

theorem settled_settle (h : Among others s) : Settled s.settle where
  inbox henabled := by
    have hfetched := (moves_fetchAll h).among
    obtain ⟨hrouter, hphase⟩ := fetchAll_frame s.fetchAll.pumpAll
    have henabled : s.fetchAll.pumpAll.tracker.isEnabled = true := by
      rwa [settle, Tracker.isEnabled, hphase] at henabled
    have hinbox : s.settle.inbox = s.fetchAll.pumpAll.inbox :=
      inbox_of_router hrouter (by rw [settle, Tracker.attachment?, Tracker.attachment?, hphase])
    have hwas : s.fetchAll.tracker.isEnabled = true := by
      by_contra hnot
      have hsame : s.fetchAll.pumpAll = s.fetchAll := by
        rw [Scene.pumpAll, waiting_eq, if_neg hnot]
        exact pump_of_not_enabled (s := s.fetchAll) (by simpa using hnot)
      rw [hsame] at henabled
      exact hnot henabled
    rw [hinbox]
    exact (hfetched.inbox_pumpAll hwas).2
  fetches := waits_fetchAll _

end Scene

end PageCoverage
