import PageCoverage.Proofs.Session.Shutdown
import PageCoverage.Proofs.Tracking.Lasting

namespace PageCoverage

/-- In such states of a session whoever looks for an answer finds one, and it stays in them. -/
structure Session.Prompt {σ κ : Type} [Session σ κ] (P : σ → Prop) : Prop extends Session.Lasts P where
  answers (s : σ) (call : κ) : P s → ∃ r, (Session.poll s call).1 = .finished r

namespace Session.Prompt

variable {σ κ : Type} [Session σ κ] {P : σ → Prop} {s : σ} (prompt : Prompt P)

include prompt

theorem request_done (r : Request κ) (h : P s) : ∃ result, (r.poll s).1 = .done result := by
  cases r with
  | unsent c =>
    obtain ⟨result, hresult⟩ := prompt.answers _ (Session.send s c).1 (prompt.send s c h)
    exact ⟨result, by simp only [Request.poll, hresult, Request.ofProgress]⟩
  | pending call =>
    obtain ⟨result, hresult⟩ := prompt.answers s call h
    exact ⟨result, by simp only [Request.poll, hresult, Request.ofProgress]⟩
  | done result => exact ⟨result, rfl⟩

/-- A batch of which nothing has failed is through. -/
theorem succeeded_of_pollAll (rs : List (Request κ)) (h : P s)
    (first : Request.firstFailure? (Request.pollAll s rs).1 = none) : ∀ r ∈ (Request.pollAll s rs).1, r.Succeeded := by
  induction rs generalizing s with
  | nil => exact nofun
  | cons r rs ih =>
    obtain ⟨result, hresult⟩ := prompt.request_done r h
    rw [Request.pollAll_cons] at first ⊢
    cases result with
    | error e =>
      have hfailed : (r.poll s).1.failure?.isSome = true := by rw [hresult]; rfl
      rw [if_pos hfailed] at first
      exact absurd (hresult ▸ List.mem_cons_self) (Request.firstFailure?_eq_none_iff.mp first e)
    | ok v =>
      have hsound : ¬(r.poll s).1.failure?.isSome = true := by rw [hresult]; exact nofun
      rw [if_neg hsound] at first ⊢
      have hrest : Request.firstFailure? (Request.pollAll (r.poll s).2 rs).1 = none :=
        Request.firstFailure?_eq_none_iff.mpr fun e he =>
          Request.firstFailure?_eq_none_iff.mp first e (List.mem_cons_of_mem _ he)
      exact List.forall_mem_cons.mpr ⟨⟨v, hresult⟩, ih (prompt.request r h) hrest⟩

end Session.Prompt

namespace Scene

variable {σ K κ : Type} [Session σ κ] {s : Scene σ K κ}

/-- A start is under way. -/
def IsStarting (s : Scene σ K κ) : Prop := ∃ options a batch, s.tracker.phase = .starting options a batch

/-- A stop is under way. -/
def IsStopping (s : Scene σ K κ) : Prop := ∃ options batch, s.tracker.phase = .stopping options batch

variable [Strategy K]

theorem isStarting_of_beginStart {options : K} (begun : (s.beginStart options).1 = .ok ()) :
    (s.beginStart options).2.IsStarting := by
  rw [beginStart] at begun ⊢
  split at begun
  · cases begun
  next hidle =>
    rw [if_neg hidle]
    cases hattach : (s.abandon.withCache s.abandon.tracker.cache.beginSession).attach with
    | mk r t =>
      cases r with
      | error e =>
        simp only [hattach] at begun
        cases begun
      | ok a =>
        simp only [hattach]
        exact ⟨_, _, _, rfl⟩

theorem isStopping_of_beginStop (begun : s.beginStop.1 = .ok ()) : s.beginStop.2.IsStopping := by
  rw [beginStop] at begun ⊢
  split
  next hphase => exact ⟨_, _, rfl⟩
  next hphase =>
    split at begun
    next h => exact absurd h (hphase _ _)
    · cases begun

/-- A poll ends a start or leaves it under way. -/
theorem IsStarting.advance (h : s.IsStarting) :
    (∃ r, s.advance.1 = some (.started r)) ∨ s.advance.1 = none ∧ s.advance.2.IsStarting := by
  obtain ⟨options, a, batch, hphase⟩ := h
  rw [advance_starting hphase]
  cases Request.firstFailure? s.fates with
  | some e => exact .inl ⟨_, rfl⟩
  | none =>
    cases Request.answers? s.fates with
    | some answers => exact .inl ⟨_, rfl⟩
    | none => exact .inr ⟨rfl, options, a, s.fates, by rw [polled_of_starting hphase]⟩

theorem IsStopping.advance (h : s.IsStopping) :
    (∃ r, s.advance.1 = some (.stopped r)) ∨ s.advance.1 = none ∧ s.advance.2.IsStopping := by
  obtain ⟨options, batch, hphase⟩ := h
  rw [advance_stopping hphase]
  cases Request.firstFailure? s.fates with
  | some e => exact .inl ⟨_, rfl⟩
  | none =>
    cases Request.answers? s.fates with
    | some answers => exact .inl ⟨_, rfl⟩
    | none => exact .inr ⟨rfl, options, s.fates, by rw [polled_of_stopping hphase]⟩

variable {P : σ → Prop} (prompt : Session.Prompt P)

include prompt

/-- On a session that answers everything a start or a stop ends with the next poll. -/
theorem advance_of_prompt (h : P s.session) (underWay : s.IsStarting ∨ s.IsStopping) : s.advance.1 ≠ none := by
  have answered (rs : List (Request κ)) (hfates : s.fates = (Request.pollAll s.session rs).1)
      (first : Request.firstFailure? s.fates = none) : ∃ vs, Request.answers? s.fates = some vs := by
    rw [hfates] at first ⊢
    exact Request.succeeded_iff.mp (prompt.succeeded_of_pollAll rs h first)
  obtain ⟨options, a, batch, hphase⟩ | ⟨options, batch, hphase⟩ := underWay
  · rw [advance_starting hphase]
    cases hfirst : Request.firstFailure? s.fates with
    | some e => exact Option.some_ne_none _
    | none =>
      obtain ⟨vs, hvs⟩ := answered batch (by simp only [fates, hphase]) hfirst
      simp only [hvs]
      exact Option.some_ne_none _
  · rw [advance_stopping hphase]
    cases hfirst : Request.firstFailure? s.fates with
    | some e => exact Option.some_ne_none _
    | none =>
      obtain ⟨vs, hvs⟩ := answered batch (by simp only [fates, hphase]) hfirst
      simp only [hvs]
      exact Option.some_ne_none _

end Scene

namespace Socket

/-- The connection has ended, and nobody waits on it. -/
def IsOver (s : Socket) : Prop := s.isClosed = true ∧ s.pending = []

/-- Whatever is asked of a connection that has ended is answered at once. -/
theorem prompt_isOver : Session.Prompt IsOver where
  withRouter _ _ h := h
  send s c h := by
    show (s.send c).2.IsOver
    rw [send_of_closed h.1]
    exact h
  poll s call h := by
    show (s.poll call).2.IsOver
    cases call with
    | refused => exact h
    | sent id =>
      rw [Socket.poll]
      split
      · exact h
      · split <;> exact h
  cancel s call h := by
    show (s.cancel call).IsOver
    cases call with
    | refused => exact h
    | sent id => exact ⟨h.1, by simp only [cancel, h.2, withoutKey, List.filter_nil]⟩
  answers s call h := by
    show ∃ r, (s.poll call).1 = .finished r
    cases call with
    | refused => exact ⟨_, rfl⟩
    | sent id =>
      rw [Socket.poll]
      split
      · exact ⟨_, rfl⟩
      · rw [h.2]
        exact ⟨_, rfl⟩

/-- Where a connection has ended, nobody waits on it. -/
def IsDrained (s : Socket) : Prop := s.isClosed = true → s.pending = []

theorem lasts_isDrained : Session.Lasts IsDrained where
  withRouter _ _ h := h
  send s c h := by
    show (s.send c).2.IsDrained
    cases hclosed : s.isClosed with
    | true =>
      rw [send_of_closed hclosed]
      exact h
    | false =>
      have hsame : (s.send c).2.isClosed = s.isClosed := by
        cases hrefused : s.isClosed || s.wire == .broken <;> simp [Socket.send, takeId, hrefused]
      intro closed
      rw [hsame, hclosed] at closed
      cases closed
  poll s call h := by
    show (s.poll call).2.IsDrained
    cases call with
    | refused => exact h
    | sent id =>
      rw [Socket.poll]
      split
      · exact h
      · split <;> exact h
  cancel s call h := by
    show (s.cancel call).IsDrained
    cases call with
    | refused => exact h
    | sent id => exact fun closed => by simp only [cancel, h closed, withoutKey, List.filter_nil]

theorem isOver_finish (s : Socket) (e : Ending) : (s.finish e).IsOver := by
  cases e <;> exact ⟨rfl, rfl⟩

end Socket

end PageCoverage
