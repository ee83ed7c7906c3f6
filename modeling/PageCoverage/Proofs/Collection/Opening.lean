import PageCoverage.Run

namespace PageCoverage

namespace Run

variable {σ κ : Type} [Session σ κ] {settings : Settings}

/-- The runtime domain is enabled. -/
def IsOpen (r : Run σ κ) : Prop := ∃ v, r.opening = .done (.ok v)

/-- Nothing is collected yet, and neither tracker has done anything. -/
def IsUntouched (settings : Settings) (r : Run σ κ) : Prop :=
  r.collection = { page := { session := r.session }, settings }

theorem isOpen_advance {r : Run σ κ} (h : r.IsOpen) : r.advance.IsOpen := by
  obtain ⟨v, hv⟩ := h
  refine ⟨v, ?_⟩
  simp only [advance, hv, Request.poll]

omit [Session σ κ] in
theorem IsUntouched.of_collection {r q : Run σ κ} (h : r.IsUntouched settings) (same : q.collection = r.collection) :
    q.IsUntouched settings := by
  rw [IsUntouched, session, same]
  exact h

omit [Session σ κ] in
theorem IsUntouched.withSession {r : Run σ κ} (h : r.IsUntouched settings) (s : σ) :
    (r.withSession s).IsUntouched settings := by
  rw [IsUntouched, Run.withSession, h]
  rfl

theorem IsUntouched.advance {r : Run σ κ} (h : r.IsUntouched settings) :
    r.advance.IsOpen ∨ r.advance.IsUntouched settings := by
  have hpolled := h.withSession (r.opening.poll r.session).2
  cases hopening : (r.opening.poll r.session).1 with
  | done result =>
    cases result with
    | ok v => exact .inl ⟨v, by simp only [Run.advance, hopening]⟩
    | error e => exact .inr (hpolled.of_collection (by simp only [Run.advance, hopening]))
  | _ => exact .inr (hpolled.of_collection (by simp only [Run.advance, hopening]))

theorem IsUntouched.meet {r : Run Socket SocketCall} (h : r.IsUntouched settings) (x : Happening) :
    (r.meet x).IsUntouched settings := by
  cases x with
  | frame text =>
    rw [Run.meet]
    split
    · exact h
    · exact h.withSession _
  | ending e =>
    rw [Run.meet]
    split
    · exact h
    · exact h.withSession _
  | enough interrupt =>
    have hwaiting : r.collection.isWaiting = false := by
      rw [h]
      rfl
    have hsame : r.meet (.enough interrupt) = r := by
      rw [Run.meet, stopWaiting, hwaiting]
      rfl
    rwa [hsame]

theorem isOpen_meet {r : Run Socket SocketCall} (h : r.IsOpen) (x : Happening) : (r.meet x).IsOpen := by
  cases x with
  | frame text =>
    rw [meet]
    split <;> exact h
  | ending e =>
    rw [meet]
    split <;> exact h
  | enough interrupt =>
    rw [meet, stopWaiting]
    split <;> exact h

/-- Whatever a run meets, it collects nothing before the runtime domain is enabled. -/
theorem isOpen_or_isUntouched (s : Socket) (settings : Settings) (happenings : List Happening) :
    ((new s settings).follow happenings).IsOpen ∨ ((new s settings).follow happenings).IsUntouched settings := by
  have fresh : (new s settings : Run Socket SocketCall).IsUntouched settings := rfl
  rw [follow]
  refine List.foldlRecOn (motive := fun r : Run Socket SocketCall => r.IsOpen ∨ r.IsUntouched settings) happenings _
    fresh.advance fun r h x _ => ?_
  obtain hopen | huntouched := h
  · exact .inl (isOpen_advance (isOpen_meet hopen x))
  · exact (huntouched.meet x).advance

end Run

end PageCoverage
