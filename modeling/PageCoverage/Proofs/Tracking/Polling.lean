import PageCoverage.Proofs.Session.Batch
import PageCoverage.Proofs.Tracking.Steps

namespace PageCoverage

namespace Scene

variable {σ K κ : Type} [Session σ κ] {s : Scene σ K κ} {options : K} {a : Attachment} {batch : List (Request κ)}

/-- The requests of the start or the stop under way as one more poll leaves them. -/
def fates (s : Scene σ K κ) : List (Request κ) :=
  match s.tracker.phase with
  | .starting _ _ batch | .stopping _ batch => (Request.pollAll s.session batch).1
  | _ => []

/-- One more poll of the start or the stop under way, from which nothing has been concluded yet: it waits
for the cache. -/
def polled (s : Scene σ K κ) : Scene σ K κ :=
  match s.tracker.phase with
  | .starting options a batch =>
    { s with session := (Request.pollAll s.session batch).2 }.enter (.starting options a s.fates)
  | .stopping options batch =>
    { s with session := (Request.pollAll s.session batch).2 }.enter (.stopping options s.fates)
  | _ => s

theorem polled_of_starting (starting : s.tracker.phase = .starting options a batch) :
    s.polled.tracker = ⟨s.tracker.cache, .starting options a s.fates, s.tracker.fetches⟩ := by
  simp only [polled, starting, tracker_enter]

theorem polled_of_stopping (stopping : s.tracker.phase = .stopping options batch) :
    s.polled.tracker = ⟨s.tracker.cache, .stopping options s.fates, s.tracker.fetches⟩ := by
  simp only [polled, stopping, tracker_enter]

theorem router_polled [LawfulSession σ] (s : Scene σ K κ) :
    Session.router s.polled.session = Session.router s.session := by
  rw [polled]
  split
  · exact Request.router_pollAll _ _
  · exact Request.router_pollAll _ _
  · rfl

/-- How a poll of a start is taken. -/
theorem advance_starting [Strategy K] (starting : s.tracker.phase = .starting options a batch) :
    s.advance =
      match Request.firstFailure? s.fates with
      | some e => (some (.started (.error e)), s.polled.abandon)
      | none =>
        match Request.answers? s.fates with
        | some _ => (some (.started (.ok ())), s.polled.finishStart options a)
        | none => (none, s.polled) := by
  simp only [advance, polled, fates, starting]
  cases Request.firstFailure? (Request.pollAll s.session batch).1 with
  | some e => rfl
  | none => cases Request.answers? (Request.pollAll s.session batch).1 <;> rfl

/-- How a poll of a stop is taken. -/
theorem advance_stopping [Strategy K] (stopping : s.tracker.phase = .stopping options batch) :
    s.advance =
      match Request.firstFailure? s.fates with
      | some e => (some (.stopped (.error e)), s.polled.abandon.finishStop.2)
      | none =>
        match Request.answers? s.fates with
        | some answers =>
          (some (.stopped (entriesOf options s.tracker.cache.records answers)), s.polled.finishStop.2)
        | none => (none, s.polled) := by
  simp only [advance, polled, fates, stopping]
  cases Request.firstFailure? (Request.pollAll s.session batch).1 with
  | some e => rfl
  | none => cases Request.answers? (Request.pollAll s.session batch).1 <;> rfl

end Scene

end PageCoverage
