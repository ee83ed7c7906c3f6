import PageCoverage.Proofs.Session.Remembering
import PageCoverage.Strategy.Script
import PageCoverage.Tracking.Scene

namespace PageCoverage

namespace Scene

variable {σ K κ : Type} [Session σ κ] [Strategy K]

/-- The commands of a stop: the one that collects the usage, then those that disable. -/
def stopBatch (options : K) : List Command :=
  Strategy.collectCommand options :: Strategy.disableCommands options

/-- Anything may happen around a stop between two of its polls, to the session, the fetches and the cache.
The stop itself stays where it is and sends nothing. -/
structure Meanwhile (s t : Scene (Recorded σ) K κ) : Prop where
  phase : t.tracker.phase = s.tracker.phase
  sent : t.session.sent = s.session.sent

/-- A stop that has begun is polled until it ends with a result. -/
inductive StopPolled : Scene (Recorded σ) K κ → Except CoverageError (List Entry) →
    Scene (Recorded σ) K κ → Prop where
  | last {s t : Scene (Recorded σ) K κ} {r} : s.advance = (some (.stopped r), t) → StopPolled s r t
  | wait {s t u v : Scene (Recorded σ) K κ} {r} :
    s.advance = (none, t) → Meanwhile t u → StopPolled u r v → StopPolled s r v

omit [Strategy K] in
theorem sent_detach [Remembers σ κ] (s : Scene σ K κ) (a : Attachment) :
    Remembers.sent (s.detach a).session = Remembers.sent s.session :=
  (Remembers.sent_closeSink _ a.sink).trans (Remembers.sent_foldl_release a.subscriptions s.session)

/-- A stop begins without sending anything; its whole batch is still to come. -/
theorem beginStop_of_enabled {s t : Scene (Recorded σ) K κ} {options : K} {a : Attachment}
    (enabled : s.tracker.phase = .enabled options a) (h : s.beginStop = (.ok (), t)) :
    t.tracker.phase = .stopping options ((stopBatch options).map .unsent) ∧
      t.session.sent = s.session.sent := by
  simp only [beginStop, enabled, Prod.mk.injEq, true_and] at h
  subst h
  exact ⟨rfl, sent_detach s a⟩

theorem sent_advance_of_stopping [Remembers σ κ] {s : Scene σ K κ} {options : K} {batch : List (Request κ)}
    (stopping : s.tracker.phase = .stopping options batch) :
    Remembers.sent s.advance.2.session = Remembers.sent (Request.pollAll s.session batch).2 := by
  simp only [advance, stopping]
  split
  · exact Remembers.sent_cancelAll _ _
  · split <;> rfl

/-- A poll that does not end a stop has sent all of its commands. -/
theorem isSent_advance_of_stopping {s t : Scene (Recorded σ) K κ} {options : K}
    {batch : List (Request κ)} (stopping : s.tracker.phase = .stopping options batch)
    (h : s.advance = (none, t)) :
    ∃ rest, t.tracker.phase = .stopping options rest ∧ ∀ r ∈ rest, r.isSent = true := by
  simp only [advance, stopping] at h
  split at h
  · simp at h
  next hfail =>
    split at h
    · simp at h
    · simp only [Prod.mk.injEq, true_and] at h
      subst h
      exact ⟨_, rfl, Request.isSent_pollAll hfail⟩

/-- Once its batch is out, a stop sends nothing more. -/
theorem StopPolled.sent_of_isSent {s t : Scene (Recorded σ) K κ} {r : Except CoverageError (List Entry)}
    (h : StopPolled s r t) {options : K} {batch : List (Request κ)}
    (stopping : s.tracker.phase = .stopping options batch) (hsent : ∀ r ∈ batch, r.isSent = true) :
    t.session.sent = s.session.sent := by
  induction h generalizing batch with
  | @last s t r h =>
    have hstep : s.advance.2.session.sent = (Request.pollAll s.session batch).2.sent :=
      sent_advance_of_stopping stopping
    rwa [h, Request.sent_pollAll_of_isSent hsent] at hstep
  | @wait s t u v r h between _ ih =>
    obtain ⟨rest, hphase, hrest⟩ := isSent_advance_of_stopping stopping h
    have hstep : s.advance.2.session.sent = (Request.pollAll s.session batch).2.sent :=
      sent_advance_of_stopping stopping
    rw [h, Request.sent_pollAll_of_isSent hsent] at hstep
    exact (ih (between.phase.trans hphase) hrest).trans (between.sent.trans hstep)

/-- A stop sends what the first poll of its batch issues. -/
theorem StopPolled.sent_of_unsent {s t : Scene (Recorded σ) K κ} {r : Except CoverageError (List Entry)}
    (h : StopPolled s r t) {options : K} {cs : List Command}
    (stopping : s.tracker.phase = .stopping options (cs.map .unsent)) :
    t.session.sent = s.session.sent ++ Request.issued s.session.session cs := by
  have hfirst : s.advance.2.session.sent = (Request.pollAll s.session (cs.map .unsent)).2.sent :=
    sent_advance_of_stopping stopping
  rw [Request.sent_pollAll_unsent] at hfirst
  cases h with
  | last h => rwa [h] at hfirst
  | wait h between polled =>
    obtain ⟨rest, hphase, hrest⟩ := isSent_advance_of_stopping stopping h
    rw [h] at hfirst
    exact (polled.sent_of_isSent (between.phase.trans hphase) hrest).trans (between.sent.trans hfirst)

/-- A stop that ends with a result has sent its collect command first and each command at most once, and
it has sent all of them exactly if none before the last was rejected at once. -/
theorem stop_sends_batch_iff {s begun polled t : Scene (Recorded σ) K κ} {options : K} {a : Attachment}
    {r : Except CoverageError (List Entry)} (enabled : s.tracker.phase = .enabled options a)
    (begins : s.beginStop = (.ok (), begun)) (between : Meanwhile begun polled)
    (ends : StopPolled polled r t) :
    ∃ issued, t.session.sent = s.session.sent ++ issued ∧
      [Strategy.collectCommand options] <+: issued ∧ issued <+: stopBatch options ∧
      (issued = stopBatch options ↔ ∀ before c next after,
        stopBatch options = before ++ c :: next :: after →
          ¬Request.RejectedAtOnce polled.session.session before c) := by
  obtain ⟨hphase, hsent⟩ := beginStop_of_enabled enabled begins
  refine ⟨Request.issued polled.session.session (stopBatch options), ?_, ?_, ?_, Request.issued_eq_iff⟩
  · rw [ends.sent_of_unsent (between.phase.trans hphase), between.sent, hsent]
  · rw [stopBatch, Request.issued]
    exact (List.prefix_cons_inj _).mpr List.nil_prefix
  · exact Request.issued_prefix _ _

/-- Script coverage that has been started on a stand-in that rejects one method. -/
def rejectingScripts (method : String) : Scene (Recorded StandIn) ScriptOptions HeldCall :=
  let idle : Scene (Recorded StandIn) ScriptOptions HeldCall :=
    { session := ⟨({} : StandIn).respond method (.reject "gone"), []⟩, tracker := {} }
  (idle.beginStart {}).2.advance.2

/-- A rejected `Profiler.disable` keeps `Debugger.disable` from going out. -/
theorem stop_sends_batch_iff_profiler_disable :
    let s := rejectingScripts Method.profilerDisable
    let begun := s.beginStop.2
    let t := begun.advance.2
    (s.tracker.phase = .enabled {} ⟨0, [⟨Event.scriptParsed, 0⟩, ⟨Event.executionContextsCleared, 1⟩], true⟩ ∧
      s.beginStop = (.ok (), begun) ∧ Meanwhile begun begun ∧
      StopPolled begun (.error (.command Method.profilerDisable "gone")) t) ∧
    ∃ issued, t.session.sent = s.session.sent ++ issued ∧
      [Strategy.collectCommand (K := ScriptOptions) {}] <+: issued ∧
      issued <+: stopBatch (K := ScriptOptions) {} ∧
      (issued = stopBatch (K := ScriptOptions) {} ↔ ∀ before c next after,
        stopBatch (K := ScriptOptions) {} = before ++ c :: next :: after →
          ¬Request.RejectedAtOnce begun.session.session before c) := by
  have ends : StopPolled (rejectingScripts Method.profilerDisable).beginStop.2
      (.error (.command Method.profilerDisable "gone"))
      (rejectingScripts Method.profilerDisable).beginStop.2.advance.2 := .last rfl
  exact ⟨⟨rfl, rfl, ⟨rfl, rfl⟩, ends⟩, stop_sends_batch_iff rfl rfl ⟨rfl, rfl⟩ ends⟩

/-- A stop whose collect command is rejected at once ends without having sent its other commands. -/
theorem not_stop_sends_batch :
    ¬∀ (s begun polled t : Scene (Recorded StandIn) ScriptOptions HeldCall) (options : ScriptOptions)
      (a : Attachment) (r : Except CoverageError (List Entry)),
      s.tracker.phase = .enabled options a → s.beginStop = (.ok (), begun) → Meanwhile begun polled →
        StopPolled polled r t → t.session.sent = s.session.sent ++ stopBatch options := by
  intro h
  have hsent := h (rejectingScripts Method.takePreciseCoverage) _ _ _ {} _
    (.error (.command Method.takePreciseCoverage "gone")) rfl rfl ⟨rfl, rfl⟩ (.last rfl)
  have hlength := congrArg List.length hsent
  simp only [List.length_append] at hlength
  exact absurd hlength (by decide)

end Scene

end PageCoverage
