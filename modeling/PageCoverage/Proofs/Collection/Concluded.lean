import PageCoverage.Proofs.Collection.Stepping
import PageCoverage.Session.StandIn

namespace PageCoverage

namespace Outcome

def startFailure? : Outcome → Option CoverageError
  | .started (.error e) => some e
  | _ => none

def stopFailure? : Outcome → Option CoverageError
  | .stopped (.error e) => some e
  | _ => none

/-- The error of the start of a kind, if it has failed. -/
def failedStart? (ends : List (ResourceKind × Outcome)) (kind : ResourceKind) : Option CoverageError :=
  (of kind ends).findSome? startFailure?

/-- The error of the stop of a kind, if it has failed. -/
def failedStop? (ends : List (ResourceKind × Outcome)) (kind : ResourceKind) : Option CoverageError :=
  (of kind ends).findSome? stopFailure?

/-- The failure that a run reports: starts come before stops, and scripts before stylesheets. -/
def firstFailure? (ends : List (ResourceKind × Outcome)) : Option CoverageError :=
  failedStart? ends .script <|> failedStart? ends .stylesheet <|>
    failedStop? ends .script <|> failedStop? ends .stylesheet

/-- Every outcome is one of some kind. -/
theorem forall_ends {ends : List (ResourceKind × Outcome)} {P : Outcome → Prop} :
    (∀ x ∈ ends, P x.2) ↔ ∀ kind, ∀ o ∈ of kind ends, P o := by
  constructor
  · intro h kind o ho
    obtain ⟨x, hx, hsome⟩ := List.mem_filterMap.mp ho
    split at hsome
    · cases hsome
      exact h x hx
    · cases hsome
  · intro h x hx
    exact h x.1 x.2 (List.mem_filterMap.mpr ⟨x, hx, if_pos rfl⟩)

/-- No failure is reported exactly if nothing has failed. -/
theorem firstFailure?_eq_none_iff {ends : List (ResourceKind × Outcome)} :
    firstFailure? ends = none ↔ ∀ x ∈ ends, x.2.startFailure? = none ∧ x.2.stopFailure? = none := by
  rw [forall_ends (P := fun o => o.startFailure? = none ∧ o.stopFailure? = none)]
  simp only [firstFailure?, Option.orElse_eq_orElse, Option.orElse_eq_or, Option.or_eq_none_iff, failedStart?,
    failedStop?, List.findSome?_eq_none_iff]
  constructor
  · rintro ⟨hjs, hcss, hjs', hcss'⟩ kind o ho
    cases kind
    · exact ⟨hjs o ho, hjs' o ho⟩
    · exact ⟨hcss o ho, hcss' o ho⟩
  · intro h
    exact ⟨fun o ho => (h .script o ho).1, fun o ho => (h .stylesheet o ho).1, fun o ho => (h .script o ho).2,
      fun o ho => (h .stylesheet o ho).2⟩

/-- What becomes of one kind in a run, with the number of times that its collect command is sent. -/
inductive Fate : List Outcome → Nat → Prop where
  | unstarted : Fate [] 0
  | refused (e : CoverageError) : Fate [.started (.error e)] 0
  | stopped (r : Except CoverageError (List Entry)) : Fate [.started (.ok ()), .stopped r] 1

end Outcome

namespace Collection

open Scene

variable {σ κ : Type} [Session σ κ]

/-- What a run leaves and what it reports. -/
structure Concludes (settings : Settings) (session : Recorded σ) (ends : List (ResourceKind × Outcome))
    (sinks : List SinkId) (r : RunResult) : Prop where
  unfed : ∀ k ∈ sinks, (Session.router session).feeders k = []
  /-- A kind that has been started has been stopped, and collected once. -/
  fates : ∀ kind, Outcome.Fate (Outcome.of kind ends) (kind.collects session.sent)
  scripts : Outcome.of .script ends ≠ [] ↔ settings.collectScripts = true
  stylesheets : Outcome.of .stylesheet ends ≠ [] ↔
    settings.collectStylesheets = true ∧ Outcome.failedStart? ends .script = none
  ok_iff : (∃ report, r = .ok report) ↔ ∀ x ∈ ends, x.2.startFailure? = none ∧ x.2.stopFailure? = none
  error_iff : ∀ e, r = .error e ↔ Outcome.firstFailure? ends = some e
  report : ∀ report, r = .ok report →
    report.scripts.isSome = settings.collectScripts ∧ report.stylesheets.isSome = settings.collectStylesheets

end Collection

/-- A kind that is not under way any more. -/
def Course.IsOver : Course → Prop
  | .unstarted | .refused _ | .stopped _ => True
  | _ => False

theorem Course.isOver_over (r : Option (Except CoverageError (List Entry))) : (Course.over r).IsOver := by
  cases r <;> trivial

namespace Collection

open Scene

variable {σ κ : Type} [Session σ κ] {settings : Settings} {courses : Courses} {r : RunResult}

omit [Session σ κ] in
theorem fate_of_stands {kind : ResourceKind} {s : Scene (Recorded σ) kind.Options κ} {course : Course}
    (stands : s.Stands kind course) (isOver : course.IsOver) :
    s.tracker.phase = .idle ∧ Outcome.Fate course.ends (kind.collects s.session.sent) := by
  cases course with
  | starting => cases isOver
  | started => cases isOver
  | stopping => cases isOver
  | unstarted =>
    obtain ⟨hidle, hcollects⟩ := stands
    rw [hcollects]
    exact ⟨hidle, .unstarted⟩
  | refused e =>
    obtain ⟨hidle, hcollects⟩ := stands
    rw [hcollects]
    exact ⟨hidle, .refused e⟩
  | stopped r =>
    obtain ⟨hidle, hcollects⟩ := stands
    rw [hcollects]
    exact ⟨hidle, .stopped r⟩

theorem isOver_of_finished (h : Stage.Matches settings (.finished r) courses) (kind : ResourceKind) :
    (courses.of kind).IsOver := by
  cases h with
  | refusedScripts e => cases kind <;> trivial
  | refusedStylesheets e scripts => cases kind <;> first | exact Course.isOver_over scripts | trivial
  | reported scripts stylesheets =>
    cases kind
    · exact Course.isOver_over scripts
    · exact Course.isOver_over stylesheets

section Results

variable {scripts stylesheets : Option (Except CoverageError (List Entry))}

/-- The error of a stop, if there was one. -/
def stopError? : Option (Except CoverageError (List Entry)) → Option CoverageError
  | some (.error e) => some e
  | _ => none

theorem ends_over_ne_nil : (Course.over scripts).ends ≠ [] ↔ scripts.isSome = true := by
  cases scripts <;> simp [Course.over, Course.ends]

theorem failedStart?_over : (Course.over scripts).ends.findSome? Outcome.startFailure? = none := by
  cases scripts <;> rfl

theorem failedStop?_over : (Course.over scripts).ends.findSome? Outcome.stopFailure? = stopError? scripts := by
  obtain _ | _ | _ := scripts <;> rfl

/-- Of the errors of both stops the report gives that of the scripts. -/
theorem report_eq_error_iff {e : CoverageError} :
    report scripts stylesheets = .error e ↔ (stopError? scripts <|> stopError? stylesheets) = some e := by
  obtain _ | _ | _ := scripts <;> obtain _ | _ | _ := stylesheets <;>
    simp [report, stopError?, bind, Except.bind, pure, Except.pure]

theorem isSome_of_report {r : RunReport} (h : report scripts stylesheets = .ok r) :
    r.scripts.isSome = scripts.isSome ∧ r.stylesheets.isSome = stylesheets.isSome := by
  obtain _ | _ | _ := scripts <;> obtain _ | _ | _ := stylesheets <;> cases h <;> exact ⟨rfl, rfl⟩

end Results

/-- The result of a run is the first error of its starts and stops, or a report on the kinds that are collected. -/
theorem result_of_finished {ends : List (ResourceKind × Outcome)}
    (h : Stage.Matches settings (.finished r) courses)
    (hscripts : Outcome.of .script ends = courses.scripts.ends)
    (hstylesheets : Outcome.of .stylesheet ends = courses.stylesheets.ends) :
    (Outcome.of .script ends ≠ [] ↔ settings.collectScripts = true) ∧
      (Outcome.of .stylesheet ends ≠ [] ↔
        settings.collectStylesheets = true ∧ Outcome.failedStart? ends .script = none) ∧
      (∀ e, r = .error e ↔ Outcome.firstFailure? ends = some e) ∧
      ∀ report, r = .ok report →
        report.scripts.isSome = settings.collectScripts ∧
          report.stylesheets.isSome = settings.collectStylesheets := by
  simp only [Outcome.firstFailure?, Outcome.failedStart?, Outcome.failedStop?, hscripts, hstylesheets]
  cases h with
  | refusedScripts e hon => simp [hon, Course.ends, Outcome.startFailure?]
  | refusedStylesheets e scripts hjs hon =>
    have hne : (Course.refused e).ends ≠ [] := List.cons_ne_nil _ _
    have hrefused : (Course.refused e).ends.findSome? Outcome.startFailure? = some e := rfl
    simpa [-ne_eq, ends_over_ne_nil, failedStart?_over, hrefused, hjs, hon] using hne
  | reported scripts stylesheets hjs hcss =>
    simp only [ends_over_ne_nil, failedStart?_over, failedStop?_over, hjs, hcss, and_true, iff_self, true_and]
    exact ⟨fun _ => report_eq_error_iff, fun _ hok => hjs ▸ hcss ▸ isSome_of_report hok⟩

variable {c : Collection (Recorded σ) κ} {ends : List (ResourceKind × Outcome)} {sinks : List SinkId}

theorem Kept.concluded (h : Kept settings c ends sinks courses) (finished : c.stage = .finished r) :
    Concludes settings c.page.session ends sinks r := by
  have hmatch := h.stage
  rw [finished] at hmatch
  have hover := isOver_of_finished hmatch
  have hfates (kind : ResourceKind) := fate_of_stands (h.abreast.stands kind) (hover kind)
  obtain ⟨hscripts, hstylesheets, herror, hreport⟩ :=
    result_of_finished hmatch (h.abreast.ends .script) (h.abreast.ends .stylesheet)
  constructor
  case unfed =>
    -- Neither tracker is attached any more.
    intro k hk
    refine h.abreast.left k hk fun kind => ?_
    rw [Tracker.sink?_of_idle (hfates kind).1]
    nofun
  case fates =>
    intro kind
    have hfate := (hfates kind).2
    rwa [← h.abreast.ends, Page.session_scene] at hfate
  case ok_iff =>
    rw [← Outcome.firstFailure?_eq_none_iff]
    cases r with
    | ok report =>
      have hnone : ∀ e, Outcome.firstFailure? ends ≠ some e := fun e he => nomatch (herror e).mpr he
      exact iff_of_true ⟨report, rfl⟩ (Option.eq_none_iff_forall_ne_some.mpr hnone)
    | error e => simp [(herror e).mp rfl]
  case scripts => exact hscripts
  case stylesheets => exact hstylesheets
  case error_iff => exact herror
  case report => exact hreport

/-- A run stops whatever it has started, in whichever way its commands succeed and fail. When it has finished,
nothing feeds a sink of its trackers, and each kind has been collected once if it was started and otherwise not at
all; the result is a report on the kinds that are collected, or the first error in the order of `firstFailure?`.
Until then a run goes on unless it is to wait, or some answer is still to come. -/
theorem run_concludes [LawfulSession σ] (run : Run settings c ends sinks) :
    (∀ r, c.stage = .finished r → Concludes settings c.page.session ends sinks r) ∧ c.Proceeds := by
  obtain ⟨courses, h⟩ := run.kept
  exact ⟨fun r finished => h.concluded finished, h.step.2⟩

/-- A stand-in on which the stylesheets cannot be watched. -/
def withoutStylesheets : StandIn := ({} : StandIn).respond Method.cssEnable (.reject "gone")

/-- Where stylesheet coverage cannot start, script coverage is stopped, and its usage collected, before the error is
returned. -/
theorem run_concludes_without_stylesheets :
    ∃ (c : Collection (Recorded StandIn) HeldCall) (ends : List (ResourceKind × Outcome)) (sinks : List SinkId),
      Run {} c ends sinks ∧ c.stage = .finished (.error (.command Method.cssEnable "gone")) ∧ sinks = [0, 1] ∧
        Outcome.of .script ends ≠ [] ∧ ResourceKind.script.collects c.page.session.sent = 1 ∧
        Concludes {} c.page.session ends sinks (.error (.command Method.cssEnable "gone")) ∧ c.Proceeds := by
  have hwell : (Session.router withoutStylesheets).WellFormed := nofun
  have fresh : Run {} { page := { session := ⟨withoutStylesheets, []⟩ }, settings := {} } [] [] :=
    .new withoutStylesheets hwell
  have run := fresh.step.step.step.step.step
  obtain ⟨hconcludes, hproceeds⟩ := run_concludes run
  exact ⟨_, _, _, run, rfl, rfl, List.cons_ne_nil _ _, rfl, hconcludes _ rfl, hproceeds⟩

end Collection

end PageCoverage
