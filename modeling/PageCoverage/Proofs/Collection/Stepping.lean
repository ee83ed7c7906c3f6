import PageCoverage.Proofs.Collection.Conduct

namespace PageCoverage

namespace Courses

/-- The courses before the start of a kind. -/
def fresh (settings : Settings) : ResourceKind → Courses
  | .script => ⟨.unstarted, .unstarted⟩
  | .stylesheet => ⟨.underWay settings.collectScripts, .unstarted⟩

/-- The courses before the stop of a kind. -/
def running (settings : Settings) (scripts : Option (Except CoverageError (List Entry))) : ResourceKind → Courses
  | .script => ⟨.underWay settings.collectScripts, .underWay settings.collectStylesheets⟩
  | .stylesheet => ⟨.over scripts, .underWay settings.collectStylesheets⟩

variable {settings : Settings}

theorem of_fresh (settings : Settings) (kind : ResourceKind) : (fresh settings kind).of kind = .unstarted := by
  cases kind <;> rfl

theorem of_running (settings : Settings) (scripts : Option (Except CoverageError (List Entry))) (kind : ResourceKind) :
    (running settings scripts kind).of kind = .underWay (settings.collects kind) := by
  cases kind <;> rfl

end Courses

namespace Stage

variable {settings : Settings} {scripts r : Option (Except CoverageError (List Entry))} {kind : ResourceKind}

theorem matches_starting (on : settings.collects kind = true) :
    (starting kind).Matches settings ((Courses.fresh settings kind).set kind .starting) := by
  cases kind with
  | script => exact .startingScripts on
  | stylesheet => exact .startingStylesheets on

theorem matches_started (settings : Settings) (kind : ResourceKind) :
    (started kind).Matches settings ((Courses.fresh settings kind).set kind (.underWay (settings.collects kind))) := by
  cases kind with
  | script => exact .beginStylesheets
  | stylesheet => exact .waiting

theorem matches_stopping (fits : kind = .stylesheet → scripts.isSome = settings.collectScripts)
    (on : settings.collects kind = true) :
    (stopping scripts kind).Matches settings ((Courses.running settings scripts kind).set kind .stopping) := by
  cases kind with
  | script => exact .stoppingScripts on
  | stylesheet => exact .stoppingStylesheets scripts (fits rfl) on

theorem matches_stopped (fits : kind = .stylesheet → scripts.isSome = settings.collectScripts)
    (given : r.isSome = settings.collects kind) :
    (stopped scripts r kind).Matches settings ((Courses.running settings scripts kind).set kind (.over r)) := by
  cases kind with
  | script => exact .beginStopStylesheets r given
  | stylesheet => exact .reported scripts r (fits rfl) given

end Stage

namespace Collection

open Scene

variable {σ κ : Type} [Session σ κ] {page : Page (Recorded σ) κ} {settings : Settings}

section Equations

variable (page : Page (Recorded σ) κ) (settings : Settings) (scripts : Option (Except CoverageError (List Entry)))
  (kind : ResourceKind)

theorem ended_beginning :
    (⟨page, settings, .beginning kind⟩ : Collection (Recorded σ) κ).ended =
      if settings.collects kind then
        refusal kind (fun e => .started (.error e)) ((page.scene kind).beginStart (settings.options kind)).1
      else [] := by
  cases kind <;> rfl

theorem ended_starting :
    (⟨page, settings, .starting kind⟩ : Collection (Recorded σ) κ).ended =
      (page.scene kind).advance.1.toList.map (kind, ·) := by
  cases kind <;> rfl

theorem ended_ending :
    (⟨page, settings, .ending scripts kind⟩ : Collection (Recorded σ) κ).ended =
      if settings.collects kind then
        refusal kind (fun e => .stopped (.error e)) (page.scene kind).beginStop.1
      else [] := by
  cases kind <;> rfl

theorem ended_stopping :
    (⟨page, settings, .stopping scripts kind⟩ : Collection (Recorded σ) κ).ended =
      (page.scene kind).advance.1.toList.map (kind, ·) := by
  cases kind <;> rfl

end Equations

variable {stage : Stage} {courses : Courses} {ends : List (ResourceKind × Outcome)} {sinks : List SinkId}
  {kind : ResourceKind} {scripts : Option (Except CoverageError (List Entry))} {e : CoverageError} [LawfulSession σ]

/-- Where stylesheet coverage has not started, a script coverage that has been started begins to stop. -/
theorem retreat_spec {e : CoverageError} (on : settings.collectStylesheets = true)
    (abreast : page.Abreast ends sinks ⟨.underWay settings.collectScripts, .refused e⟩) (stage : Stage) :
    ∃ (moved : Page (Recorded σ) κ) (next : Stage) (courses : Courses),
      (⟨page, settings, stage⟩ : Collection (Recorded σ) κ).retreat e = ⟨moved, settings, next⟩ ∧
        Session.opened page.session ≤ Session.opened moved.session ∧
        moved.Abreast ends (sinks ++ Session.newSinks page.session moved.session) courses ∧
        next.Matches settings courses ∧ 4 ≤ next.rank := by
  cases hscripts : settings.collectScripts with
  | false =>
    rw [hscripts] at abreast
    obtain ⟨hidle, -⟩ := abreast.stands .script
    have hnot : page.scripts.isEnabled = false := by
      have hphase : page.scripts.phase = .idle := hidle
      simp only [Tracker.isEnabled, hphase]
    refine ⟨page, .finished (.error e), _, ?_, Nat.le_refl _, ?_,
      .refusedStylesheets e none hscripts.symm on, by simp [Stage.rank]⟩
    · simp only [retreat, hnot, Bool.false_eq_true, if_false, enter]
    · rwa [Session.newSinks, Nat.sub_self, List.range'_zero, List.append_nil]
  | true =>
    rw [hscripts] at abreast
    obtain ⟨⟨options, a, hphase⟩, -⟩ := abreast.stands .script
    have henabled : page.scripts.isEnabled = true := Tracker.isEnabled_iff.mpr ⟨options, a, hphase⟩
    obtain ⟨hok, hput⟩ := abreast.stop .script rfl
    have hgrown := (works_beginStop (abreast.sound .script)).grown.opened
    refine ⟨page.put .script (page.scene .script).beginStop.2, .retreating e, _, ?_, hgrown, hput,
      .retreating e hscripts on, by simp [Stage.rank]⟩
    simp only [retreat, henabled, if_true, Page.stopScripts_eq, hok]

/-- Where a start has failed, what runs is stopped, and a run of nothing is over. -/
theorem refuse_spec (on : settings.collects kind = true)
    (abreast : page.Abreast ends sinks ((Courses.fresh settings kind).set kind (.refused e))) (stage : Stage) :
    ∃ (moved : Page (Recorded σ) κ) (next : Stage) (courses : Courses),
      refuse kind (⟨page, settings, stage⟩ : Collection (Recorded σ) κ) e = ⟨moved, settings, next⟩ ∧
        Session.opened page.session ≤ Session.opened moved.session ∧
        moved.Abreast ends (sinks ++ Session.newSinks page.session moved.session) courses ∧
        next.Matches settings courses ∧ 4 ≤ next.rank := by
  cases kind with
  | script =>
    refine ⟨page, .finished (.error e), _, rfl, Nat.le_refl _, ?_, .refusedScripts e on, by simp [Stage.rank]⟩
    rw [Session.newSinks, Nat.sub_self, List.range'_zero, List.append_nil]
    exact abreast
  | stylesheet => exact retreat_spec on abreast stage

/-- The step with which a start fails. -/
theorem steps_of_refused {t : Scene (Recorded σ) kind.Options κ} (on : settings.collects kind = true)
    (step : (⟨page, settings, stage⟩ : Collection (Recorded σ) κ).step =
      refuse kind (⟨page.put kind t, settings, stage⟩ : Collection (Recorded σ) κ) e)
    (ended : (⟨page, settings, stage⟩ : Collection (Recorded σ) κ).ended = [(kind, .started (.error e))])
    (opened : Session.opened page.session ≤ Session.opened t.session)
    (abreast : (page.put kind t).Abreast (ends ++ [(kind, .started (.error e))])
      (sinks ++ Session.newSinks page.session t.session) ((Courses.fresh settings kind).set kind (.refused e)))
    (early : stage.rank < 4) : Steps settings ⟨page, settings, stage⟩ ends sinks := by
  obtain ⟨moved, next, courses, hrefuse, hgrown, hmoved, hmatch, hrank⟩ := refuse_spec on abreast stage
  rw [Page.session_put] at hgrown hmoved
  rw [List.append_assoc, Session.newSinks_trans opened hgrown] at hmoved
  exact steps_of_moved (step.trans hrefuse) ended hmoved hmatch (Nat.lt_of_lt_of_le early hrank)

theorem steps_beginning (kind : ResourceKind) (abreast : page.Abreast ends sinks (Courses.fresh settings kind)) :
    Steps settings ⟨page, settings, .beginning kind⟩ ends sinks := by
  obtain ⟨hstarting, hstarted, hearly⟩ := Stage.rank_beginning kind
  cases hon : settings.collects kind with
  | false =>
    have hmatch := Stage.matches_started settings kind
    have hsame : Course.underWay (settings.collects kind) = (Courses.fresh settings kind).of kind := by
      rw [hon, Courses.of_fresh]
      rfl
    rw [hsame, Courses.set_of] at hmatch
    exact steps_of_entered (by simp [step_beginning, hon]) (by simp [ended_beginning, hon]) abreast hmatch
      (Nat.lt_trans hstarting hstarted)
  | true =>
    obtain ⟨hok, hput⟩ | ⟨e, herror, hput⟩ := abreast.start kind (Courses.of_fresh _ _) (settings.options kind)
    · exact steps_of_begun (by simp [step_beginning, hon, hok]) (by simp [ended_beginning, hon, hok, refusal])
        hput (Stage.matches_starting hon) hstarting
    · have hidle := abreast.stands kind
      rw [Courses.of_fresh] at hidle
      have hgrown := (works_beginStart_of_idle (abreast.sound kind) hidle.1 (settings.options kind)).grown.opened
      rw [Page.session_scene] at hgrown
      exact steps_of_refused hon (by simp [step_beginning, hon, herror])
        (by simp [ended_beginning, hon, herror, refusal]) hgrown hput (Nat.lt_trans hstarting hearly)

theorem steps_starting (kind : ResourceKind) (on : settings.collects kind = true)
    (abreast : page.Abreast ends sinks ((Courses.fresh settings kind).set kind .starting)) :
    Steps settings ⟨page, settings, .starting kind⟩ ends sinks := by
  obtain ⟨-, hstarted, hearly⟩ := Stage.rank_beginning kind
  obtain ⟨hnone, hpending, hput⟩ | ⟨hok, hput⟩ | ⟨e, herror, hput⟩ := abreast.pollStart kind (Courses.of_set_self _ _ _)
  · exact steps_of_waiting (by simp [step_starting, hnone]) (by simp [ended_starting, hnone]) hput
      (Stage.matches_starting on) hpending
  · have hmatch := Stage.matches_started settings kind
    rw [on] at hmatch
    rw [Courses.set_set] at hput
    exact steps_of_put (by simp [step_starting, hok]) (by simp [ended_starting, hok]) hput hmatch hstarted
  · have hgrown := (works_advance (abreast.sound kind)).grown.opened
    rw [Page.session_scene] at hgrown
    rw [Courses.set_set] at hput
    exact steps_of_refused on (by simp [step_starting, herror]) (by simp [ended_starting, herror]) hgrown hput hearly

theorem steps_ending (scripts : Option (Except CoverageError (List Entry))) (kind : ResourceKind)
    (fits : kind = .stylesheet → scripts.isSome = settings.collectScripts)
    (abreast : page.Abreast ends sinks (Courses.running settings scripts kind)) :
    Steps settings ⟨page, settings, .ending scripts kind⟩ ends sinks := by
  obtain ⟨hstopping, hstopped⟩ := Stage.rank_ending scripts none kind
  cases hon : settings.collects kind with
  | false =>
    have hmatch := Stage.matches_stopped (r := none) fits hon.symm
    have hsame : Course.over none = (Courses.running settings scripts kind).of kind := by
      rw [Courses.of_running, hon]
      rfl
    rw [hsame, Courses.set_of] at hmatch
    exact steps_of_entered (by simp [step_ending, hon]) (by simp [ended_ending, hon]) abreast hmatch
      (Nat.lt_trans hstopping hstopped)
  | true =>
    obtain ⟨hok, hput⟩ := abreast.stop kind (by rw [Courses.of_running, hon]; rfl)
    exact steps_of_begun (by simp [step_ending, hon, hok]) (by simp [ended_ending, hon, hok, refusal])
      hput (Stage.matches_stopping fits hon) hstopping

theorem steps_stopping (scripts : Option (Except CoverageError (List Entry))) (kind : ResourceKind)
    (fits : kind = .stylesheet → scripts.isSome = settings.collectScripts)
    (on : settings.collects kind = true)
    (abreast : page.Abreast ends sinks ((Courses.running settings scripts kind).set kind .stopping)) :
    Steps settings ⟨page, settings, .stopping scripts kind⟩ ends sinks := by
  obtain ⟨hnone, hpending, hput⟩ | ⟨r, hended, hput⟩ := abreast.pollStop kind (Courses.of_set_self _ _ _)
  · exact steps_of_waiting (by simp [step_stopping, hnone]) (by simp [ended_stopping, hnone]) hput
      (Stage.matches_stopping fits on) hpending
  · rw [Courses.set_set] at hput
    exact steps_of_put (by simp [step_stopping, hended]) (by simp [ended_stopping, hended]) hput
      (Stage.matches_stopped (r := some r) fits on.symm) (Stage.rank_ending scripts (some r) kind).2

theorem steps_retreating (scriptsOn : settings.collectScripts = true) (on : settings.collectStylesheets = true)
    (abreast : page.Abreast ends sinks ⟨.stopping, .refused e⟩) :
    Steps settings ⟨page, settings, .retreating e⟩ ends sinks := by
  obtain ⟨hnone, hpending, hput⟩ | ⟨r, hstopped, hput⟩ := abreast.pollStop .script rfl
  · exact steps_of_waiting (by simp [Collection.step, Page.advanceScripts_eq, hnone])
      (by simp [ended, Page.advanceScripts_eq, hnone]) hput (.retreating e scriptsOn on) hpending
  · have hmatch := Stage.Matches.refusedStylesheets e (some r) scriptsOn.symm on
    have hended : (⟨page, settings, .retreating e⟩ : Collection (Recorded σ) κ).ended = [(.script, .stopped r)] := by
      simp [ended, Page.advanceScripts_eq, hstopped]
    cases r with
    | ok entries =>
      exact steps_of_moved (by simp [Collection.step, Page.advanceScripts_eq, hstopped, retreated]) hended hput hmatch
        (by simp [Stage.rank])
    | error stop =>
      -- A stop that fails in a retreat is logged and changes nothing else.
      have hlogged := hput.elsewhere (q := { page.put .script (page.scene .script).advance.2 with
          log := (page.put .script (page.scene .script).advance.2).log ++ [.stopFailed stop] })
        (fun kind => by cases kind <;> rfl) rfl ⟨id, Nat.le_refl _, fun _ hl _ => hl⟩
      exact steps_of_moved (by simp [Collection.step, Page.advanceScripts_eq, hstopped, retreated]) hended hlogged
        hmatch (by simp [Stage.rank])

theorem Kept.step {c : Collection (Recorded σ) κ} (h : Kept settings c ends sinks courses) :
    Steps settings c ends sinks := by
  obtain ⟨page, given, stage⟩ := c
  obtain ⟨rfl, abreast, matching⟩ := h
  dsimp only at abreast matching
  cases matching with
  | begin => exact steps_beginning .script abreast
  | startingScripts on => exact steps_starting .script on abreast
  | beginStylesheets => exact steps_beginning .stylesheet abreast
  | startingStylesheets on => exact steps_starting .stylesheet on abreast
  | retreating e scriptsOn on => exact steps_retreating scriptsOn on abreast
  | waiting => exact steps_of_same rfl rfl abreast .waiting (.inl rfl)
  | beginStop => exact steps_ending none .script nofun abreast
  | stoppingScripts on => exact steps_stopping none .script nofun on abreast
  | beginStopStylesheets scripts given => exact steps_ending scripts .stylesheet (fun _ => given) abreast
  | stoppingStylesheets scripts given on => exact steps_stopping scripts .stylesheet (fun _ => given) on abreast
  | refusedScripts e on => exact steps_of_same rfl rfl abreast (.refusedScripts e on) (.inr rfl)
  | refusedStylesheets e scripts given on =>
    exact steps_of_same rfl rfl abreast (.refusedStylesheets e scripts given on) (.inr rfl)
  | reported scripts stylesheets given given' =>
    exact steps_of_same rfl rfl abreast (.reported scripts stylesheets given given') (.inr rfl)

/-- At every point of a run both kinds are on a course that belongs to the stage. -/
theorem Run.kept {c : Collection (Recorded σ) κ} (run : Run settings c ends sinks) :
    ∃ courses, Kept settings c ends sinks courses := by
  induction run with
  | new session wellFormed => exact ⟨_, kept_new wellFormed⟩
  | step _ ih =>
    obtain ⟨courses, h⟩ := ih
    exact h.step.1
  | stopWaiting _ ih =>
    obtain ⟨courses, h⟩ := ih
    exact ⟨courses, h.stopWaiting⟩
  | pump kind _ ih =>
    obtain ⟨courses, h⟩ := ih
    have hwork := conducts_pump (h.abreast.sound kind) (h.abreast.asks kind)
    exact ⟨courses, h.given, h.abreast.work hwork (h.abreast.stands kind).pump, h.stage⟩
  | @fetch c ends sinks kind i _ ih =>
    obtain ⟨courses, h⟩ := ih
    have hwork := conducts_fetchAt (h.abreast.sound kind) (h.abreast.asks kind) i
    have hstands := (h.abreast.stands kind).of_phase (tracker_fetchAt (c.page.scene kind) i).1
      ((h.abreast.asks kind).collects_fetchAt kind i)
    exact ⟨courses, h.given, h.abreast.work hwork hstands, h.stage⟩
  | @elsewhere c ends sinks u _ apart ih =>
    obtain ⟨courses, h⟩ := ih
    have habreast : (c.withSession u).page.Abreast ends sinks courses :=
      h.abreast.elsewhere (fun kind => Page.tracker_withSession _ _ kind) rfl
        ⟨apart.wellFormed, apart.opened, apart.listeners⟩
    exact ⟨courses, h.given, habreast, h.stage⟩

end Collection

end PageCoverage
