import PageCoverage.Proofs.Collection.Stages
import PageCoverage.Proofs.Tracking.Continuing
import PageCoverage.Proofs.Tracking.Prompt

namespace PageCoverage

open Scene

namespace Collection

variable {σ κ : Type} {page page' : Page σ κ} {settings : Settings} {stage next : Stage} {kind : ResourceKind} {n : Nat}
  {scripts r : Option (Except CoverageError (List Entry))} {e : CoverageError}

/-- The start or the stop that a stage waits for is under way. -/
inductive UnderWay (page : Page σ κ) : Stage → Prop where
  | beginning (kind : ResourceKind) : UnderWay page (.beginning kind)
  | starting (kind : ResourceKind) : (page.scene kind).IsStarting → UnderWay page (.starting kind)
  | retreating (e : CoverageError) : (page.scene .script).IsStopping → UnderWay page (.retreating e)
  | waiting : UnderWay page .waiting
  | ending (scripts : Option (Except CoverageError (List Entry))) (kind : ResourceKind) :
    UnderWay page (.ending scripts kind)
  | stopping (scripts : Option (Except CoverageError (List Entry))) (kind : ResourceKind) :
    (page.scene kind).IsStopping → UnderWay page (.stopping scripts kind)
  | finished (r : RunResult) : UnderWay page (.finished r)

theorem underWay_started (page : Page σ κ) (kind : ResourceKind) : UnderWay page (.started kind) := by
  cases kind with
  | script => exact .beginning .stylesheet
  | stylesheet => exact .waiting

theorem underWay_stopped (page : Page σ κ) (scripts r : Option (Except CoverageError (List Entry)))
    (kind : ResourceKind) : UnderWay page (.stopped scripts r kind) := by
  cases kind with
  | script => exact .ending r .stylesheet
  | stylesheet => exact .finished _

/-- Starts and stops stay under way while nothing but enabled trackers changes. -/
theorem UnderWay.of_phases (h : UnderWay page stage)
    (phases : ∀ kind, (page.scene kind).tracker.isEnabled = false →
      (page'.scene kind).tracker.phase = (page.scene kind).tracker.phase) : UnderWay page' stage := by
  have hstopping {kind : ResourceKind} (h : (page.scene kind).IsStopping) : (page'.scene kind).IsStopping := by
    obtain ⟨options, batch, hphase⟩ := h
    exact ⟨options, batch, (phases kind (by simp only [Tracker.isEnabled, hphase])).trans hphase⟩
  cases h with
  | beginning kind => exact .beginning kind
  | starting kind h =>
    obtain ⟨options, a, batch, hphase⟩ := h
    exact .starting kind ⟨options, a, batch, (phases kind (by simp only [Tracker.isEnabled, hphase])).trans hphase⟩
  | retreating e h => exact .retreating e (hstopping h)
  | waiting => exact .waiting
  | ending scripts kind => exact .ending scripts kind
  | stopping scripts kind h => exact .stopping scripts kind (hstopping h)
  | finished r => exact .finished r

/-- There is nothing to do before the wait is over, or nothing at all. -/
def Rests (c : Collection σ κ) : Prop := c.stage = .waiting ∨ ∃ r, c.stage = .finished r

variable [Session σ κ]

/-- What becomes of a run in some steps. It does not go back, and where everything that is waited for is answered it
gets ahead with each step or comes to rest. -/
structure Forward (n : Nat) (c c' : Collection σ κ) : Prop where
  underWay : UnderWay c'.page c'.stage
  rank : c.stage.rank ≤ c'.stage.rank
  lasts : ∀ P, Session.Lasts P → P c.page.session → P c'.page.session
  prompt : ∀ P, Session.Prompt P → P c.page.session → c.stage.rank + n ≤ c'.stage.rank ∨ c'.Rests

theorem forward_later (lasts : ∀ P, Session.Lasts P → P page.session → P page'.session) (underWay : UnderWay page' next)
    (later : stage.rank < next.rank) : Forward 1 (⟨page, settings, stage⟩ : Collection σ κ) ⟨page', settings, next⟩ :=
  ⟨underWay, Nat.le_of_lt later, lasts, fun _ _ _ => .inl later⟩

/-- A step with which nothing ends, since there is no answer yet. -/
theorem forward_waits (lasts : ∀ P, Session.Lasts P → P page.session → P page'.session)
    (underWay : UnderWay page' stage) (waits : ∀ P, Session.Prompt P → ¬P page.session) :
    Forward 1 (⟨page, settings, stage⟩ : Collection σ κ) ⟨page', settings, stage⟩ :=
  ⟨underWay, Nat.le_refl _, lasts, fun P hP h => absurd h (waits P hP)⟩

/-- A start that fails ends the run, perhaps by way of a stop. -/
theorem forward_refuse (lasts : ∀ P, Session.Lasts P → P page.session → P page'.session) (early : stage.rank < 4) :
    Forward 1 (⟨page, settings, stage⟩ : Collection σ κ) (refuse kind ⟨page', settings, stage⟩ e) := by
  have last : stage.rank < (Stage.finished (.error e)).rank := Nat.lt_trans early (by simp [Stage.rank])
  cases kind with
  | script => exact forward_later lasts (.finished _) last
  | stylesheet =>
    have hstop : ∀ P, Session.Lasts P → P page.session →
        P (page'.put .script (page'.scene .script).beginStop.2).session := fun P hP h => by
      rw [Page.session_put]
      exact lasts_beginStop hP (by rw [Page.session_scene]; exact lasts P hP h)
    simp only [refuse, retreat, Page.stopScripts_eq]
    split
    · cases hbegun : (page'.scene .script).beginStop.1 with
      | ok u =>
        refine forward_later hstop (.retreating e ?_) early
        rw [Page.scene_put]
        exact isStopping_of_beginStop hbegun
      | error e' => exact forward_later hstop (.finished _) last
    · exact forward_later lasts (.finished _) last

theorem forward_beginning (page : Page σ κ) (settings : Settings) (kind : ResourceKind) :
    Forward 1 (⟨page, settings, .beginning kind⟩ : Collection σ κ) (step ⟨page, settings, .beginning kind⟩) := by
  obtain ⟨hstarting, hstarted, hearly⟩ := Stage.rank_beginning kind
  have lasts : ∀ P, Session.Lasts P → P page.session →
      P (page.put kind ((page.scene kind).beginStart (settings.options kind)).2).session := fun P hP h => by
    rw [Page.session_put]
    exact lasts_beginStart hP _ (by rwa [Page.session_scene])
  rw [step_beginning]
  dsimp only
  split
  · cases hbegun : ((page.scene kind).beginStart (settings.options kind)).1 with
    | ok u =>
      refine forward_later lasts (.starting kind ?_) hstarting
      rw [Page.scene_put]
      exact isStarting_of_beginStart hbegun
    | error e => exact forward_refuse lasts (Nat.lt_trans hstarting hearly)
  · exact forward_later (fun _ _ h => h) (underWay_started page kind) (Nat.lt_trans hstarting hstarted)

theorem lasts_put_advance (page : Page σ κ) (kind : ResourceKind) (P : σ → Prop) (lasts : Session.Lasts P)
    (h : P page.session) : P (page.put kind (page.scene kind).advance.2).session := by
  rw [Page.session_put]
  exact lasts_advance lasts (by rwa [Page.session_scene])

theorem forward_starting (settings : Settings) (h : (page.scene kind).IsStarting) :
    Forward 1 (⟨page, settings, .starting kind⟩ : Collection σ κ) (step ⟨page, settings, .starting kind⟩) := by
  obtain ⟨-, hstarted, hearly⟩ := Stage.rank_beginning kind
  have lasts := lasts_put_advance page kind
  rw [step_starting]
  obtain ⟨r, hr⟩ | ⟨hnone, hstill⟩ := h.advance
  · simp only [hr]
    cases r with
    | ok u => exact forward_later lasts (underWay_started _ kind) hstarted
    | error e => exact forward_refuse lasts hearly
  · simp only [hnone]
    refine forward_waits lasts (.starting kind ?_) fun P hP hs => ?_
    · rwa [Page.scene_put]
    · exact advance_of_prompt hP (by rwa [Page.session_scene]) (.inl h) hnone

theorem forward_ending (page : Page σ κ) (settings : Settings) (scripts : Option (Except CoverageError (List Entry)))
    (kind : ResourceKind) :
    Forward 1 (⟨page, settings, .ending scripts kind⟩ : Collection σ κ)
      (step ⟨page, settings, .ending scripts kind⟩) := by
  have lasts : ∀ P, Session.Lasts P → P page.session → P (page.put kind (page.scene kind).beginStop.2).session :=
    fun P hP h => by
      rw [Page.session_put]
      exact lasts_beginStop hP (by rwa [Page.session_scene])
  have later (r : Option (Except CoverageError (List Entry))) :
      (Stage.ending scripts kind).rank < (Stage.stopped scripts r kind).rank :=
    Nat.lt_trans (Stage.rank_ending scripts r kind).1 (Stage.rank_ending scripts r kind).2
  rw [step_ending]
  dsimp only
  split
  · cases hbegun : (page.scene kind).beginStop.1 with
    | ok u =>
      refine forward_later lasts (.stopping scripts kind ?_) (Stage.rank_ending scripts none kind).1
      rw [Page.scene_put]
      exact isStopping_of_beginStop hbegun
    | error e => exact forward_later lasts (underWay_stopped _ scripts _ kind) (later _)
  · exact forward_later (fun _ _ h => h) (underWay_stopped page scripts none kind) (later none)

theorem forward_stopping (settings : Settings) (scripts : Option (Except CoverageError (List Entry)))
    (h : (page.scene kind).IsStopping) :
    Forward 1 (⟨page, settings, .stopping scripts kind⟩ : Collection σ κ)
      (step ⟨page, settings, .stopping scripts kind⟩) := by
  have lasts := lasts_put_advance page kind
  rw [step_stopping]
  obtain ⟨r, hr⟩ | ⟨hnone, hstill⟩ := h.advance
  · simp only [hr]
    exact forward_later lasts (underWay_stopped _ scripts _ kind) (Stage.rank_ending scripts (some r) kind).2
  · simp only [hnone]
    refine forward_waits lasts (.stopping scripts kind ?_) fun P hP hs => ?_
    · rwa [Page.scene_put]
    · exact advance_of_prompt hP (by rwa [Page.session_scene]) (.inr h) hnone

theorem forward_retreating (settings : Settings) (e : CoverageError) (h : (page.scene .script).IsStopping) :
    Forward 1 (⟨page, settings, .retreating e⟩ : Collection σ κ) (step ⟨page, settings, .retreating e⟩) := by
  have lasts := lasts_put_advance page .script
  simp only [Collection.step, Page.advanceScripts_eq]
  obtain ⟨r, hr⟩ | ⟨hnone, hstill⟩ := h.advance
  · simp only [hr]
    cases r with
    | ok entries => exact forward_later lasts (.finished _) (by simp [Stage.rank])
    | error e' => exact forward_later lasts (.finished _) (by simp [Stage.rank])
  · simp only [hnone]
    refine forward_waits lasts (.retreating e ?_) fun P hP hs => ?_
    · rwa [Page.scene_put]
    · exact advance_of_prompt hP (by rwa [Page.session_scene]) (.inr h) hnone

theorem step_of_rests {c : Collection σ κ} (h : c.Rests) : c.step = c := by
  obtain ⟨page, settings, stage⟩ := c
  obtain rfl | ⟨r, rfl⟩ := h
  · rfl
  · rfl

theorem forward_step {c : Collection σ κ} (h : UnderWay c.page c.stage) : Forward 1 c c.step := by
  obtain ⟨page, settings, stage⟩ := c
  cases h with
  | beginning kind => exact forward_beginning page settings kind
  | starting kind h => exact forward_starting settings h
  | retreating e h => exact forward_retreating settings e h
  | waiting => exact ⟨.waiting, Nat.le_refl _, fun _ _ h => h, fun _ _ _ => .inr (.inl rfl)⟩
  | ending scripts kind => exact forward_ending page settings scripts kind
  | stopping scripts kind h => exact forward_stopping settings scripts h
  | finished r => exact ⟨.finished r, Nat.le_refl _, fun _ _ h => h, fun _ _ _ => .inr (.inr ⟨r, rfl⟩)⟩

theorem forward_steps {c : Collection σ κ} (h : UnderWay c.page c.stage) (n : Nat) :
    Forward n c (Nat.repeat step n c) := by
  induction n with
  | zero => exact ⟨h, Nat.le_refl _, fun _ _ h => h, fun _ _ _ => .inl (Nat.le_refl _)⟩
  | succ n ih =>
    have hstep := forward_step ih.underWay
    refine ⟨hstep.underWay, Nat.le_trans ih.rank hstep.rank, fun P hP h => hstep.lasts P hP (ih.lasts P hP h),
      fun P hP h => ?_⟩
    show c.stage.rank + (n + 1) ≤ (Nat.repeat step n c).step.stage.rank ∨ (Nat.repeat step n c).step.Rests
    obtain hfar | hrests := ih.prompt P hP h
    · exact (hstep.prompt P hP (ih.lasts P hP.toLasts h)).imp_left (Nat.le_trans (Nat.add_le_add_right hfar 1))
    · rw [step_of_rests hrests]
      exact .inr hrests

/-- Where everything is answered at once a run comes to its wait or to its end. -/
theorem rests_drive {c : Collection σ κ} {P : σ → Prop} (prompt : Session.Prompt P) (h : P c.page.session)
    (underWay : UnderWay c.page c.stage) : c.drive.Rests := by
  obtain hfar | hrests := (forward_steps underWay 10).prompt P prompt h
  · have hle := Stage.rank_le c.drive.stage
    have hten : c.stage.rank + 10 ≤ c.drive.stage.rank := hfar
    omega
  · exact hrests

end Collection

end PageCoverage
