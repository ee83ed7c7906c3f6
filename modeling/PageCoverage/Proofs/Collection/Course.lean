import PageCoverage.Proofs.Page.Sides
import PageCoverage.Proofs.Tracking.Leaving
import PageCoverage.Proofs.Tracking.Lifecycle
import PageCoverage.Proofs.Tracking.Sending

namespace PageCoverage

/-- The method that collects the usage of a kind. -/
def ResourceKind.collectMethod : ResourceKind → String
  | .script => Method.takePreciseCoverage
  | .stylesheet => Method.stopRuleUsageTracking

/-- How often the usage of a kind has been collected. -/
def ResourceKind.collects (kind : ResourceKind) (sent : List Command) : Nat :=
  sent.countP (·.method == kind.collectMethod)

section

variable {kind other : ResourceKind} {cs ds : List Command}

theorem ResourceKind.collects_append (kind : ResourceKind) (cs ds : List Command) :
    kind.collects (cs ++ ds) = kind.collects cs + kind.collects ds :=
  List.countP_append

theorem ResourceKind.collects_eq_zero (h : ∀ c ∈ cs, c.method ≠ kind.collectMethod) : kind.collects cs = 0 := by
  rw [collects, List.countP_eq_zero]
  exact fun c hc => mt beq_iff_eq.mp (h c hc)

theorem method_collectCommand (options : kind.Options) :
    (Strategy.collectCommand options).method = kind.collectMethod := by
  cases kind <;> rfl

theorem collectMethod_ne (h : other ≠ kind) : kind.collectMethod ≠ other.collectMethod := by
  cases kind <;> cases other <;> first | exact absurd rfl h | decide

/-- Neither a start nor a fetch collects usage, and a stop does so once, for its own kind. -/
theorem method_ne_of_enable (other : ResourceKind) (options : kind.Options) :
    ∀ c ∈ Strategy.enableCommands options, c.method ≠ other.collectMethod := by
  cases kind <;> cases other <;> simp [Strategy.enableCommands] <;> decide

theorem method_ne_of_disable (other : ResourceKind) (options : kind.Options) :
    ∀ c ∈ Strategy.disableCommands options, c.method ≠ other.collectMethod := by
  cases kind <;> cases other <;> simp [Strategy.disableCommands] <;> decide

theorem method_ne_of_fetch (other : ResourceKind) (options : kind.Options) (id : ResourceId) :
    (Strategy.fetchCommand options id).method ≠ other.collectMethod := by
  cases kind <;> cases other <;> simp [Strategy.fetchCommand] <;> decide

end

/-- How far the start and the stop of a kind have come. -/
inductive Course where
  | unstarted
  | starting
  | refused (e : CoverageError)
  | started
  | stopping
  | stopped (r : Except CoverageError (List Entry))

/-- The starts and stops that have ended on a course. -/
def Course.ends : Course → List Outcome
  | .unstarted | .starting => []
  | .refused e => [.started (.error e)]
  | .started | .stopping => [.started (.ok ())]
  | .stopped r => [.started (.ok ()), .stopped r]

/-- The requests of the start or the stop under way. -/
def Tracker.batch {K κ : Type} (t : Tracker K κ) : List (Request κ) :=
  match t.phase with
  | .starting _ _ batch | .stopping _ batch => batch
  | _ => []

namespace Scene

section

variable {σ K κ : Type} [Session σ κ] {s : Scene σ K κ}

theorem isSent_fates (first : Request.firstFailure? s.fates = none) : ∀ r ∈ s.fates, r.isSent = true := by
  cases hphase : s.tracker.phase with
  | starting options a batch =>
    have hfates : s.fates = (Request.pollAll s.session batch).1 := by simp only [fates, hphase]
    rw [hfates] at first ⊢
    exact Request.isSent_pollAll first
  | stopping options batch =>
    have hfates : s.fates = (Request.pollAll s.session batch).1 := by simp only [fates, hphase]
    rw [hfates] at first ⊢
    exact Request.isSent_pollAll first
  | _ =>
    have hfates : s.fates = [] := by simp only [fates, hphase]
    rw [hfates]
    exact List.forall_mem_nil _

/-- Where a poll neither fails a batch nor completes it, some answer is still to come. -/
theorem pending_of_fates (first : Request.firstFailure? s.fates = none)
    (unsettled : ∃ r ∈ s.fates, ¬r.Succeeded) : ∃ call, .pending call ∈ s.fates := by
  obtain ⟨r, hr, hnot⟩ := unsettled
  have hsent := isSent_fates first r hr
  cases r with
  | unsent c => cases hsent
  | pending call => exact ⟨call, hr⟩
  | done result =>
    cases result with
    | ok v => exact absurd ⟨v, rfl⟩ hnot
    | error e => exact absurd hr (Request.firstFailure?_eq_none_iff.mp first e)

end

variable {σ κ : Type} [Session σ κ]

/-- A tracker at a point of its course. -/
def Stands (kind : ResourceKind) (s : Scene (Recorded σ) kind.Options κ) : Course → Prop
  | .unstarted | .refused _ => s.tracker.phase = .idle ∧ kind.collects s.session.sent = 0
  | .starting => (∃ options a batch, s.tracker.phase = .starting options a batch) ∧
      kind.collects s.session.sent = 0
  | .started => (∃ options a, s.tracker.phase = .enabled options a) ∧ kind.collects s.session.sent = 0
  | .stopping => ∃ options batch, s.tracker.phase = .stopping options batch ∧
      (batch = (stopBatch options).map .unsent ∧ kind.collects s.session.sent = 0 ∨
        (∀ r ∈ batch, r.isSent = true) ∧ kind.collects s.session.sent = 1)
  | .stopped _ => s.tracker.phase = .idle ∧ kind.collects s.session.sent = 1

/-- What the fetches of a tracker have not sent yet fetches sources. -/
def Asks (kind : ResourceKind) (s : Scene (Recorded σ) kind.Options κ) : Prop :=
  ∀ c ∈ s.tracker.unsentFetches, ∃ (options : kind.Options) (id : ResourceId),
    c = Strategy.fetchCommand options id

/-- What the work of a kind's tracker keeps, and what it leaves to the other kind. -/
structure Conducts (kind : ResourceKind) (s t : Scene (Recorded σ) kind.Options κ) : Prop where
  sound : Sound t
  works : Works s t
  asks : t.Asks kind
  others : ∀ other, other ≠ kind → other.collects t.session.sent = other.collects s.session.sent

variable {kind : ResourceKind} {s t : Scene (Recorded σ) kind.Options κ}

omit [Session σ κ] in
theorem Asks.of_fetches (h : s.Asks kind) (fetches : t.tracker.fetches = s.tracker.fetches) : t.Asks kind := by
  rw [Asks, Tracker.unsentFetches, fetches]
  exact h

theorem Asks.pump (h : s.Asks kind) : s.pump.Asks kind := by
  intro c hc
  rw [unsentFetches_pump] at hc
  obtain hold | hnew := List.mem_append.mp hc
  · exact h c hold
  · obtain ⟨heard, -, hfetch⟩ := Option.bind_eq_some_iff.mp (Option.mem_toList.mp hnew)
    obtain ⟨r, -, rfl⟩ := Option.map_eq_some_iff.mp hfetch
    exact ⟨_, _, rfl⟩

theorem Asks.fetchAt (h : s.Asks kind) (i : Nat) : (s.fetchAt i).Asks kind := by
  obtain ⟨cs, -, hperm⟩ := sent_fetchAt s i
  exact fun c hc => h c (hperm.mem_iff.mpr (List.mem_append_right cs hc))

theorem collects_pump (other : ResourceKind) (s : Scene (Recorded σ) kind.Options κ) :
    other.collects s.pump.session.sent = other.collects s.session.sent :=
  congrArg other.collects (sent_pump s)

theorem Asks.collects_fetchAt (h : s.Asks kind) (other : ResourceKind) (i : Nat) :
    other.collects (s.fetchAt i).session.sent = other.collects s.session.sent := by
  obtain ⟨cs, hsent, hperm⟩ := sent_fetchAt s i
  have hcs : other.collects cs = 0 := ResourceKind.collects_eq_zero fun c hc => by
    obtain ⟨options, id, rfl⟩ := h c (hperm.mem_iff.mpr (List.mem_append_left _ hc))
    exact method_ne_of_fetch other options id
  have hcollects := congrArg other.collects hsent
  rwa [ResourceKind.collects_append, hcs] at hcollects

omit [Session σ κ] in
/-- A course is told by the phase and by what has been collected. -/
theorem Stands.of_phase {course : Course} (h : s.Stands kind course)
    (phase : t.tracker.phase = s.tracker.phase)
    (collects : kind.collects t.session.sent = kind.collects s.session.sent) : t.Stands kind course := by
  cases course <;> simpa only [Stands, phase, collects] using h

theorem Stands.pump {course : Course} (h : s.Stands kind course) : s.pump.Stands kind course := by
  have hcollects := collects_pump kind s
  cases hnext : s.next? with
  | none =>
    obtain hsame | ⟨options, a, hphase, -, -, -, htracker⟩ := pump_of_next?_eq_none hnext
    · rwa [hsame]
    · cases course with
      | started => exact ⟨⟨_, _, by rw [htracker]⟩, hcollects.trans h.2⟩
      | starting =>
        obtain ⟨⟨_, _, _, hother⟩, -⟩ := h
        rw [hphase] at hother
        cases hother
      | stopping =>
        obtain ⟨_, _, hother, -⟩ := h
        rw [hphase] at hother
        cases hother
      | _ =>
        have hother := h.1
        rw [hphase] at hother
        cases hother
  | some e =>
    obtain ⟨options, _, _, taken, hphase, -, htracker, -, hpump⟩ := pump_of_next? hnext
    refine h.of_phase ?_ hcollects
    rw [hpump, (onEvent_frame taken options e).2, htracker]

/-- A start that has begun waits for answers, succeeds or fails. -/
theorem Stands.poll_starting (h : s.Stands kind .starting) (sound : Sound s) :
    (s.advance.1 = none ∧ s.advance.2.Stands kind .starting ∧
        ∃ call, .pending call ∈ s.advance.2.tracker.batch) ∨
      (s.advance.1 = some (.started (.ok ())) ∧ s.advance.2.Stands kind .started) ∨
      ∃ e, s.advance.1 = some (.started (.error e)) ∧ s.advance.2.Stands kind (.refused e) := by
  obtain ⟨⟨options, a, batch, hphase⟩, hcollects⟩ := h
  obtain ⟨cs, hsent, hcs⟩ := sound.sent_starting hphase
  have hnone : kind.collects cs = 0 :=
    ResourceKind.collects_eq_zero fun c hc => method_ne_of_enable kind options c (hcs hc)
  have hcollects : kind.collects s.advance.2.session.sent = 0 := by
    have hadded := congrArg kind.collects hsent
    rw [ResourceKind.collects_append, hnone] at hadded
    exact hadded.trans hcollects
  have htracker := polled_of_starting hphase
  cases Request.verdict s.fates with
  | failed e hfirst =>
    have hadvance : s.advance = (some (.started (.error e)), s.polled.abandon) := by
      rw [advance_starting hphase, hfirst]
    have hended : s.polled.abandon.tracker.phase = .idle := by
      rw [tracker_abandon (by simp only [Tracker.isEnabled, htracker])]
    rw [hadvance] at hcollects ⊢
    exact .inr (.inr ⟨e, rfl, hended, hcollects⟩)
  | succeeded vs hfirst hanswers =>
    have hadvance : s.advance = (some (.started (.ok ())), s.polled.finishStart options a) := by
      rw [advance_starting hphase, hfirst, hanswers]
    rw [hadvance] at hcollects ⊢
    exact .inr (.inl ⟨rfl, ⟨options, a, rfl⟩, hcollects⟩)
  | waiting hfirst hanswers _ hwaits =>
    have hadvance : s.advance = (none, s.polled) := by
      rw [advance_starting hphase, hfirst, hanswers]
    have hpending := pending_of_fates hfirst hwaits
    rw [hadvance] at hcollects ⊢
    refine .inl ⟨rfl, ⟨⟨options, a, s.fates, by rw [htracker]⟩, hcollects⟩, ?_⟩
    simpa only [Tracker.batch, htracker] using hpending

/-- What has been started can be stopped. -/
theorem Stands.stop (h : s.Stands kind .started) :
    s.beginStop.1 = .ok () ∧ s.beginStop.2.Stands kind .stopping := by
  obtain ⟨⟨options, a, hphase⟩, hcollects⟩ := h
  have hsent := congrArg kind.collects (sent_beginStop s)
  refine ⟨by rw [beginStop_of_phase hphase], options, _, ?_, .inl ⟨rfl, hsent.trans hcollects⟩⟩
  rw [beginStop_of_phase hphase]
  rfl

/-- The part of a stop's batch that its first poll sends collects once. -/
theorem collects_issued (session : σ) (options : kind.Options) :
    kind.collects (Request.issued session (stopBatch options)) = 1 := by
  obtain ⟨rest, hissued⟩ : ∃ rest, Request.issued session (stopBatch options) =
      Strategy.collectCommand options :: rest := ⟨_, rfl⟩
  have hbegins := Request.issued_prefix session (stopBatch options)
  rw [hissued, stopBatch, List.prefix_cons_inj] at hbegins
  have hrest : kind.collects rest = 0 := ResourceKind.collects_eq_zero fun c hc =>
    method_ne_of_disable kind options c (hbegins.subset hc)
  have hcollect : kind.collects [Strategy.collectCommand options] = 1 := by
    simp [ResourceKind.collects, method_collectCommand]
  rw [hissued, ← List.singleton_append, ResourceKind.collects_append, hcollect, hrest]

/-- A stop that has begun waits for answers or ends; by then its collect command has gone out. -/
theorem Stands.poll_stopping (h : s.Stands kind .stopping) :
    (s.advance.1 = none ∧ s.advance.2.Stands kind .stopping ∧
        ∃ call, .pending call ∈ s.advance.2.tracker.batch) ∨
      ∃ r, s.advance.1 = some (.stopped r) ∧ s.advance.2.Stands kind (.stopped r) := by
  obtain ⟨options, batch, hphase, hbatch⟩ := h
  have hsent : s.advance.2.session.sent = (Request.pollAll s.session batch).2.sent :=
    sent_advance_of_stopping hphase
  have hcollects : kind.collects s.advance.2.session.sent = 1 := by
    obtain ⟨rfl, hzero⟩ | ⟨hall, hone⟩ := hbatch
    · rw [hsent, Request.sent_pollAll_unsent, ResourceKind.collects_append, hzero, collects_issued]
    · rw [hsent, Request.sent_pollAll_of_isSent hall, hone]
  have htracker := polled_of_stopping hphase
  cases Request.verdict s.fates with
  | failed e hfirst =>
    have hadvance : s.advance = (some (.stopped (.error e)), s.polled.abandon.finishStop.2) := by
      rw [advance_stopping hphase, hfirst]
    rw [hadvance] at hcollects ⊢
    exact .inr ⟨_, rfl, rfl, hcollects⟩
  | succeeded vs hfirst hanswers =>
    have hadvance : s.advance =
        (some (.stopped (entriesOf options s.tracker.cache.records vs)), s.polled.finishStop.2) := by
      rw [advance_stopping hphase, hfirst, hanswers]
    rw [hadvance] at hcollects ⊢
    exact .inr ⟨_, rfl, rfl, hcollects⟩
  | waiting hfirst hanswers _ hwaits =>
    have hadvance : s.advance = (none, s.polled) := by
      rw [advance_stopping hphase, hfirst, hanswers]
    have hpending := pending_of_fates hfirst hwaits
    rw [hadvance] at hcollects ⊢
    refine .inl ⟨rfl, ⟨options, s.fates, by rw [htracker], .inr ⟨isSent_fates hfirst, hcollects⟩⟩, ?_⟩
    simpa only [Tracker.batch, htracker] using hpending

variable [LawfulSession σ]

theorem conducts_beginStart (sound : Sound s) (asks : s.Asks kind) (idle : s.tracker.phase = .idle)
    (options : kind.Options) : Conducts kind s (s.beginStart options).2 where
  sound := sound.start options
  works := works_beginStart_of_idle sound idle options
  asks := asks.of_fetches (fetches_beginStart s options)
  others other _ := congrArg other.collects (sent_beginStart s options)

theorem conducts_beginStop (sound : Sound s) (asks : s.Asks kind) : Conducts kind s s.beginStop.2 where
  sound := sound.stop
  works := works_beginStop sound
  asks := asks.of_fetches (fetches_beginStop s)
  others other _ := congrArg other.collects (sent_beginStop s)

theorem conducts_advance (sound : Sound s) (asks : s.Asks kind) : Conducts kind s s.advance.2 where
  sound := sound.advance
  works := works_advance sound
  asks := asks.of_fetches (fetches_advance s)
  others other hne := by
    obtain ⟨cs, hsent, hcs⟩ := sound.sent_advance
    have hnone : other.collects cs = 0 := ResourceKind.collects_eq_zero fun c hc => by
      obtain ⟨options, henable | hstop⟩ := hcs c hc
      · exact method_ne_of_enable other options c henable
      · obtain rfl | hdisable := List.mem_cons.mp hstop
        · rw [method_collectCommand]
          exact collectMethod_ne hne
        · exact method_ne_of_disable other options c hdisable
    have hadded := congrArg other.collects hsent
    rwa [ResourceKind.collects_append, hnone] at hadded

theorem conducts_pump (sound : Sound s) (asks : s.Asks kind) : Conducts kind s s.pump where
  sound := sound.pump
  works := works_pump sound
  asks := asks.pump
  others other _ := collects_pump other s

theorem conducts_fetchAt (sound : Sound s) (asks : s.Asks kind) (i : Nat) : Conducts kind s (s.fetchAt i) where
  sound := sound.fetch i
  works := works_fetchAt sound i
  asks := asks.fetchAt i
  others other _ := asks.collects_fetchAt other i

/-- A start begins, or it is refused. -/
theorem Stands.start (h : s.Stands kind .unstarted) (sound : Sound s) (options : kind.Options) :
    ((s.beginStart options).1 = .ok () ∧ (s.beginStart options).2.Stands kind .starting) ∨
      ∃ e, (s.beginStart options).1 = .error e ∧ (s.beginStart options).2.Stands kind (.refused e) := by
  obtain ⟨hidle, hcollects⟩ := h
  have hsent := congrArg kind.collects (sent_beginStart s options)
  cases hsubscribed : subscriptions kind.Options s.session with
  | error e =>
    have hrefused : (s.beginStart options).2.tracker.AtRest ∧ _ := sound.refused hidle hsubscribed
    refine .inr ⟨e, ?_, hrefused.1.idle, hsent.trans hcollects⟩
    rw [beginStart_of_refused hidle hsubscribed]
  | ok made =>
    rw [beginStart_of_subscribed hidle hsubscribed] at hsent ⊢
    exact .inl ⟨rfl, ⟨options, _, _, rfl⟩, hsent.trans hcollects⟩

end Scene

end PageCoverage
