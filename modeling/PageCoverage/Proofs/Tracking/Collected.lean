import PageCoverage.Proofs.Tracking.Delivered
import PageCoverage.Proofs.Tracking.Tally

namespace PageCoverage

/-- The options and the stage of a session that has begun. -/
def Phase.session? {K κ : Type} : Phase K κ → Option (K × Tally.Stage)
  | .idle => none
  | .starting options _ _ => some (options, .starting)
  | .enabled options _ => some (options, .enabled)
  | .stopping options _ => some (options, .stopping)

namespace Watched

open Occurrence

variable {σ K κ : Type}

section Kept

variable [Strategy K]

/-- The stamps are in order, and so are the books of a session that has begun. -/
structure Kept (w : Watched σ K κ) : Prop where
  counted : Counted w.scene.tracker.cache w.scene.tracker.fetches w.errands w.generations
  tallied : ∀ options stage, w.scene.tracker.phase.session? = some (options, stage) →
    Tally options stage w.scene.tracker.cache w.scene.tracker.fetches w.errands w.generations w.history

theorem kept_fresh (session : σ) : (fresh session : Watched σ K κ).Kept :=
  ⟨⟨rfl, rfl, by simp [fresh]⟩, by simp [fresh, Phase.session?]⟩

theorem Kept.of_tracker {v : Watched σ K κ} {cache : Cache} {phase : Phase K κ}
    {fetches : List (Fetch K κ)} (tracker : v.scene.tracker = ⟨cache, phase, fetches⟩)
    (counted : Counted cache fetches v.errands v.generations)
    (tallied : ∀ options stage, phase.session? = some (options, stage) →
      Tally options stage cache fetches v.errands v.generations v.history) : v.Kept := by
  constructor
  · rwa [tracker]
  · rwa [tracker]

theorem Kept.of_idle {v : Watched σ K κ} {cache : Cache} {fetches : List (Fetch K κ)}
    (tracker : v.scene.tracker = ⟨cache, .idle, fetches⟩)
    (counted : Counted cache fetches v.errands v.generations) : v.Kept :=
  .of_tracker tracker counted fun _ _ hstage => by cases hstage

theorem Kept.of_session {v : Watched σ K κ} {cache : Cache} {phase : Phase K κ}
    {fetches : List (Fetch K κ)} {options : K} {stage : Tally.Stage}
    (tracker : v.scene.tracker = ⟨cache, phase, fetches⟩)
    (session : phase.session? = some (options, stage))
    (counted : Counted cache fetches v.errands v.generations)
    (tally : Tally options stage cache fetches v.errands v.generations v.history) : v.Kept := by
  refine .of_tracker tracker counted fun options' stage' hstage => ?_
  rw [session] at hstage
  cases hstage
  exact tally

omit [Strategy K] in
theorem generations_see_of_same {w : Watched σ K κ} {s : Scene σ K κ}
    (h : s.tracker.cache.generation = w.scene.tracker.cache.generation) :
    (w.see s).generations = w.generations := if_pos h

omit [Strategy K] in
theorem generations_see_of_next {w : Watched σ K κ} {s : Scene σ K κ}
    (h : s.tracker.cache.generation = w.scene.tracker.cache.generation + 1) :
    (w.see s).generations = w.generations + 1 := by
  refine if_neg fun heq => ?_
  rw [h] at heq
  simp at heq

theorem Kept.see_self {w : Watched σ K κ} (h : w.Kept) : (w.see w.scene).Kept := by
  constructor
  · rw [generations_see_of_same rfl]
    exact h.counted
  · rw [generations_see_of_same rfl]
    exact h.tallied

end Kept

variable [Session σ κ] [Strategy K]

theorem kept_abandon {w : Watched σ K κ} (h : w.Kept) : (w.see w.scene.abandon).Kept := by
  by_cases henabled : w.scene.tracker.isEnabled = true
  · obtain ⟨options, a, hphase⟩ := Tracker.isEnabled_iff.mp henabled
    rw [Scene.abandon_of_enabled hphase]
    exact h.see_self
  · have htracker := Scene.tracker_abandon (s := w.scene) (by simpa using henabled)
    refine .of_idle htracker ?_
    rw [generations_see_of_same (by rw [htracker])]
    exact h.counted

variable [LawfulSession σ]

theorem kept_start {w : Watched σ K κ} (h : w.Kept)
    (wellFormed : (Session.router w.scene.session).WellFormed) (options : K) : (w.start options).Kept := by
  by_cases henabled : w.scene.tracker.isEnabled = true
  · have hrefused : w.scene.beginStart options = (.error (.alreadyEnabled (Strategy.kind K)), w.scene) := by
      rw [Scene.beginStart, if_pos henabled]
    rw [start, hrefused]
    exact h.see_self
  · obtain ⟨-, hcases⟩ := Scene.beginStart_spec wellFormed (by simpa using henabled) options
    rw [start]
    rcases hbegun : w.scene.beginStart options with ⟨result, s⟩
    rw [hbegun] at hcases
    have hnext : w.scene.tracker.cache.beginSession.generation = w.scene.tracker.cache.generation + 1 := rfl
    rcases hcases with ⟨e, rfl, htracker⟩ | ⟨a, rfl, htracker, -⟩
    all_goals have hgenerations : (w.see s).generations = w.generations + 1 :=
      generations_see_of_next (by rw [htracker]; rfl)
    · refine .of_idle htracker ?_
      rw [hgenerations]
      exact h.counted.next hnext
    · refine .of_session htracker rfl ?_ ?_
      · show Counted _ _ _ (w.see s).generations
        rw [hgenerations]
        exact (h.counted.next hnext).forget
      · show Tally _ _ _ _ _ (w.see s).generations []
        rw [hgenerations]
        exact .beginSession h.counted

theorem kept_stop {w : Watched σ K κ} (h : w.Kept) (wellFormed : (Session.router w.scene.session).WellFormed) :
    w.stop.Kept := by
  rw [stop]
  by_cases henabled : w.scene.tracker.isEnabled = true
  · obtain ⟨options, a, hphase⟩ := Tracker.isEnabled_iff.mp henabled
    obtain ⟨hok, -, batch, htracker⟩ := Scene.beginStop_spec wellFormed hphase
    rcases hbegun : w.scene.beginStop with ⟨result, s⟩
    rw [hbegun] at hok htracker
    subst hok
    have hgenerations : (w.see s).generations = w.generations + 1 :=
      generations_see_of_next (by rw [htracker]; rfl)
    refine .of_session htracker rfl ?_ ?_
    · show Counted _ _ _ (w.see s).generations
      rw [hgenerations]
      exact h.counted.next rfl
    · show Tally _ _ _ _ _ (w.see s).generations (w.history ++ [.close])
      rw [hgenerations]
      exact (h.tallied options .enabled (by rw [hphase]; rfl)).close
  · rw [Scene.beginStop_of_not_enabled (by simpa using henabled)]
    exact kept_abandon h

theorem kept_advance {w : Watched σ K κ} (h : w.Kept) : w.advance.Kept := by
  rw [advance]
  cases hphase : w.scene.tracker.phase with
  | idle =>
    rw [Scene.advance_of_idle hphase]
    exact h.see_self
  | enabled options a =>
    rw [Scene.advance_of_enabled hphase]
    exact h.see_self
  | starting options a batch =>
    have tally := h.tallied options .starting (by rw [hphase]; rfl)
    rcases Scene.advance_of_starting hphase with ⟨htracker, -⟩ | ⟨-, ⟨rest, htracker⟩ | htracker⟩
    all_goals have hgenerations : (w.see w.scene.advance.2).generations = w.generations :=
      generations_see_of_same (congrArg (·.cache.generation) htracker)
    · refine .of_idle htracker ?_
      rw [hgenerations]
      exact h.counted
    · refine .of_session htracker rfl ?_ ?_ <;> rw [hgenerations]
      · exact h.counted
      · exact tally
    · refine .of_session htracker rfl ?_ ?_ <;> rw [hgenerations]
      · exact h.counted.same rfl
      · exact tally.openUp
  | stopping options batch =>
    have tally := h.tallied options .stopping (by rw [hphase]; rfl)
    rcases (Scene.advance_of_stopping hphase).2 with ⟨rest, htracker⟩ | htracker
    all_goals have hgenerations : (w.see w.scene.advance.2).generations = w.generations :=
      generations_see_of_same (congrArg (·.cache.generation) htracker)
    · refine .of_session htracker rfl ?_ ?_ <;> rw [hgenerations]
      · exact h.counted
      · exact tally
    · refine .of_idle htracker ?_
      rw [hgenerations]
      exact h.counted.same rfl

omit [LawfulSession σ] in
/-- A pump that begins no fetch. -/
theorem errands_pump_of_same {w : Watched σ K κ}
    (h : w.scene.pump.tracker.fetches = w.scene.tracker.fetches) : w.pump.errands = w.errands := by
  rw [pump, h, List.drop_length]
  exact List.append_nil _

omit [LawfulSession σ] in
theorem history_pump {w : Watched σ K κ} {e : Event} (h : w.scene.next? = some e) :
    w.pump.history = w.history ++ [.handle e] := by
  rw [pump, h]
  rfl

omit [LawfulSession σ] in
theorem history_pump_of_none {w : Watched σ K κ} (h : w.scene.next? = none) : w.pump.history = w.history := by
  rw [pump, h]
  exact List.append_nil _

omit [LawfulSession σ] in
theorem kept_pump_of_none {w : Watched σ K κ} (h : w.Kept) (hnext : w.scene.next? = none) : w.pump.Kept := by
  have hhistory := history_pump_of_none hnext
  rcases Scene.pump_of_next?_eq_none hnext with hsame | ⟨options, a, hphase, -, -, -, htracker⟩
  · have herrands := errands_pump_of_same (w := w) (by rw [hsame])
    have hgenerations : w.pump.generations = w.generations := generations_see_of_same (by rw [hsame])
    have hscene : w.pump.scene = w.scene := hsame
    constructor
    · rw [hscene, herrands, hgenerations]
      exact h.counted
    · rw [hscene, herrands, hgenerations, hhistory]
      exact h.tallied
  · have herrands := errands_pump_of_same (w := w) (by rw [htracker])
    have hgenerations : w.pump.generations = w.generations := generations_see_of_same (by rw [htracker])
    refine .of_session htracker rfl ?_ ?_ <;> rw [herrands, hgenerations]
    · exact h.counted
    · rw [hhistory]
      exact h.tallied options .enabled (by rw [hphase]; rfl)

omit [LawfulSession σ] in
theorem kept_pump {w : Watched σ K κ} (h : w.Kept) : w.pump.Kept := by
  cases hnext : w.scene.next? with
  | none => exact kept_pump_of_none h hnext
  | some e =>
    obtain ⟨options, a, rest, taken, hphase, -, htaken, -, hpump⟩ := Scene.pump_of_next? hnext
    have hhistory := history_pump hnext
    have hsession : w.scene.tracker.phase.session? = some (options, .enabled) := by rw [hphase]; rfl
    have tally := h.tallied options .enabled hsession
    have haccepting : taken.tracker.cache.accepting = true := by
      rw [htaken]
      exact tally.accepting.mpr rfl
    cases hadmitted : Strategy.admitted? options e with
    | some r =>
      have htracker := Scene.tracker_onEvent_of_admitted haccepting hadmitted
      rw [← hpump, htaken] at htracker
      have hgenerations : w.pump.generations = w.generations := generations_see_of_same (by rw [htracker])
      have herrands : w.pump.errands = w.errands ++ [⟨some (handled w.history).length, w.generations⟩] := by
        rw [pump, htracker, List.drop_left]
        rfl
      refine .of_session htracker hsession ?_ ?_ <;> rw [herrands, hgenerations]
      · exact h.counted.concat h.counted.present (Nat.le_refl _)
      · rw [hhistory]
        exact tally.register hadmitted rfl (fun _ => Strategy.method_ne_of_admitted? hadmitted)
    | none =>
      have htracker := Scene.tracker_onEvent_of_refused haccepting hadmitted
      rw [← hpump, htaken] at htracker
      by_cases hreset : e.method = Event.executionContextsCleared ∧ Strategy.resetOnNavigation options = true
      · rw [if_pos hreset] at htracker
        have herrands := errands_pump_of_same (w := w) (by rw [htracker])
        have hgenerations : w.pump.generations = w.generations + 1 :=
          generations_see_of_next (by rw [htracker]; rfl)
        refine .of_session htracker hsession ?_ ?_ <;> rw [herrands, hgenerations]
        · exact h.counted.next rfl
        · rw [hhistory]
          exact tally.reset h.counted hreset.2 hreset.1
      · rw [if_neg hreset] at htracker
        have herrands := errands_pump_of_same (w := w) (by rw [htracker])
        have hgenerations : w.pump.generations = w.generations := generations_see_of_same (by rw [htracker])
        refine .of_session htracker hsession ?_ ?_ <;> rw [herrands, hgenerations]
        · exact h.counted
        · rw [hhistory]
          exact tally.ignore fun hon hcleared => hreset ⟨hcleared, hon⟩

omit [LawfulSession σ] in
theorem kept_fetch {w : Watched σ K κ} (h : w.Kept) (i : Nat) : (w.fetch i).Kept := by
  rw [fetch]
  split
  next f errand hf herrand =>
    split
    next result hdone =>
      obtain ⟨-, htracker⟩ := Scene.fetchAt_of_done hf hdone
      cases hsource : result.bind (Strategy.sourceText f.options) with
      | error e =>
        rw [hsource] at htracker
        have hgenerations := generations_see_of_same (w := w) (congrArg (·.cache.generation) htracker)
        refine .of_tracker htracker ?_ fun options stage hstage => ?_
        · rw [hgenerations]
          exact h.counted.eraseIdx i
        · rw [hgenerations]
          exact (h.tallied options stage hstage).fetch_error hf herrand e
      | ok source =>
        rw [hsource] at htracker
        have hsame := Cache.generation_insert w.scene.tracker.cache f.generation
          ⟨f.resource.id, f.resource.url, source⟩
        have hgenerations : (w.see (w.scene.fetchAt i)).generations = w.generations :=
          generations_see_of_same (by rw [htracker, hsame])
        refine .of_tracker htracker ?_ fun options stage hstage => ?_
        · rw [hgenerations]
          exact (h.counted.eraseIdx i).same hsame
        · rw [hgenerations]
          exact (h.tallied options stage hstage).fetch_source hf herrand h.counted source
    next hwaiting =>
      obtain ⟨-, htracker⟩ := Scene.fetchAt_of_waiting hf hwaiting
      have hgenerations : (w.see (w.scene.fetchAt i)).generations = w.generations :=
        generations_see_of_same (by rw [htracker])
      have hstamp := h.counted.stamp hf herrand
      refine .of_tracker htracker ?_ fun options stage hstage => ?_
      · rw [hgenerations]
        exact (h.counted.eraseIdx i).concat hstamp (h.counted.past errand (List.mem_of_getElem? herrand))
      · rw [hgenerations]
        exact (h.tallied options stage hstage).wait hf herrand _
  · exact h

omit [LawfulSession σ] in
theorem kept_dispatch {w : Watched σ K κ} (h : w.Kept) (e : Event) : (w.dispatch e).Kept :=
  ⟨h.counted, fun options stage hstage => (h.tallied options stage hstage).dispatch e⟩

theorem kept_step {w v : Watched σ K κ} (step : Step w v)
    (wellFormed : (Session.router w.scene.session).WellFormed) (h : w.Kept) : v.Kept := by
  cases step with
  | start options => exact kept_start h wellFormed options
  | stop => exact kept_stop h wellFormed
  | advance => exact kept_advance h
  | abandon => exact kept_abandon h
  | pump => exact kept_pump h
  | fetch i => exact kept_fetch h i
  | dispatch e => exact kept_dispatch h e
  | elsewhere s _ => exact ⟨h.counted, h.tallied⟩

theorem kept_of_steps [LawfulStrategy K] {w v : Watched σ K κ} (steps : Relation.ReflTransGen Step w v)
    (delivered : w.Delivered) (h : w.Kept) : v.Kept := by
  induction steps with
  | refl => exact h
  | tail steps step ih => exact kept_step step (delivered_of_steps delivered steps).wellFormed ih

/-- The records that a stop takes are those that the session has collected. -/
structure TakesCollected (w : Watched σ K κ) (options : K) : Prop where
  nodup : (w.scene.finishStop.1.map Record.id).Nodup
  /-- An id is there if a registration of it has been handled, no reset has come behind the registration, and
  its own fetch has brought a source before the cache was closed. -/
  ids : ∀ id, id ∈ w.scene.finishStop.1.map Record.id ↔
    ∃ n e r age source, (handled w.history)[n]? = some e ∧ Strategy.admitted? options e = some r ∧
      Standing options (handled w.history) n ∧ .fetch (some n) age (.ok source) ∈ beforeClose w.history ∧
      r.id = id
  /-- The ids are in the order in which these fetches first ended, and a record is of the last one. -/
  latest : Latest (collected options w.history) w.scene.finishStop.1
  /-- What has been handled is what was dispatched first since the start subscribed. -/
  inOrder : handled w.history <+: (dispatched w.history).filter (·.method ∈ Strategy.events K)
  entries : ∀ entries t, w.scene.advance = (some (.stopped (.ok entries)), t) →
    ∃ usage, entries = buildEntries w.scene.finishStop.1 usage

/-- After any run a stop takes what its session has collected, unless a fetch has been under way for as many
generations as a word can count. -/
theorem stop_takes_collected [LawfulStrategy K] {session : σ} {w : Watched σ K κ} {options : K}
    {batch : List (Request κ)} (wellFormed : (Session.router session).WellFormed)
    (steps : Relation.ReflTransGen Step (fresh session) w)
    (stopping : w.scene.tracker.phase = .stopping options batch) (young : Young w.history) :
    w.TakesCollected options := by
  have delivered := delivered_of_steps (delivered_fresh (K := K) wellFormed) steps
  have kept := kept_of_steps steps (delivered_fresh wellFormed) (kept_fresh session)
  have tally := kept.tallied options .stopping (by rw [stopping]; rfl)
  have latest := tally.latest young
  refine ⟨Cache.nodup_ids tally.indexed, fun id => latest.mem_ids_iff.trans ⟨?_, ?_⟩, latest,
    delivered.inOrder, fun entries t hends => Scene.entries_of_advance stopping hends⟩
  · rintro ⟨r, hr, rfl⟩
    obtain ⟨n, e, res, age, source, he, hres, hstanding, hfetch, rfl⟩ := mem_collected_iff.mp hr
    exact ⟨n, e, res, age, source, he, hres, hstanding, hfetch, rfl⟩
  · rintro ⟨n, e, res, age, source, he, hres, hstanding, hfetch, rfl⟩
    exact ⟨_, mem_collected_iff.mpr ⟨n, e, res, age, source, he, hres, hstanding, hfetch, rfl⟩, rfl⟩

/-- A stand-in with the sources of two scripts. -/
def twoScripts : StandIn := ({} : StandIn).addScript "1" "old()" |>.addScript "2" "new()"

/-- The announcement of a script. -/
def scriptParsed (id url : String) : Event :=
  ⟨Event.scriptParsed, .object [("scriptId", .text id), ("url", .text url)]⟩

/-- A stop of script coverage after a navigation. One script is announced while the start is under way and
one behind the reset, and both fetches end behind it. -/
def navigated : Watched StandIn ScriptOptions HeldCall :=
  let begun := (fresh twoScripts).start ({} : ScriptOptions)
  let enabled := (begun.dispatch (scriptParsed "1" "old.js")).advance.pump
  let reset := (enabled.dispatch ⟨Event.executionContextsCleared, .empty⟩).pump
  (((reset.dispatch (scriptParsed "2" "new.js")).pump.fetch 0).fetch 0).stop

theorem steps_navigated : Relation.ReflTransGen Step (fresh twoScripts) navigated := by
  unfold navigated
  refine .tail ?_ (.stop _)
  refine .tail ?_ (.fetch _ 0)
  refine .tail ?_ (.fetch _ 0)
  refine .tail ?_ (.pump _)
  refine .tail ?_ (.dispatch _ _)
  refine .tail ?_ (.pump _)
  refine .tail ?_ (.dispatch _ _)
  refine .tail ?_ (.pump _)
  refine .tail ?_ (.advance _)
  refine .tail ?_ (.dispatch _ _)
  exact .single (.start _ _)

theorem young_navigated : Young navigated.history := by
  have hhistory : navigated.history =
      [.dispatch (scriptParsed "1" "old.js"), .handle (scriptParsed "1" "old.js"),
        .dispatch ⟨Event.executionContextsCleared, .empty⟩, .handle ⟨Event.executionContextsCleared, .empty⟩,
        .dispatch (scriptParsed "2" "new.js"), .handle (scriptParsed "2" "new.js"),
        .fetch (some 0) 1 (.ok "old()"), .fetch (some 2) 0 (.ok "new()"), .close] := rfl
  intro n age r hmem
  rw [hhistory] at hmem
  simp only [List.mem_cons, reduceCtorEq, fetch.injEq, List.not_mem_nil, false_or, or_false] at hmem
  rcases hmem with ⟨-, rfl, -⟩ | ⟨-, rfl, -⟩
  · decide
  · decide

/-- The script from before the navigation is not collected although its source came. -/
theorem stop_takes_collected_navigated :
    (Session.router twoScripts).WellFormed ∧ Relation.ReflTransGen Step (fresh twoScripts) navigated ∧
      navigated.scene.tracker.phase = .stopping {}
        (.unsent (Strategy.collectCommand ({} : ScriptOptions)) ::
          (Strategy.disableCommands ({} : ScriptOptions)).map .unsent) ∧
      Young navigated.history ∧ navigated.TakesCollected {} ∧
      navigated.scene.finishStop.1 = [⟨⟨"2"⟩, "new.js", "new()"⟩] := by
  have wellFormed : (Session.router twoScripts).WellFormed := fun _ hl => absurd hl List.not_mem_nil
  exact ⟨wellFormed, steps_navigated, rfl, young_navigated,
    stop_takes_collected wellFormed steps_navigated rfl young_navigated, rfl⟩

end Watched

end PageCoverage
