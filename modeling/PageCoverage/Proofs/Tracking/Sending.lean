import Mathlib.Data.List.Perm.Basic
import PageCoverage.Proofs.Session.Remembering
import PageCoverage.Proofs.Tracking.Reachable

namespace PageCoverage

/-- The command that fetches the source of a registration, if the event is one that is admitted under the options. -/
def Strategy.fetch? {K : Type} [Strategy K] (heard : K × Event) : Option Command :=
  (Strategy.admitted? heard.1 heard.2).map fun r => Strategy.fetchCommand heard.1 r.id

/-- The commands of fetches that have not made their first step. -/
def Tracker.unsentFetches {K κ : Type} (t : Tracker K κ) : List Command :=
  t.fetches.filterMap fun f => f.request.unsent?

namespace Scene

open Remembers

variable {σ K κ : Type} [Session σ κ] [Strategy K] {s : Scene σ K κ} {options : K} {a : Attachment}
  {batch : List (Request κ)}

section Sent

variable [Remembers σ κ]

omit [Strategy K] in
theorem sent_abandon (s : Scene σ K κ) : sent s.abandon.session = sent s.session := by
  rw [abandon]
  split
  · exact (sent_detach { s with session := Request.cancelAll s.session _ } _).trans (sent_cancelAll _ _)
  · exact sent_cancelAll _ _
  · rfl

theorem sent_attach (s : Scene σ K κ) : sent s.attach.2.session = sent s.session := by
  cases hfirst : Session.subscribe (Session.openSink s.session).2 (Strategy.registrationEvent K)
      (Session.openSink s.session).1 with
  | error e =>
    simp only [attach, hfirst]
    exact (sent_closeSink _ _).trans (sent_openSink _)
  | ok one =>
    obtain ⟨registrations, u⟩ := one
    have hone : sent u = sent s.session := (sent_subscribe hfirst).trans (sent_openSink _)
    cases hsecond : Session.subscribe u Event.executionContextsCleared (Session.openSink s.session).1 with
    | error e =>
      simp only [attach, hfirst, hsecond]
      exact (sent_closeSink _ _).trans ((sent_withRouter u _).trans hone)
    | ok both =>
      simp only [attach, hfirst, hsecond]
      exact (sent_subscribe hsecond).trans hone

/-- A start begins without sending anything; `advance` sends its commands. -/
theorem sent_beginStart (s : Scene σ K κ) (options : K) :
    sent (s.beginStart options).2.session = sent s.session := by
  rw [beginStart]
  split
  · rfl
  · have hattach := sent_attach (s.abandon.withCache s.abandon.tracker.cache.beginSession)
    have hsent := hattach.trans (sent_abandon s)
    dsimp only
    split
    next heq =>
      rw [heq] at hsent
      exact hsent
    next heq =>
      rw [heq] at hsent
      exact hsent

theorem sent_beginStop (s : Scene σ K κ) : sent s.beginStop.2.session = sent s.session := by
  rw [beginStop]
  split
  · exact sent_detach s _
  · exact sent_abandon s

theorem sent_advance_of_starting (starting : s.tracker.phase = .starting options a batch) :
    sent s.advance.2.session = sent (Request.pollAll s.session batch).2 := by
  simp only [advance, starting]
  split
  · exact sent_abandon ({ s with session := (Request.pollAll s.session batch).2 }.enter _)
  · split <;> rfl

/-- A start sends commands that enable. -/
theorem Sound.sent_starting (h : Sound s) (starting : s.tracker.phase = .starting options a batch) :
    ∃ cs, sent s.advance.2.session = sent s.session ++ cs ∧ cs ⊆ Strategy.enableCommands options := by
  obtain ⟨-, -, hbatch⟩ := h.starting options a batch starting
  obtain ⟨cs, hcs, hsent⟩ := Request.sent_pollAll batch s.session
  refine ⟨cs, (sent_advance_of_starting starting).trans hsent, ?_⟩
  exact List.Subset.trans hcs.subset (Request.unsent_subset hbatch)

/-- A stop sends commands of its batch. -/
theorem Sound.sent_stopping (h : Sound s) (stopping : s.tracker.phase = .stopping options batch) :
    ∃ cs, sent s.advance.2.session = sent s.session ++ cs ∧ cs ⊆ stopBatch options := by
  obtain ⟨-, hbatch⟩ := h.stopping options batch stopping
  obtain ⟨cs, hcs, hsent⟩ := Request.sent_pollAll batch s.session
  refine ⟨cs, (sent_advance_of_stopping stopping).trans hsent, ?_⟩
  exact List.Subset.trans hcs.subset (Request.unsent_subset hbatch)

/-- A poll sends commands of the strategy that belong to a start or to a stop. -/
theorem Sound.sent_advance (h : Sound s) :
    ∃ cs, sent s.advance.2.session = sent s.session ++ cs ∧
      ∀ c ∈ cs, ∃ options : K, c ∈ Strategy.enableCommands options ∨ c ∈ stopBatch options := by
  cases hphase : s.tracker.phase with
  | starting options a batch =>
    obtain ⟨cs, hsent, hcs⟩ := h.sent_starting hphase
    exact ⟨cs, hsent, fun c hc => ⟨options, .inl (hcs hc)⟩⟩
  | stopping options batch =>
    obtain ⟨cs, hsent, hcs⟩ := h.sent_stopping hphase
    exact ⟨cs, hsent, fun c hc => ⟨options, .inr (hcs hc)⟩⟩
  | idle =>
    rw [advance_of_idle hphase]
    exact ⟨[], (List.append_nil _).symm, nofun⟩
  | enabled options a =>
    rw [advance_of_enabled hphase]
    exact ⟨[], (List.append_nil _).symm, nofun⟩

omit [Strategy K] in
theorem sent_drop (s : Scene σ K κ) : sent s.drop.session = sent s.session := by
  rw [drop]
  split
  · exact (sent_detach _ _).trans (sent_abandon s)
  · exact sent_abandon s

/-- A poll sends what it does before anything is concluded from it. -/
theorem sent_polled (s : Scene σ K κ) : sent s.polled.session = sent s.advance.2.session := by
  cases hphase : s.tracker.phase with
  | starting options a batch =>
    rw [sent_advance_of_starting hphase]
    simp only [polled, hphase, enter]
  | stopping options batch =>
    rw [sent_advance_of_stopping hphase]
    simp only [polled, hphase, enter]
  | idle =>
    rw [advance_of_idle hphase]
    simp only [polled, hphase]
  | enabled options a =>
    rw [advance_of_enabled hphase]
    simp only [polled, hphase]

theorem sent_pump (s : Scene σ K κ) : sent s.pump.session = sent s.session := by
  cases hnext : s.next? with
  | none =>
    obtain hsame | ⟨_, _, -, -, -, hsession, -⟩ := pump_of_next?_eq_none hnext
    · rw [hsame]
    · rw [hsession, sent_closeSink]
  | some e =>
    obtain ⟨options, _, _, taken, -, -, -, hsession, hpump⟩ := pump_of_next? hnext
    rw [hpump, (onEvent_frame taken options e).1, hsession, sent_withRouter]

/-- The first step of a fetch sends its command. -/
theorem sent_fetchAt (s : Scene σ K κ) (i : Nat) :
    ∃ cs, sent (s.fetchAt i).session = sent s.session ++ cs ∧
      s.tracker.unsentFetches.Perm (cs ++ (s.fetchAt i).tracker.unsentFetches) := by
  cases hf : s.tracker.fetches[i]? with
  | none =>
    have hsame : s.fetchAt i = s := by simp only [fetchAt, hf]
    rw [hsame]
    exact ⟨[], (List.append_nil _).symm, .refl _⟩
  | some f =>
    have hsent := Request.sent_poll s.session f.request
    have hnone : (f.request.poll s.session).1.unsent? = none :=
      Request.unsent?_of_isSent (Request.isSent_poll s.session f.request)
    have htaken : s.tracker.unsentFetches.Perm (f.request.unsent?.toList ++
        (s.tracker.fetches.eraseIdx i).filterMap fun f => f.request.unsent?) := by
      obtain ⟨hi, rfl⟩ := List.getElem?_eq_some_iff.mp hf
      have hperm := (List.getElem_cons_eraseIdx_perm hi).symm.filterMap fun f => f.request.unsent?
      rw [List.filterMap_cons] at hperm
      rw [Tracker.unsentFetches]
      cases hunsent : (s.tracker.fetches[i]).request.unsent? <;> rw [hunsent] at hperm <;> exact hperm
    refine ⟨f.request.unsent?.toList, ?_⟩
    by_cases hdone : ∃ result, (f.request.poll s.session).1 = .done result
    · obtain ⟨result, hresult⟩ := hdone
      obtain ⟨hsession, htracker⟩ := fetchAt_of_done hf hresult
      rw [hsession, htracker]
      exact ⟨hsent, htaken⟩
    · obtain ⟨hsession, htracker⟩ := fetchAt_of_waiting hf (not_exists.mp hdone)
      rw [hsession, htracker]
      refine ⟨hsent, htaken.trans (.append_left _ (.of_eq ?_))⟩
      have hlast : [(⟨f.options, f.resource, f.generation, (f.request.poll s.session).1⟩ : Fetch K κ)].filterMap
          (fun f => f.request.unsent?) = [] := List.filterMap_cons_none hnone
      rw [Tracker.unsentFetches, List.filterMap_append, hlast, List.append_nil]

end Sent

omit [Strategy K] in
theorem fetches_abandon (s : Scene σ K κ) : s.abandon.tracker.fetches = s.tracker.fetches := by
  rw [abandon]
  split <;> rfl

theorem fetches_attach (s : Scene σ K κ) : s.attach.2.tracker.fetches = s.tracker.fetches := by
  simp only [attach]
  split
  · rfl
  · split <;> rfl

theorem fetches_beginStart (s : Scene σ K κ) (options : K) :
    (s.beginStart options).2.tracker.fetches = s.tracker.fetches := by
  rw [beginStart]
  split
  · rfl
  · have hattach := fetches_attach (s.abandon.withCache s.abandon.tracker.cache.beginSession)
    have hfetches := hattach.trans (fetches_abandon s)
    dsimp only
    split
    next heq =>
      rw [heq] at hfetches
      exact hfetches
    next heq =>
      rw [heq] at hfetches
      exact hfetches

theorem fetches_beginStop (s : Scene σ K κ) : s.beginStop.2.tracker.fetches = s.tracker.fetches := by
  rw [beginStop]
  split
  · rfl
  · exact fetches_abandon s

omit [Strategy K] in
theorem fetches_drop (s : Scene σ K κ) : s.drop.tracker.fetches = s.tracker.fetches := by
  rw [drop]
  split
  · exact fetches_abandon s
  · exact fetches_abandon s

omit [Strategy K] in
theorem fetches_polled (s : Scene σ K κ) : s.polled.tracker.fetches = s.tracker.fetches := by
  rw [polled]
  split <;> rfl

theorem fetches_advance (s : Scene σ K κ) : s.advance.2.tracker.fetches = s.tracker.fetches := by
  have hpolled := fetches_polled s
  have hgiven := (fetches_abandon s.polled).trans hpolled
  cases hphase : s.tracker.phase with
  | starting options a batch =>
    rw [advance_starting hphase]
    split
    · exact hgiven
    · split <;> exact hpolled
  | stopping options batch =>
    rw [advance_stopping hphase]
    split
    · exact hgiven
    · split <;> exact hpolled
  | idle => rw [advance_of_idle hphase]
  | enabled options a => rw [advance_of_enabled hphase]

/-- The event that the pump handles next, with the options in force, while the cache takes records. -/
def heard? (s : Scene σ K κ) : Option (K × Event) :=
  match s.tracker.phase with
  | .enabled options _ => if s.tracker.cache.accepting then s.next?.map (options, ·) else none
  | _ => none

/-- The fetch of a registration, as it begins. -/
def fetchOf (s : Scene σ K κ) (options : K) (r : Registration) : Fetch K κ :=
  ⟨options, r, s.tracker.cache.generation, .unsent (Strategy.fetchCommand options r.id)⟩

omit [Session σ κ] in
theorem fetches_onEvent (s : Scene σ K κ) (options : K) (e : Event) :
    (s.onEvent options e).tracker.fetches = s.tracker.fetches ++
      (if s.tracker.cache.accepting then (Strategy.admitted? options e).map (s.fetchOf options) else none).toList := by
  cases haccepting : s.tracker.cache.accepting with
  | true =>
    cases hadmitted : Strategy.admitted? options e with
    | none =>
      rw [tracker_onEvent_of_refused haccepting hadmitted]
      split <;> exact (List.append_nil _).symm
    | some r => rw [tracker_onEvent_of_admitted haccepting hadmitted]; rfl
  | false =>
    -- A closed cache has no generation to put on a fetch, and a reset leaves it alone.
    rw [onEvent]
    split
    · rw [onReset, Cache.reset, haccepting]
      split <;> exact (List.append_nil _).symm
    · rw [onRegistration, Cache.acceptingGeneration, haccepting]
      split <;> exact (List.append_nil _).symm

/-- The pump begins a fetch for each registration that it admits. -/
theorem fetches_pump (s : Scene σ K κ) :
    s.pump.tracker.fetches = s.tracker.fetches ++
      (s.heard?.bind fun heard => (Strategy.admitted? heard.1 heard.2).map (s.fetchOf heard.1)).toList := by
  cases hnext : s.next? with
  | none =>
    have hheard : s.heard? = none := by
      rw [heard?, hnext]
      split <;> simp
    rw [hheard]
    obtain hsame | ⟨_, _, -, -, -, -, htracker⟩ := pump_of_next?_eq_none hnext
    · rw [hsame]
      exact (List.append_nil _).symm
    · rw [htracker]
      exact (List.append_nil _).symm
  | some e =>
    obtain ⟨options, a, rest, taken, hphase, -, htracker, -, hpump⟩ := pump_of_next? hnext
    have hfetch : taken.fetchOf options = s.fetchOf options := funext fun r => by rw [fetchOf, fetchOf, htracker]
    rw [hpump, fetches_onEvent, hfetch, htracker, heard?, hphase, hnext]
    cases s.tracker.cache.accepting <;> rfl

/-- Handling an event adds the command of the fetch that it asks for, if it does. -/
theorem unsentFetches_pump (s : Scene σ K κ) :
    s.pump.tracker.unsentFetches = s.tracker.unsentFetches ++ (s.heard?.bind Strategy.fetch?).toList := by
  rw [Tracker.unsentFetches, fetches_pump, List.filterMap_append]
  cases s.heard? with
  | none => rfl
  | some heard =>
    rw [Option.bind_some, Option.bind_some, Strategy.fetch?]
    cases Strategy.admitted? heard.1 heard.2 <;> rfl

end Scene

end PageCoverage
