import PageCoverage.Proofs.Tracking.Parallel

namespace PageCoverage

/-- The options and the attachment of a tracker that listens. -/
def Tracker.listening? {K κ : Type} (t : Tracker K κ) : Option (K × Attachment) :=
  match t.phase with
  | .starting options a _ | .enabled options a => some (options, a)
  | _ => none

theorem Tracker.attachment?_eq {K κ : Type} (t : Tracker K κ) : t.attachment? = t.listening?.map Prod.snd := by
  rw [attachment?, listening?]
  cases t.phase <;> rfl

namespace Scene

open StandIn

variable {K : Type} {s t u v : Scene StandIn K HeldCall} {options : K} {a : Attachment}
  {batch : List (Request HeldCall)}

def inbox (s : Scene StandIn K HeldCall) : List Event :=
  s.tracker.attachment?.elim [] fun a => s.session.router.queue a.sink

/-- Two scenes that are one to their tracker. -/
structure Alike (s t : Scene StandIn K HeldCall) : Prop extends Parallel s t where
  inbox : s.inbox = t.inbox

theorem Alike.refl (s : Scene StandIn K HeldCall) : Alike s s := ⟨.refl s, rfl⟩

theorem inbox_of_attached (ha : s.tracker.attachment? = some a) : s.inbox = s.session.router.queue a.sink := by
  rw [inbox, ha]
  rfl

theorem inbox_of_detached (h : s.tracker.attachment? = none) : s.inbox = [] := by
  rw [inbox, h]
  rfl

theorem inbox_of_router (router : t.session.router = s.session.router)
    (attachment : t.tracker.attachment? = s.tracker.attachment?) : t.inbox = s.inbox := by
  rw [inbox, inbox, router, attachment]

/-- A tracker that listens afterwards has listened before, and the events that waited for it still wait. -/
def Keeps (s t : Scene StandIn K HeldCall) : Prop :=
  ∀ p, t.tracker.listening? = some p → s.tracker.listening? = some p ∧ t.session.router = s.session.router

theorem Keeps.inbox_eq (h : Keeps s t) : t.inbox = if t.tracker.listening?.isSome then s.inbox else [] := by
  cases ht : t.tracker.listening? with
  | none =>
    rw [inbox_of_detached (by rw [Tracker.attachment?_eq, ht]; rfl)]
    rfl
  | some p =>
    obtain ⟨hs, hrouter⟩ := h p ht
    exact inbox_of_router hrouter (by rw [Tracker.attachment?_eq, Tracker.attachment?_eq, hs, ht])

theorem Keeps.refl (s : Scene StandIn K HeldCall) : Keeps s s := fun _ h => ⟨h, rfl⟩

theorem keeps_of_detached (h : t.tracker.listening? = none) : Keeps s t := by
  intro p hp
  rw [h] at hp
  cases hp

theorem keeps_abandon (s : Scene StandIn K HeldCall) : Keeps s s.abandon := by
  by_cases henabled : s.tracker.isEnabled = true
  · obtain ⟨options, a, hphase⟩ := Tracker.isEnabled_iff.mp henabled
    rw [abandon_of_enabled hphase]
    exact .refl s
  · refine keeps_of_detached ?_
    rw [tracker_abandon (by simpa using henabled)]
    rfl

theorem keeps_polled (s : Scene StandIn K HeldCall) : Keeps s s.polled := by
  intro p hp
  refine ⟨?_, router_polled s⟩
  rw [← hp]
  cases hphase : s.tracker.phase with
  | starting options a batch => simp only [Tracker.listening?, polled_of_starting hphase, hphase]
  | stopping options batch => simp only [Tracker.listening?, polled_of_stopping hphase, hphase]
  | _ => simp only [polled, hphase]

theorem keeps_drop (s : Scene StandIn K HeldCall) : Keeps s s.drop := by
  rw [drop]
  split
  · exact keeps_of_detached rfl
  · exact keeps_abandon s

theorem Parallel.listening_iff (h : Parallel s t) :
    s.tracker.listening?.map Prod.fst = t.tracker.listening?.map Prod.fst := by
  have hphase := h.phase
  cases hs : s.tracker.phase <;> cases ht : t.tracker.phase <;> rw [hs, ht] at hphase <;>
    first | cases hphase; simp only [Tracker.listening?, hs, ht, Option.map] | cases hphase

theorem Alike.of_keeps (h : Alike s t) (parallel : Parallel u v) (left : Keeps s u) (right : Keeps t v) :
    Alike u v where
  toParallel := parallel
  inbox := by
    have hlistening := congrArg Option.isSome parallel.listening_iff
    rw [Option.isSome_map, Option.isSome_map] at hlistening
    rw [left.inbox_eq, right.inbox_eq, hlistening, h.inbox]

theorem Alike.abandon (h : Alike s t) : Alike s.abandon t.abandon :=
  h.of_keeps h.toParallel.abandon (keeps_abandon s) (keeps_abandon t)

variable [Strategy K]

theorem keeps_beginStop (s : Scene StandIn K HeldCall) : Keeps s s.beginStop.2 := by
  rw [beginStop]
  split
  · exact keeps_of_detached rfl
  · exact keeps_abandon s

theorem keeps_advance (s : Scene StandIn K HeldCall) : Keeps s s.advance.2 := by
  cases hphase : s.tracker.phase with
  | idle =>
    rw [advance_of_idle hphase]
    exact .refl s
  | enabled options a =>
    rw [advance_of_enabled hphase]
    exact .refl s
  | starting options a batch =>
    have hlistening : s.tracker.listening? = some (options, a) := by rw [Tracker.listening?, hphase]
    obtain ⟨htracker, -⟩ | ⟨hrouter, ⟨rest, htracker⟩ | htracker⟩ := advance_of_starting hphase
    · exact keeps_of_detached (by rw [htracker]; rfl)
    all_goals
      intro p hp
      rw [htracker] at hp
      exact ⟨hlistening.trans hp, hrouter⟩
  | stopping options batch =>
    obtain ⟨-, ⟨rest, htracker⟩ | htracker⟩ := advance_of_stopping hphase
    · exact keeps_of_detached (by rw [htracker]; rfl)
    · exact keeps_of_detached (by rw [htracker]; rfl)

theorem keeps_advanceFetch (s : Scene StandIn K HeldCall) (f : Fetch K HeldCall) : Keeps s (s.advanceFetch f) := by
  obtain ⟨hsession, hphase⟩ := advanceFetch_frame s f
  intro p hp
  rw [Tracker.listening?, hphase] at hp
  refine ⟨hp, ?_⟩
  rw [hsession]
  exact Request.router_poll s.session f.request

theorem keeps_fetchAt (s : Scene StandIn K HeldCall) (i : Nat) : Keeps s (s.fetchAt i) := by
  rw [fetchAt]
  split
  · exact .refl s
  · exact fun p hp => keeps_advanceFetch _ _ p hp

/-- Nothing waits for a tracker that has just begun to listen. -/
theorem inbox_beginStart (s : Scene StandIn K HeldCall) (options : K) :
    (s.beginStart options).2.inbox = if s.tracker.isEnabled then s.inbox else [] := by
  by_cases henabled : s.tracker.isEnabled = true
  · rw [beginStart, if_pos henabled, if_pos henabled]
  · rw [beginStart, if_neg henabled, if_neg henabled]
    show (s.abandon.session.router.sinks ++
      [({} : Sink)])[s.abandon.session.router.sinks.length]?.elim [] Sink.queue = []
    rw [List.getElem?_concat_length]
    rfl

theorem Alike.beginStart (h : Alike s t) (options : K) :
    (s.beginStart options).1 = (t.beginStart options).1 ∧
      Alike (s.beginStart options).2 (t.beginStart options).2 := by
  obtain ⟨hresult, hbegun⟩ := h.toParallel.beginStart options
  refine ⟨hresult, hbegun, ?_⟩
  rw [inbox_beginStart, inbox_beginStart, h.isEnabled, h.inbox]

theorem Alike.beginStop (h : Alike s t) :
    s.beginStop.1 = t.beginStop.1 ∧ Alike s.beginStop.2 t.beginStop.2 := by
  obtain ⟨hresult, hbegun⟩ := h.toParallel.beginStop
  exact ⟨hresult, h.of_keeps hbegun (keeps_beginStop s) (keeps_beginStop t)⟩

theorem Alike.advance (h : Alike s t) : s.advance.1 = t.advance.1 ∧ Alike s.advance.2 t.advance.2 := by
  obtain ⟨hresult, hadvanced⟩ := h.toParallel.advance
  exact ⟨hresult, h.of_keeps hadvanced (keeps_advance s) (keeps_advance t)⟩

theorem Alike.advanceFetch (h : Alike s t) (f : Fetch K HeldCall) :
    Alike (s.advanceFetch f) (t.advanceFetch f) :=
  h.of_keeps (h.toParallel.advanceFetch f) (keeps_advanceFetch s f) (keeps_advanceFetch t f)

theorem Alike.fetchAll (h : Alike s t) : Alike s.fetchAll t.fetchAll := by
  have hall (fs : List (Fetch K HeldCall)) {s t : Scene StandIn K HeldCall} (h : Alike s t) :
      Alike (fs.foldl Scene.advanceFetch s) (fs.foldl Scene.advanceFetch t) := by
    induction fs generalizing s t with
    | nil => exact h
    | cons f fs ih => exact ih (h.advanceFetch f)
  rw [Scene.fetchAll, Scene.fetchAll, h.fetches]
  exact hall _ ⟨⟨h.session, h.cache, h.phase, rfl⟩, h.inbox⟩

variable {others others' : List Listener}

/-- With no event to handle, a tracker among others does nothing. -/
theorem Among.pump_of_inbox_nil (h : Among others s) (empty : s.inbox = []) : s.pump = s := by
  have hnext : s.next? = none := by
    rw [next?]
    split
    next options a hphase =>
      rw [inbox_of_attached (a := a) (by rw [Tracker.attachment?, hphase])] at empty
      split
      · exact List.head?_eq_none_iff.mpr empty
      · rfl
    · rfl
  obtain hsame | ⟨options, a, hphase, -, hunfed, -⟩ := pump_of_next?_eq_none hnext
  · exact hsame
  · have ha : s.tracker.attachment? = some a := by rw [Tracker.attachment?, hphase]
    exact absurd hunfed (h.feeders_ne_nil ha)

/-- Otherwise an enabled one handles the oldest event. -/
theorem Among.pump_of_inbox_cons (h : Among others s) (enabled : s.tracker.phase = .enabled options a)
    {e : Event} {rest : List Event} (hinbox : s.inbox = e :: rest) :
    ∃ taken : Scene StandIn K HeldCall, taken.tracker = s.tracker ∧ s.pump = taken.onEvent options e ∧
      s.pump.inbox = rest := by
  have ha : s.tracker.attachment? = some a := by rw [Tracker.attachment?, enabled]
  rw [inbox_of_attached ha] at hinbox
  have hnext : s.next? = some e := by
    have hqueue : (Session.router s.session).queue a.sink = e :: rest := hinbox
    simp only [next?, enabled, (h.attached a ha).1, if_true, hqueue, List.head?_cons]
  obtain ⟨options', a', rest', taken, hphase, hqueue, htaken, hsession, hpump⟩ := pump_of_next? hnext
  rw [enabled] at hphase
  cases hphase
  obtain ⟨hframe, hsame⟩ := taken.onEvent_frame options e
  rw [← hpump, htaken] at hsame
  rw [← hpump, hsession] at hframe
  refine ⟨taken, htaken, hpump, ?_⟩
  rw [inbox_of_attached (a := a) (by rw [Tracker.attachment?, hsame, enabled]), hframe]
  show (s.session.router.take a.sink).2.queue a.sink = rest
  have hleft := s.session.router.queue_take a.sink a.sink
  rw [if_pos rfl, hinbox] at hleft
  have holdest : (s.session.router.take a.sink).1 = some e := by rw [Router.take_of_queue_cons hinbox]
  rw [holdest] at hleft
  exact (List.cons.inj hleft).2.symm

/-- Two enabled trackers among others stay in step over an event that is the next one for both. -/
theorem Parallel.pump_of_inbox_cons (h : Parallel s t) (left : Among others s) (right : Among others' t)
    (enabled : s.tracker.phase = .enabled options a) {e : Event} {rest rest' : List Event}
    (next : s.inbox = e :: rest) (next' : t.inbox = e :: rest') :
    Parallel s.pump t.pump ∧ s.pump.tracker.phase = s.tracker.phase ∧ s.pump.inbox = rest ∧ t.pump.inbox = rest' := by
  obtain ⟨b, ht⟩ := h.of_enabled enabled
  obtain ⟨u, hu, hspump, hsrest⟩ := left.pump_of_inbox_cons enabled next
  obtain ⟨v, hv, htpump, htrest⟩ := right.pump_of_inbox_cons ht next'
  have hevent := onEvent_congr (s := u) (t := v) (by rw [hu, hv, h.cache]) (by rw [hu, hv, h.fetches]) options e
  have hsphase : s.pump.tracker.phase = s.tracker.phase := by rw [hspump, (u.onEvent_frame options e).2, hu]
  have htphase : t.pump.tracker.phase = t.tracker.phase := by rw [htpump, (v.onEvent_frame options e).2, hv]
  refine ⟨h.continue (continues_pump s) (continues_pump t) ?_ ?_ ?_, hsphase, hsrest, htrest⟩
  · rw [hspump, htpump]
    exact hevent.1
  · rw [hsphase, htphase, h.phase]
  · rw [hspump, htpump]
    exact hevent.2

theorem Alike.pump (h : Alike s t) (left : Among others s) (right : Among others' t) : Alike s.pump t.pump := by
  by_cases henabled : s.tracker.isEnabled = true
  · obtain ⟨options, a, hs⟩ := Tracker.isEnabled_iff.mp henabled
    cases hinbox : s.inbox with
    | nil =>
      rw [left.pump_of_inbox_nil hinbox, right.pump_of_inbox_nil (h.inbox.symm.trans hinbox)]
      exact h
    | cons e rest =>
      obtain ⟨hpumped, -, hsrest, htrest⟩ :=
        h.toParallel.pump_of_inbox_cons left right hs hinbox (h.inbox.symm.trans hinbox)
      exact ⟨hpumped, hsrest.trans htrest.symm⟩
  · rw [pump_of_not_enabled (by simpa using henabled),
      pump_of_not_enabled (s := t) (by rw [← h.isEnabled]; simpa using henabled)]
    exact h

omit [Strategy K] in
theorem waiting_eq (s : Scene StandIn K HeldCall) :
    s.waiting = if s.tracker.isEnabled then s.inbox.length else 0 := by
  cases hphase : s.tracker.phase with
  | enabled options a =>
    rw [inbox_of_attached (a := a) (by rw [Tracker.attachment?, hphase])]
    simp only [waiting, hphase, Tracker.isEnabled, if_true]
    rfl
  | _ => simp [waiting, hphase, Tracker.isEnabled]

theorem Alike.pumpAll (h : Alike s t) (left : Among others s) (right : Among others' t) :
    Alike s.pumpAll t.pumpAll := by
  -- Pumping keeps each tracker among its own others, which the next pump needs.
  have hall (n : Nat) : Alike (Nat.repeat Scene.pump n s) (Nat.repeat Scene.pump n t) ∧
      Among others (Nat.repeat Scene.pump n s) ∧ Among others' (Nat.repeat Scene.pump n t) := by
    induction n with
    | zero => exact ⟨h, left, right⟩
    | succ n ih =>
      obtain ⟨hn, hleft, hright⟩ := ih
      exact ⟨hn.pump hleft hright, (moves_pump hleft).among, (moves_pump hright).among⟩
  rw [Scene.pumpAll, Scene.pumpAll, waiting_eq s, waiting_eq t, h.isEnabled, h.inbox]
  exact (hall _).1

/-- An event reaches an attached tracker once for each time that it listens for it. -/
theorem Among.inbox_dispatch (h : Among others s) (e : Event)
    (session : t.session.router = (s.session.router.dispatch e).2) (tracker : t.tracker = s.tracker) :
    t.inbox = s.inbox ++
      if s.tracker.attachment?.isSome then List.replicate ((Strategy.events K).count e.method) e else [] := by
  cases ha : s.tracker.attachment? with
  | none =>
    rw [inbox_of_detached ha, inbox_of_detached (s := t) (by rw [tracker, ha])]
    rfl
  | some a =>
    have hcount : ((s.session.router.feeders a.sink).countP fun l =>
        l.event == e.method && s.session.router.isOpen a.sink) = (Strategy.events K).count e.method := by
      rw [← (h.event_feeders ha).count_eq, List.count, List.countP_map, h.isOpen_own ha]
      simp only [Bool.and_true]
      rfl
    rw [inbox_of_attached ha, inbox_of_attached (s := t) (by rw [tracker, ha]), session, Router.queue_dispatch,
      hcount]
    rfl

/-- What is done to both stand-ins from outside is the same to both trackers. -/
theorem Alike.touch (h : Alike s t) (left : Among others s) (right : Among others' t) (touch : Touch)
    (session : u.session = s.session.touch touch) (tracker : u.tracker = s.tracker)
    (session' : v.session = t.session.touch touch) (tracker' : v.tracker = t.tracker) : Alike u v where
  toParallel := h.toParallel.touch touch session tracker session' tracker'
  inbox := by
    cases touch with
    | emit event params =>
      rw [left.inbox_dispatch (t := u) ⟨event, params⟩ (by rw [session]; rfl) tracker,
        right.inbox_dispatch (t := v) ⟨event, params⟩ (by rw [session']; rfl) tracker', h.inbox, h.attached_iff]
    | _ =>
      have hrouter : u.session.router = s.session.router := (congrArg StandIn.router session).trans rfl
      have hrouter' : v.session.router = t.session.router := (congrArg StandIn.router session').trans rfl
      rw [inbox_of_router hrouter (by rw [tracker]), inbox_of_router hrouter' (by rw [tracker']), h.inbox]

omit [Strategy K] in
/-- What others do on the session is nothing to a tracker as long as they leave its sink alone. -/
theorem Alike.beside (h : Alike s t) (session : u.session.bare = s.session.bare) (tracker : u.tracker = s.tracker)
    (sink : ∀ a, s.tracker.attachment? = some a →
      u.session.router.sinks[a.sink]? = s.session.router.sinks[a.sink]?) : Alike u t where
  session := session.trans h.session
  cache := by rw [tracker, h.cache]
  phase := by rw [tracker, h.phase]
  fetches := by rw [tracker, h.fetches]
  inbox := by
    rw [← h.inbox, Scene.inbox, Scene.inbox, tracker]
    cases ha : s.tracker.attachment? with
    | none => rfl
    | some a =>
      show u.session.router.queue a.sink = s.session.router.queue a.sink
      rw [Router.queue, Router.queue, sink a ha]

end Scene

end PageCoverage
