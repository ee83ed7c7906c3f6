import PageCoverage.Proofs.Tracking.Alike
import PageCoverage.Proofs.Tracking.Chronicle

namespace PageCoverage

/-- Whether anything comes of an event: the page was cleared, or a registration is admitted. -/
def Strategy.heeds {K : Type} [Strategy K] (options : K) (e : Event) : Bool :=
  e.method == Event.executionContextsCleared || (Strategy.admitted? options e).isSome

/-- Whether a tracker listens and heeds an event. -/
def Tracker.heeds {K κ : Type} [Strategy K] (t : Tracker K κ) (e : Event) : Bool :=
  t.listening?.any fun p => Strategy.heeds p.1 e

namespace Scene

open StandIn

variable {K : Type} [Strategy K] {s t u v : Scene StandIn K HeldCall} {options : K} {a : Attachment} {e : Event}
  {others : List Listener}

/-- Of the events that wait for the first tracker, those that it heeds wait for the second; apart from that the two
are in step. -/
structure Sifted (s t : Scene StandIn K HeldCall) : Prop extends Parallel s t where
  inbox : t.inbox = s.inbox.filter s.tracker.heeds

theorem heeds_of_enabled (enabled : s.tracker.phase = .enabled options a) :
    s.tracker.heeds = Strategy.heeds options := by
  funext e
  simp only [Tracker.heeds, Tracker.listening?, enabled, Option.any_some]

theorem Sifted.of_keeps (h : Sifted s t) (parallel : Parallel u v) (left : Keeps s u) (right : Keeps t v) :
    Sifted u v where
  toParallel := parallel
  inbox := by
    have hlistening := congrArg Option.isSome parallel.listening_iff
    rw [Option.isSome_map, Option.isSome_map] at hlistening
    rw [left.inbox_eq, right.inbox_eq, ← hlistening]
    cases hu : u.tracker.listening? with
    | none => rfl
    | some p =>
      have hheeds : u.tracker.heeds = s.tracker.heeds := by
        funext e
        rw [Tracker.heeds, Tracker.heeds, hu, (left p hu).1]
      rw [hheeds]
      exact h.inbox

theorem Sifted.beginStart (h : Sifted s t) (options : K) :
    Sifted (s.beginStart options).2 (t.beginStart options).2 where
  toParallel := (h.toParallel.beginStart options).2
  inbox := by
    rw [inbox_beginStart, inbox_beginStart, ← h.isEnabled]
    by_cases henabled : s.tracker.isEnabled = true
    · have hsame : (s.beginStart options).2 = s := by rw [Scene.beginStart, if_pos henabled]
      rw [if_pos henabled, if_pos henabled, hsame]
      exact h.inbox
    · rw [if_neg henabled, if_neg henabled]
      rfl

theorem Sifted.advance (h : Sifted s t) : Sifted s.advance.2 t.advance.2 :=
  h.of_keeps h.toParallel.advance.2 (keeps_advance s) (keeps_advance t)

theorem Sifted.abandon (h : Sifted s t) : Sifted s.abandon t.abandon :=
  h.of_keeps h.toParallel.abandon (keeps_abandon s) (keeps_abandon t)

/-- An event that is not heeded leaves the tracker as it is. -/
theorem tracker_onEvent_of_unheeded (h : Strategy.heeds options e = false) :
    (s.onEvent options e).tracker = s.tracker := by
  rw [Strategy.heeds, Bool.or_eq_false_iff, beq_eq_false_iff_ne, Option.isSome_eq_false_iff,
    Option.isNone_iff_eq_none] at h
  obtain ⟨hmethod, hrefused⟩ := h
  rw [Strategy.admitted?, if_neg hmethod] at hrefused
  rw [onEvent, if_neg hmethod, onRegistration]
  split
  · rfl
  · rfl
  next hr =>
    rw [hr] at hrefused
    cases hrefused

/-- The next event of an enabled tracker among others is the first of those that wait. -/
theorem Among.next?_eq (h : Among others s) (enabled : s.tracker.phase = .enabled options a) :
    s.next? = s.inbox.head? := by
  have ha : s.tracker.attachment? = some a := by rw [Tracker.attachment?, enabled]
  rw [inbox_of_attached ha]
  simp only [next?, enabled, (h.attached a ha).1, if_true]
  rfl

theorem Sifted.pump_of_unheeded (h : Sifted s t) (among : Among others s) (next : s.next? = some e)
    (unheeded : s.tracker.heeds e = false) : Sifted s.pump t := by
  obtain ⟨options, a, -, -, hphase, -⟩ := pump_of_next? next
  rw [among.next?_eq hphase] at next
  obtain ⟨rest, hinbox⟩ := List.head?_eq_some_iff.mp next
  obtain ⟨taken, htaken, hpump, hrest⟩ := among.pump_of_inbox_cons hphase hinbox
  rw [heeds_of_enabled hphase] at unheeded
  have htracker : s.pump.tracker = s.tracker := by
    rw [hpump, tracker_onEvent_of_unheeded unheeded, htaken]
  refine ⟨⟨(continues_pump s).bare.trans h.session, ?_, ?_, ?_⟩, ?_⟩
  · rw [htracker, h.cache]
  · rw [htracker, h.phase]
  · rw [htracker, h.fetches]
  · rw [h.inbox, htracker, hrest, hinbox, heeds_of_enabled hphase, List.filter_cons_of_neg (by simp [unheeded])]

theorem Sifted.pump (h : Sifted s t) (left : Among others s) (right : Among others t)
    (heeded : ∀ e, s.next? = some e → s.tracker.heeds e = true) : Sifted s.pump t.pump := by
  by_cases henabled : s.tracker.isEnabled = true
  · obtain ⟨options, a, hs⟩ := Tracker.isEnabled_iff.mp henabled
    have hinbox := h.inbox
    cases hwaiting : s.inbox with
    | nil =>
      rw [hwaiting] at hinbox
      rw [left.pump_of_inbox_nil hwaiting, right.pump_of_inbox_nil hinbox]
      exact h
    | cons e rest =>
      have hheeds := heeded e (by rw [left.next?_eq hs, hwaiting]; rfl)
      rw [hwaiting, List.filter_cons_of_pos hheeds] at hinbox
      obtain ⟨hpumped, hphase, hsrest, htrest⟩ :=
        h.toParallel.pump_of_inbox_cons left right hs hwaiting hinbox
      refine ⟨hpumped, ?_⟩
      rw [hsrest, htrest, heeds_of_enabled hs, heeds_of_enabled (hphase.trans hs)]
  · rw [pump_of_not_enabled (by simpa using henabled),
      pump_of_not_enabled (s := t) (by rw [← h.isEnabled]; simpa using henabled)]
    exact h

theorem Sifted.emit_of_unheeded (h : Sifted s t) (among : Among others s) (unheeded : s.tracker.heeds e = false)
    (session : u.session = s.session.touch (.emit e.method e.params)) (tracker : u.tracker = s.tracker) :
    Sifted u t := by
  refine ⟨⟨?_, ?_, ?_, ?_⟩, ?_⟩
  · rw [← h.session, session]
    rfl
  · rw [tracker, h.cache]
  · rw [tracker, h.phase]
  · rw [tracker, h.fetches]
  · have hreplicate (n : Nat) : (List.replicate n e).filter s.tracker.heeds = [] := by
      rw [List.filter_replicate, unheeded]
      rfl
    rw [h.inbox, among.inbox_dispatch (t := u) e (by rw [session]; rfl) tracker, tracker, List.filter_append]
    split <;> simp [hreplicate]

theorem Sifted.touch (h : Sifted s t) (left : Among others s) (right : Among others t) (touch : Touch)
    (heeded : ∀ event params, touch = .emit event params → s.tracker.heeds ⟨event, params⟩ = true)
    (session : u.session = s.session.touch touch) (tracker : u.tracker = s.tracker)
    (session' : v.session = t.session.touch touch) (tracker' : v.tracker = t.tracker) : Sifted u v where
  toParallel := h.toParallel.touch touch session tracker session' tracker'
  inbox := by
    cases touch with
    | emit event params =>
      have hreplicate (n : Nat) : (List.replicate n (⟨event, params⟩ : Event)).filter s.tracker.heeds =
          List.replicate n ⟨event, params⟩ := by
        rw [List.filter_replicate, if_pos (heeded event params rfl)]
      rw [left.inbox_dispatch (t := u) ⟨event, params⟩ (by rw [session]; rfl) tracker,
        right.inbox_dispatch (t := v) ⟨event, params⟩ (by rw [session']; rfl) tracker', tracker, ← h.attached_iff,
        h.inbox, List.filter_append]
      split
      · rw [hreplicate]
      · rfl
    | _ =>
      have hrouter : u.session.router = s.session.router := (congrArg StandIn.router session).trans rfl
      have hrouter' : v.session.router = t.session.router := (congrArg StandIn.router session').trans rfl
      rw [inbox_of_router hrouter (by rw [tracker]), inbox_of_router hrouter' (by rw [tracker']), tracker, h.inbox]

/-- Any other step keeps two trackers in step. -/
theorem Sifted.make (h : Sifted s t) {m : Move K} (notPump : m ≠ .pump) : Sifted (s.make m) (t.make m) := by
  cases m with
  | start options => exact (h.beginStart options).advance
  | stop => exact h.of_keeps h.toParallel.beginStop.2 (keeps_beginStop s) (keeps_beginStop t)
  | poll => exact h.advance
  | giveUp => exact h.abandon
  | giveUpPolled => exact (h.of_keeps h.toParallel.polled (keeps_polled s) (keeps_polled t)).abandon
  | drop => exact h.of_keeps h.toParallel.drop (keeps_drop s) (keeps_drop t)
  | pump => exact absurd rfl notPump
  | fetch i => exact h.of_keeps (h.toParallel.fetchAt i) (keeps_fetchAt s i) (keeps_fetchAt t i)

theorem Parallel.returns? (h : Parallel s t) (m : Move K) : s.returns? m = t.returns? m := by
  cases m with
  | start options =>
    obtain ⟨hresult, hbegun⟩ := h.beginStart options
    simp only [Scene.returns?, hresult, hbegun.advance.1]
  | stop => simp only [Scene.returns?, h.beginStop.1]
  | poll => exact h.advance.1
  | _ => rfl

/-- Nothing comes of a deed: it delivers an event that is not heeded, or it handles one. -/
def isIdle (s : Scene StandIn K HeldCall) : Deed K → Bool
  | .move .pump => s.next?.any fun e => !s.tracker.heeds e
  | .touch (.emit event params) => !s.tracker.heeds ⟨event, params⟩
  | _ => false

theorem Parallel.heeds_eq (h : Parallel s t) : s.tracker.heeds = t.tracker.heeds := by
  have hlistening := h.listening_iff
  funext e
  rw [Tracker.heeds, Tracker.heeds]
  cases hs : s.tracker.listening? <;> cases ht : t.tracker.listening? <;> rw [hs, ht] at hlistening <;>
    simp_all

/-- A deed of which something comes is not idle without the other events either. -/
theorem Sifted.isIdle_eq_false (h : Sifted s t) (right : Among others t) {d : Deed K} (kept : s.isIdle d = false) :
    t.isIdle d = false := by
  cases d with
  | touch touch =>
    cases touch with
    | emit event params =>
      rw [isIdle] at kept ⊢
      rwa [← h.heeds_eq]
    | _ => rfl
  | move m =>
    cases m with
    | pump =>
      by_contra hidle
      obtain ⟨e, hnext, hunheeded⟩ := (Option.any_eq_true _ _).mp (by simpa [isIdle] using hidle)
      obtain ⟨options, a, -, -, hphase, -⟩ := pump_of_next? hnext
      rw [right.next?_eq hphase, h.inbox] at hnext
      have hheeded := (List.mem_filter.mp (List.mem_of_mem_head? hnext)).2
      rw [h.heeds_eq] at hheeded
      simp [hheeded] at hunheeded
    | _ => rfl

end Scene

namespace Chronicle

open Scene

variable {kind : ResourceKind}

/-- A run without the events that nothing comes of. -/
def sift {K : Type} [Strategy K] : List (Deed K) → List (Deed K)
  | [] => []
  | d :: h => if (run h).scene.isIdle d then sift h else d :: sift h

theorem among_run (h : List (Deed kind.Options)) : Among [] (run h).scene := by
  induction h with
  | nil => exact ⟨⟨rfl, nofun⟩, nofun, .refl _, nofun, nofun⟩
  | cons d h ih =>
    cases d with
    | move m =>
      obtain ⟨_, hmoves, -⟩ := moves_make ih nofun (Page.enableCommands_ne_nil kind) m
      exact hmoves.among
    | touch t => exact ih.touch t rfl rfl

/-- What is left of a run is in step with it, and has returned the same. -/
theorem sifted_run (h : List (Deed kind.Options)) :
    Sifted (run h).scene (run (sift h)).scene ∧ (run (sift h)).returned = (run h).returned := by
  induction h with
  | nil => exact ⟨⟨.refl _, rfl⟩, rfl⟩
  | cons d h ih =>
    obtain ⟨hsifted, hreturned⟩ := ih
    have hleft := among_run h
    have hright := among_run (sift h)
    by_cases hidle : (run h).scene.isIdle d = true
    · have hsift : sift (d :: h) = sift h := by rw [sift, if_pos hidle]
      rw [hsift]
      cases d with
      | move m =>
        cases m with
        | pump =>
          obtain ⟨e, hnext, hunheeded⟩ := Option.any_eq_true _ _ |>.mp hidle
          refine ⟨hsifted.pump_of_unheeded hleft hnext (by simpa using hunheeded), ?_⟩
          exact hreturned.trans (List.append_nil _).symm
        | _ => cases hidle
      | touch t =>
        cases t with
        | emit event params =>
          have hunheeded : (run h).scene.tracker.heeds ⟨event, params⟩ = false := by simpa [isIdle] using hidle
          exact ⟨hsifted.emit_of_unheeded hleft hunheeded rfl rfl, hreturned⟩
        | _ => cases hidle
    · have hsift : sift (d :: h) = d :: sift h := by rw [sift, if_neg hidle]
      rw [hsift]
      cases d with
      | move m =>
        have hreturns : (run (sift h)).scene.returns? m = (run h).scene.returns? m :=
          (hsifted.toParallel.returns? m).symm
        have hboth : (run (.move m :: sift h)).returned = (run (.move m :: h)).returned :=
          congrArg₂ (· ++ ·) hreturned (congrArg Option.toList hreturns)
        refine ⟨?_, hboth⟩
        by_cases hpump : m = .pump
        · subst hpump
          refine hsifted.pump hleft hright fun e he => ?_
          simpa [isIdle, he] using hidle
        · exact hsifted.make hpump
      | touch t =>
        refine ⟨hsifted.touch hleft hright t ?_ rfl rfl rfl rfl, hreturned⟩
        rintro event params rfl
        simpa [isIdle] using hidle

example :
    let listens : List (Deed ScriptOptions) := [.move .poll, .move (.start {})]
    let injected : Deed ScriptOptions :=
      .touch (.emit Event.scriptParsed (.object [("scriptId", .text "1"), ("url", .text "probar:hook")]))
    sift (.move .pump :: injected :: listens) = listens := by
  rfl

/-- Nothing that is left is idle. -/
theorem sift_sift (h : List (Deed kind.Options)) : sift (sift h) = sift h := by
  induction h with
  | nil => rfl
  | cons d h ih =>
    by_cases hidle : (run h).scene.isIdle d = true
    · rw [sift, if_pos hidle]
      exact ih
    · have hleft := (sifted_run h).1.isIdle_eq_false (among_run (sift h)) (by simpa using hidle)
      rw [sift, if_neg hidle, sift, if_neg (by simp [hleft]), ih]

end Chronicle

end PageCoverage
