import PageCoverage.Proofs.Tracking.Continuing

namespace PageCoverage

def Attachment.listeners (a : Attachment) : List Listener :=
  a.subscriptions.map fun sub => ⟨sub.event, sub.id, a.sink⟩

theorem Attachment.mem_listeners {a : Attachment} {l : Listener} :
    l ∈ a.listeners ↔ l.sink = a.sink ∧ ⟨l.event, l.id⟩ ∈ a.subscriptions := by
  rw [listeners, List.mem_map]
  constructor
  · rintro ⟨sub, hsub, rfl⟩
    exact ⟨rfl, hsub⟩
  · rintro ⟨hsink, hsub⟩
    refine ⟨_, hsub, ?_⟩
    rw [← hsink]

def Tracker.listeners {K κ : Type} (t : Tracker K κ) : List Listener :=
  t.attachment?.elim [] Attachment.listeners

theorem Tracker.listeners_of_attached {K κ : Type} {t : Tracker K κ} {a : Attachment}
    (ha : t.attachment? = some a) : t.listeners = a.listeners := by
  rw [listeners, ha]
  rfl

theorem Tracker.listeners_of_detached {K κ : Type} {t : Tracker K κ} (h : t.attachment? = none) :
    t.listeners = [] := by
  rw [listeners, h]
  rfl

namespace Router

/-- Every sink has taken the next two ids. -/
structure Numbered (r : Router) : Prop where
  nextId : r.nextId = UInt64.ofNat (2 * r.sinks.length)
  ids : ∀ l ∈ r.listeners, l.id = UInt64.ofNat (2 * l.sink) ∨ l.id = UInt64.ofNat (2 * l.sink + 1)

/-- No listener has one of the next two ids. -/
def Fresh (r : Router) (ls : List Listener) : Prop := ∀ l ∈ ls, l.id ≠ r.nextId ∧ l.id ≠ r.nextId + 1

theorem sinks_foldl_release (r : Router) (subs : List Subscription) :
    (subs.foldl release r).sinks = r.sinks ∧ (subs.foldl release r).nextId = r.nextId := by
  induction subs generalizing r with
  | nil => exact ⟨rfl, rfl⟩
  | cons sub subs ih => exact ih (r.release sub)

theorem isOpen_of_sink {r t : Router} {k : SinkId} (h : t.sinks[k]? = r.sinks[k]?) : t.isOpen k = r.isOpen k := by
  rw [isOpen, isOpen, h]

theorem lt_of_isOpen {r : Router} {k : SinkId} (h : r.isOpen k = true) : k < r.sinks.length := by
  by_contra hle
  rw [isOpen, List.getElem?_eq_none (Nat.le_of_not_lt hle)] at h
  cases h

theorem Numbered.next {r t : Router} (h : r.Numbered) (nextId : t.nextId = r.nextId + 1 + 1)
    (sinks : t.sinks.length = r.sinks.length + 1)
    (listeners : ∀ l ∈ t.listeners,
      l ∈ r.listeners ∨ l.sink = r.sinks.length ∧ (l.id = r.nextId ∨ l.id = r.nextId + 1)) : t.Numbered where
  nextId := by
    rw [nextId, sinks, h.nextId, Nat.mul_add, UInt64.ofNat_add, UInt64.add_assoc]
    rfl
  ids l hl := by
    obtain hold | ⟨hat, hid⟩ := listeners l hl
    · exact h.ids l hold
    · rwa [hat, UInt64.ofNat_add, ← h.nextId]

/-- As long as the ids have not come round, those of the next sink are not in use. -/
theorem Numbered.fresh {r : Router} (h : r.Numbered) (bound : r.sinks.length < UInt64.size / 2) {ls : List Listener}
    (among : ∀ l ∈ ls, l ∈ r.listeners) (below : ∀ l ∈ ls, l.sink < r.sinks.length) : r.Fresh ls := by
  have hne {m n : Nat} (hmn : m < n) (hn : n < UInt64.size) : UInt64.ofNat m ≠ UInt64.ofNat n :=
    mt (ofNat_eq_iff (Nat.lt_trans hmn hn) hn).mp (Nat.ne_of_lt hmn)
  have hnext : r.nextId + 1 = UInt64.ofNat (2 * r.sinks.length + 1) := by
    rw [h.nextId, UInt64.ofNat_add]
    rfl
  have hhalf : 2 * r.sinks.length + 1 < UInt64.size := by
    rw [UInt64.size] at bound ⊢
    omega
  intro l hl
  have hlt : Nat.succ l.sink ≤ r.sinks.length := below l hl
  rw [hnext, h.nextId]
  rcases h.ids l (among l hl) with hid | hid
  · rw [hid]
    exact ⟨hne (by omega) (by omega), hne (by omega) (by omega)⟩
  · rw [hid]
    exact ⟨hne (by omega) (by omega), hne (by omega) (by omega)⟩

end Router

namespace Scene

variable {K : Type} [Strategy K] {s t u : Scene StandIn K HeldCall} {others : List Listener} {a : Attachment}

/-- A tracker that listens for itself alone: next to its own listeners there are exactly the others, and all
of them feed open sinks. -/
structure Among (others : List Listener) (s : Scene StandIn K HeldCall) : Prop where
  numbered : s.session.router.Numbered
  isOpen : ∀ l ∈ s.session.router.listeners, s.session.router.isOpen l.sink = true
  listeners : s.session.router.listeners.Perm (s.tracker.listeners ++ others)
  attached : ∀ a, s.tracker.attachment? = some a →
    a.reading = true ∧ a.subscriptions.map Subscription.event = Strategy.events K
  apart : ∀ a, s.tracker.attachment? = some a →
    ∀ l ∈ others, l.sink ≠ a.sink ∧ ⟨l.event, l.id⟩ ∉ a.subscriptions

/-- What a tracker makes of its session among others: it opens so many sinks, and changes no sink but its own. -/
structure Moves (others : List Listener) (s : Scene StandIn K HeldCall) (opened : Nat)
    (t : Scene StandIn K HeldCall) : Prop where
  among : Among others t
  sinks : t.session.router.sinks.length = s.session.router.sinks.length + opened
  own : ∀ a, t.tracker.attachment? = some a → a.sink < s.session.router.sinks.length →
    ∃ b, s.tracker.attachment? = some b ∧ b.sink = a.sink
  spared : ∀ k < s.session.router.sinks.length, (∀ a, s.tracker.attachment? = some a → a.sink ≠ k) →
    t.session.router.sinks[k]? = s.session.router.sinks[k]?

theorem Among.mem_others (h : Among others s) {l : Listener} (hl : l ∈ others) :
    l ∈ s.session.router.listeners :=
  h.listeners.mem_iff.mpr (List.mem_append_right _ hl)

theorem Among.mem_own (h : Among others s) (ha : s.tracker.attachment? = some a) {l : Listener}
    (hl : l ∈ a.listeners) : l ∈ s.session.router.listeners := by
  refine h.listeners.mem_iff.mpr (List.mem_append_left _ ?_)
  rw [Tracker.listeners_of_attached ha]
  exact hl

/-- An attached tracker's sink is fed with the events that it subscribed to. -/
theorem Among.feeders (h : Among others s) (ha : s.tracker.attachment? = some a) :
    (s.session.router.feeders a.sink).Perm a.listeners := by
  have hall := h.listeners.filter (·.sink == a.sink)
  rw [List.filter_append, Tracker.listeners_of_attached ha] at hall
  have hown : a.listeners.filter (·.sink == a.sink) = a.listeners := by
    rw [List.filter_eq_self]
    intro l hl
    rw [beq_iff_eq]
    exact (Attachment.mem_listeners.mp hl).1
  have hothers : others.filter (·.sink == a.sink) = [] := by
    rw [List.filter_eq_nil_iff]
    intro l hl
    rw [beq_iff_eq]
    exact (h.apart a ha l hl).1
  rwa [hown, hothers, List.append_nil] at hall

theorem Among.event_feeders (h : Among others s) (ha : s.tracker.attachment? = some a) :
    ((s.session.router.feeders a.sink).map Listener.event).Perm (Strategy.events K) := by
  have hevents : a.listeners.map Listener.event = Strategy.events K := by
    rw [Attachment.listeners, List.map_map]
    exact (h.attached a ha).2
  rw [← hevents]
  exact (h.feeders ha).map _

theorem Among.exists_listener (h : Among others s) (ha : s.tracker.attachment? = some a) :
    ∃ l ∈ a.listeners, l.sink = a.sink := by
  obtain ⟨-, hevents⟩ := h.attached a ha
  cases hsubs : a.subscriptions with
  | nil =>
    rw [hsubs] at hevents
    cases hevents
  | cons sub subs =>
    have hmem : sub ∈ a.subscriptions := hsubs ▸ List.mem_cons_self
    exact ⟨⟨sub.event, sub.id, a.sink⟩, Attachment.mem_listeners.mpr ⟨rfl, hmem⟩, rfl⟩

theorem Among.isOpen_own (h : Among others s) (ha : s.tracker.attachment? = some a) :
    s.session.router.isOpen a.sink = true := by
  obtain ⟨l, hl, hsink⟩ := h.exists_listener ha
  rw [← hsink]
  exact h.isOpen l (h.mem_own ha hl)

theorem Among.feeders_ne_nil (h : Among others s) (ha : s.tracker.attachment? = some a) :
    s.session.router.feeders a.sink ≠ [] := by
  obtain ⟨l, hl, -⟩ := h.exists_listener ha
  exact List.ne_nil_of_mem ((h.feeders ha).mem_iff.mpr hl)

theorem Among.lt_own (h : Among others s) (ha : s.tracker.attachment? = some a) :
    a.sink < s.session.router.sinks.length :=
  Router.lt_of_isOpen (h.isOpen_own ha)

theorem Moves.refl (h : Among others s) : Moves others s 0 s where
  among := h
  sinks := rfl
  own a ha _ := ⟨a, ha, rfl⟩
  spared _ _ _ := rfl

theorem Moves.trans {m n : Nat} (h : Moves others s m t) (h' : Moves others t n u) :
    Moves others s (m + n) u where
  among := h'.among
  sinks := by rw [h'.sinks, h.sinks, Nat.add_assoc]
  own a ha hlt := by
    obtain ⟨b, hb, hsink⟩ := h'.own a ha (h.sinks ▸ Nat.lt_add_right m hlt)
    rw [← hsink] at hlt ⊢
    exact h.own b hb hlt
  spared k hk hne := by
    rw [h'.spared k (h.sinks ▸ Nat.lt_add_right m hk) ?_, h.spared k hk hne]
    rintro a ha rfl
    obtain ⟨b, hb, hsink⟩ := h.own a ha hk
    exact hne b hb hsink

theorem moves_of_router (h : Among others s) (router : t.session.router = s.session.router)
    (attachment : t.tracker.attachment? = s.tracker.attachment?) : Moves others s 0 t where
  among := by
    refine ⟨?_, ?_, ?_, ?_, ?_⟩
    · rw [router]
      exact h.numbered
    · rw [router]
      exact h.isOpen
    · rw [router, Tracker.listeners, attachment]
      exact h.listeners
    · rw [attachment]
      exact h.attached
    · rw [attachment]
      exact h.apart
  sinks := by rw [router, Nat.add_zero]
  own a ha _ := ⟨a, attachment ▸ ha, rfl⟩
  spared _ _ _ := by rw [router]

omit [Strategy K] in
theorem router_detach (s : Scene StandIn K HeldCall) (a : Attachment) :
    (s.detach a).session.router =
      { s.session.router with
        listeners := s.session.router.listeners.filter fun l => ⟨l.event, l.id⟩ ∉ a.subscriptions
        sinks := s.session.router.sinks.modify a.sink fun _ => ⟨[], false⟩ } := by
  have hlisteners := Session.listeners_foldl_release a.subscriptions s.session
  rw [StandIn.foldl_release] at hlisteners
  obtain ⟨hsinks, hnext⟩ := s.session.router.sinks_foldl_release a.subscriptions
  rw [session_detach, Router.closeSink, hsinks]
  refine congrArg₂ (fun n ls => Router.mk n ls _) hnext ?_
  exact hlisteners

/-- With its attachment a tracker gives up its listeners and its sink, and nothing else. -/
theorem moves_of_detach (h : Among others s) (ha : s.tracker.attachment? = some a)
    (session : t.session = (s.detach a).session) (detached : t.tracker.attachment? = none) :
    Moves others s 0 t := by
  have hrouter := router_detach s a
  rw [← session] at hrouter
  -- The filter of the releases takes out its own listeners and spares the others.
  have hlisteners : t.session.router.listeners.Perm others := by
    have hall := h.listeners.filter fun l => decide (⟨l.event, l.id⟩ ∉ a.subscriptions)
    rw [List.filter_append, Tracker.listeners_of_attached ha] at hall
    have hown : (a.listeners.filter fun l => decide (⟨l.event, l.id⟩ ∉ a.subscriptions)) = [] := by
      rw [List.filter_eq_nil_iff]
      intro l hl
      simp [(Attachment.mem_listeners.mp hl).2]
    have hothers : (others.filter fun l => decide (⟨l.event, l.id⟩ ∉ a.subscriptions)) = others := by
      rw [List.filter_eq_self]
      intro l hl
      simp [(h.apart a ha l hl).2]
    rw [hown, hothers, List.nil_append] at hall
    rw [hrouter]
    exact hall
  have hsinks (k : SinkId) (hne : a.sink ≠ k) : t.session.router.sinks[k]? = s.session.router.sinks[k]? := by
    rw [hrouter]
    exact List.getElem?_modify_ne _ _ hne
  have hlength : t.session.router.sinks.length = s.session.router.sinks.length := by
    rw [hrouter]
    exact List.length_modify _ _ _
  refine ⟨⟨⟨?_, ?_⟩, ?_, ?_, ?_, ?_⟩, hlength, ?_, fun k _ hne => hsinks k (hne a ha)⟩
  · rw [hlength, ← h.numbered.nextId, hrouter]
  · intro l hl
    exact h.numbered.ids l (h.mem_others (hlisteners.mem_iff.mp hl))
  · intro l hl
    have hl := hlisteners.mem_iff.mp hl
    rw [Router.isOpen_of_sink (hsinks l.sink (Ne.symm (h.apart a ha l hl).1))]
    exact h.isOpen l (h.mem_others hl)
  · rw [Tracker.listeners_of_detached detached]
    exact hlisteners
  · simp [detached]
  · simp [detached]
  · simp [detached]

theorem moves_abandon (h : Among others s) : Moves others s 0 s.abandon := by
  cases hphase : s.tracker.phase with
  | starting options a batch =>
    have ha : s.tracker.attachment? = some a := by rw [Tracker.attachment?, hphase]
    refine moves_of_detach h ha ?_ ?_
    · simp only [abandon, hphase, StandIn.cancelAll_eq]
      rfl
    · simp only [abandon, hphase]
      rfl
  | stopping options batch =>
    refine moves_of_router h ?_ ?_
    · simp only [abandon, hphase, StandIn.cancelAll_eq]
      rfl
    · simp only [abandon, hphase, Tracker.attachment?]
      rfl
  | idle =>
    rw [abandon_of_idle hphase]
    exact .refl h
  | enabled options a =>
    rw [abandon_of_enabled hphase]
    exact .refl h

/-- A new attachment listens on a sink of its own, under ids that nobody else has. -/
theorem moves_attach (h : Among others s) (detached : s.tracker.attachment? = none)
    (fresh : s.session.router.Fresh others) (session : t.session = s.attach.2.session)
    (attached : s.attach.1 = .ok a ∧ t.tracker.attachment? = some a) : Moves others s 1 t := by
  have hnew : a = ⟨s.session.router.sinks.length,
      [⟨Strategy.registrationEvent K, s.session.router.nextId⟩,
        ⟨Event.executionContextsCleared, s.session.router.nextId + 1⟩], true⟩ :=
    (Except.ok.inj attached.1).symm
  have hlisteners : t.session.router.listeners = s.session.router.listeners ++ a.listeners := by
    rw [session, hnew]
    exact List.append_assoc _ _ _
  have hsinks : t.session.router.sinks = s.session.router.sinks ++ [({} : Sink)] := by
    rw [session]
    rfl
  have hnext : t.session.router.nextId = s.session.router.nextId + 1 + 1 := by
    rw [session]
    rfl
  have hsink : a.sink = s.session.router.sinks.length := by rw [hnew]
  have hperm : s.session.router.listeners.Perm others := by
    have := h.listeners
    rwa [Tracker.listeners_of_detached detached] at this
  have hkept (k : SinkId) (hk : k < s.session.router.sinks.length) :
      t.session.router.sinks[k]? = s.session.router.sinks[k]? := by
    rw [hsinks, List.getElem?_append_left hk]
  have hbelow (l : Listener) (hl : l ∈ others) : l.sink < s.session.router.sinks.length :=
    Router.lt_of_isOpen (h.isOpen l (h.mem_others hl))
  have hmine (l : Listener) (hl : l ∈ a.listeners) : l.sink = s.session.router.sinks.length ∧
      (l.id = s.session.router.nextId ∨ l.id = s.session.router.nextId + 1) := by
    obtain ⟨hat, hsub⟩ := Attachment.mem_listeners.mp hl
    rw [hnew] at hsub
    simp only [List.mem_cons, List.not_mem_nil, or_false, Subscription.mk.injEq] at hsub
    exact ⟨hat.trans hsink, hsub.imp And.right And.right⟩
  have hnumbered : t.session.router.Numbered := by
    refine h.numbered.next hnext (by rw [hsinks, List.length_append, List.length_singleton]) fun l hl => ?_
    rw [hlisteners] at hl
    exact (List.mem_append.mp hl).imp_right (hmine l)
  refine ⟨⟨hnumbered, ?_, ?_, ?_, ?_⟩, ?_, ?_, fun k hk _ => hkept k hk⟩
  · intro l hl
    rw [hlisteners] at hl
    rcases List.mem_append.mp hl with hold | hown
    · have hopen := h.isOpen l hold
      rw [Router.isOpen_of_sink (hkept _ (Router.lt_of_isOpen hopen))]
      exact hopen
    · rw [(hmine l hown).1, Router.isOpen, hsinks, List.getElem?_concat_length]
      rfl
  · rw [hlisteners, Tracker.listeners_of_attached attached.2]
    exact (List.perm_append_comm).trans (hperm.append_left _)
  · intro b hb
    rw [attached.2] at hb
    cases hb
    rw [hnew]
    exact ⟨rfl, rfl⟩
  · intro b hb l hl
    rw [attached.2] at hb
    cases hb
    obtain ⟨hfirst, hsecond⟩ := fresh l hl
    refine ⟨?_, ?_⟩
    · rw [hsink]
      exact Nat.ne_of_lt (hbelow l hl)
    · rw [hnew]
      simp [hfirst, hsecond]
  · rw [hsinks, List.length_append, List.length_singleton]
  · intro b hb hlt
    rw [attached.2] at hb
    cases hb
    rw [hsink] at hlt
    exact absurd hlt (Nat.lt_irrefl _)

/-- A start that is not refused opens one sink. -/
theorem moves_beginStart (h : Among others s) (fresh : s.session.router.Fresh others) (options : K) :
    Moves others s (if s.tracker.isEnabled then 0 else 1) (s.beginStart options).2 := by
  by_cases henabled : s.tracker.isEnabled = true
  · rw [beginStart, if_pos henabled, if_pos henabled]
    exact .refl h
  · have hidle := tracker_abandon (by simpa using henabled)
    have habandon := moves_abandon h
    have hnext : s.abandon.session.router.nextId = s.session.router.nextId := by
      rw [habandon.among.numbered.nextId, habandon.sinks, h.numbered.nextId]
      rfl
    let emptied := s.abandon.withCache s.abandon.tracker.cache.beginSession
    have hemptied : Moves others s.abandon 0 emptied := moves_of_router habandon.among rfl rfl
    have hdetached : emptied.tracker.attachment? = none := by
      show s.abandon.tracker.attachment? = none
      rw [hidle]
      rfl
    have hfresh : emptied.session.router.Fresh others := by
      intro l hl
      show l.id ≠ s.abandon.session.router.nextId ∧ l.id ≠ s.abandon.session.router.nextId + 1
      rw [hnext]
      exact fresh l hl
    have hattach : Moves others emptied 1 (s.beginStart options).2 := by
      rw [beginStart, if_neg henabled]
      exact moves_attach hemptied.among hdetached hfresh rfl ⟨rfl, rfl⟩
    rw [if_neg henabled]
    exact (habandon.trans hemptied).trans hattach

theorem moves_beginStop (h : Among others s) : Moves others s 0 s.beginStop.2 := by
  by_cases henabled : s.tracker.isEnabled = true
  · obtain ⟨options, a, hphase⟩ := Tracker.isEnabled_iff.mp henabled
    have ha : s.tracker.attachment? = some a := by rw [Tracker.attachment?, hphase]
    refine moves_of_detach h ha ?_ ?_
    · simp only [beginStop, hphase]
      rfl
    · simp only [beginStop, hphase]
      rfl
  · rw [beginStop_of_not_enabled (by simpa using henabled)]
    exact moves_abandon h

theorem moves_polled (h : Among others s) : Moves others s 0 s.polled := by
  refine moves_of_router h (router_polled s) ?_
  cases hphase : s.tracker.phase with
  | starting options a batch =>
    rw [Tracker.attachment?, polled_of_starting hphase, Tracker.attachment?, hphase]
  | stopping options batch =>
    rw [Tracker.attachment?, polled_of_stopping hphase, Tracker.attachment?, hphase]
  | _ => simp only [polled, hphase]

theorem moves_advance (h : Among others s) : Moves others s 0 s.advance.2 := by
  have hpolled := moves_polled h
  cases hphase : s.tracker.phase with
  | idle =>
    rw [advance_of_idle hphase]
    exact .refl h
  | enabled options a =>
    rw [advance_of_enabled hphase]
    exact .refl h
  | starting options a batch =>
    have hstarting := polled_of_starting hphase
    rw [advance_starting hphase]
    cases Request.firstFailure? s.fates with
    | some e => exact hpolled.trans (moves_abandon hpolled.among)
    | none =>
      cases Request.answers? s.fates with
      | none => exact hpolled
      | some answers =>
        refine hpolled.trans (moves_of_router (t := s.polled.finishStart options a) hpolled.among rfl ?_)
        rw [hstarting]
        rfl
  | stopping options batch =>
    have hstopping := polled_of_stopping hphase
    rw [advance_stopping hphase]
    cases Request.firstFailure? s.fates with
    | some e =>
      have habandon := moves_abandon hpolled.among
      refine (hpolled.trans habandon).trans
        (moves_of_router (t := s.polled.abandon.finishStop.2) habandon.among rfl ?_)
      rw [tracker_abandon (by rw [hstopping]; rfl)]
      rfl
    | none =>
      cases Request.answers? s.fates with
      | none => exact hpolled
      | some answers =>
        refine hpolled.trans (moves_of_router (t := s.polled.finishStop.2) hpolled.among rfl ?_)
        rw [hstopping]
        rfl

theorem moves_drop (h : Among others s) : Moves others s 0 s.drop := by
  have habandon := moves_abandon h
  rw [drop]
  split
  next a hphase =>
    have ha : s.abandon.tracker.attachment? = some a := by rw [Tracker.attachment?, hphase]
    exact habandon.trans (moves_of_detach (t := (s.abandon.detach a).enter .idle) habandon.among ha rfl rfl)
  · exact habandon

/-- The sink of an attached tracker does not end, so handling an event takes it out and changes nothing else. -/
theorem moves_pump (h : Among others s) : Moves others s 0 s.pump := by
  cases hnext : s.next? with
  | none =>
    obtain hsame | ⟨options, a, hphase, -, hunfed, -⟩ := pump_of_next?_eq_none hnext
    · rw [hsame]
      exact .refl h
    · have ha : s.tracker.attachment? = some a := by rw [Tracker.attachment?, hphase]
      exact absurd hunfed (h.feeders_ne_nil ha)
  | some e =>
    obtain ⟨options, a, rest, taken, hphase, hqueue, htaken, hsession, hpump⟩ := pump_of_next? hnext
    have ha : s.tracker.attachment? = some a := by rw [Tracker.attachment?, hphase]
    obtain ⟨hframe, hsame⟩ := taken.onEvent_frame options e
    rw [← hpump, hsession] at hframe
    rw [← hpump, htaken] at hsame
    have hrouter : s.pump.session.router = (s.session.router.take a.sink).2 := by
      rw [hframe]
      rfl
    obtain ⟨hnextId, hlisteners, hlength⟩ := s.session.router.take_frame a.sink
    rw [← hrouter] at hnextId hlisteners hlength
    have hattachment : s.pump.tracker.attachment? = s.tracker.attachment? := by
      rw [Tracker.attachment?, Tracker.attachment?, hsame]
    refine ⟨⟨⟨?_, ?_⟩, ?_, ?_, ?_, ?_⟩, hlength, ?_, fun k _ hne => ?_⟩
    · rw [hnextId, hlength]
      exact h.numbered.nextId
    · rw [hlisteners]
      exact h.numbered.ids
    · intro l hl
      rw [hrouter, Router.isOpen_take]
      exact h.isOpen l (hlisteners ▸ hl)
    · rw [hlisteners, Tracker.listeners, hattachment]
      exact h.listeners
    · rw [hattachment]
      exact h.attached
    · rw [hattachment]
      exact h.apart
    · intro b hb _
      exact ⟨b, hattachment ▸ hb, rfl⟩
    · rw [hrouter]
      exact Router.sinks_take (hne a ha)

theorem moves_pumpAll (h : Among others s) : Moves others s 0 s.pumpAll := by
  rw [pumpAll]
  generalize s.waiting + 1 = n
  induction n with
  | zero => exact .refl h
  | succ n ih => exact ih.trans (moves_pump ih.among)

theorem moves_advanceFetch (h : Among others s) (f : Fetch K HeldCall) :
    Moves others s 0 (s.advanceFetch f) := by
  obtain ⟨hsession, hphase⟩ := advanceFetch_frame s f
  refine moves_of_router h ?_ ?_
  · rw [hsession]
    exact Request.router_poll s.session f.request
  · rw [Tracker.attachment?, Tracker.attachment?, hphase]

theorem moves_fetchAt (h : Among others s) (i : Nat) : Moves others s 0 (s.fetchAt i) := by
  rw [fetchAt]
  split
  · exact .refl h
  · have herased := moves_of_router (t := { s with
      tracker := { s.tracker with fetches := s.tracker.fetches.eraseIdx i } }) h rfl rfl
    exact herased.trans (moves_advanceFetch herased.among _)

theorem moves_fetchAll (h : Among others s) : Moves others s 0 s.fetchAll := by
  obtain ⟨hrouter, hphase⟩ := fetchAll_frame s
  refine moves_of_router h hrouter ?_
  rw [Tracker.attachment?, Tracker.attachment?, hphase]

/-- An event finds all sinks open, so nobody's listener goes. -/
theorem Among.dispatch (h : Among others s) (e : Event)
    (session : t.session.router = (s.session.router.dispatch e).2)
    (attachment : t.tracker.attachment? = s.tracker.attachment?) : Among others t := by
  have hlisteners : t.session.router.listeners = s.session.router.listeners := by
    rw [session, Router.dispatch]
    refine List.filter_eq_self.mpr fun l hl => ?_
    rw [h.isOpen l hl, Bool.or_true]
  refine ⟨⟨?_, ?_⟩, ?_, ?_, ?_, ?_⟩
  · rw [session, Router.dispatch, Router.length_foldl_push]
    exact h.numbered.nextId
  · rw [hlisteners]
    exact h.numbered.ids
  · intro l hl
    rw [hlisteners] at hl
    rw [session, Router.isOpen_dispatch]
    exact h.isOpen l hl
  · rw [hlisteners, Tracker.listeners, attachment]
    exact h.listeners
  · rw [attachment]
    exact h.attached
  · rw [attachment]
    exact h.apart

end Scene

end PageCoverage
