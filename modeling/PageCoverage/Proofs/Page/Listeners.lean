import PageCoverage.Proofs.Page.Sides
import PageCoverage.Proofs.Tracking.Sharing

namespace PageCoverage

/-- Whether a tracker is enabled, or has a start under way, which has subscribed. -/
def Tracker.isListening {K κ : Type} (t : Tracker K κ) : Bool :=
  match t.phase with
  | .starting _ _ _ | .enabled _ _ => true
  | _ => false

/-- A step of a tracker. A start is polled as soon as it has begun; a start or a stop may be given up while it
waits for answers, and behind them for the cache. -/
inductive Move (K : Type) where
  | start (options : K)
  | stop
  | poll
  | giveUp
  | giveUpPolled
  | drop
  | pump
  | fetch (i : Nat)

namespace Scene

variable {K : Type} [Strategy K]

def make {σ κ : Type} [Session σ κ] (s : Scene σ K κ) : Move K → Scene σ K κ
  | .start options => (s.beginStart options).2.advance.2
  | .stop => s.beginStop.2
  | .poll => s.advance.2
  | .giveUp => s.abandon
  | .giveUpPolled => s.polled.abandon
  | .drop => s.drop
  | .pump => s.pump
  | .fetch i => s.fetchAt i

variable {s t : Scene StandIn K HeldCall} {others : List Listener}

theorem continues_make (s : Scene StandIn K HeldCall) (m : Move K) : s.session.Continues (s.make m).session := by
  cases m with
  | start options => exact (continues_beginStart s options).trans (continues_advance _)
  | stop => exact continues_beginStop s
  | poll => exact continues_advance s
  | giveUp => exact continues_abandon s
  | giveUpPolled => exact (continues_polled s).trans (continues_abandon _)
  | drop => exact continues_drop s
  | pump => exact continues_pump s
  | fetch i => exact continues_fetchAt s i

/-- The first poll of a start sends a command. -/
theorem history_advance {options : K} {a : Attachment} {c : Command} {rest : List (Request HeldCall)}
    (starting : s.tracker.phase = .starting options a (.unsent c :: rest)) :
    s.session.history.length + 1 ≤ s.advance.2.session.history.length := by
  have hpolled : s.session.history.length + 1 ≤ s.polled.session.history.length := by
    simp only [polled, starting]
    exact StandIn.history_pollAll_unsent s.session c rest
  rw [advance_starting starting]
  cases Request.firstFailure? s.fates with
  | some e => exact Nat.le_trans hpolled (continues_abandon s.polled).history
  | none => cases Request.answers? s.fates <;> exact hpolled

/-- A step opens at most as many sinks as it sends commands. -/
theorem moves_make (h : Among others s) (fresh : s.session.router.Fresh others)
    (commands : ∀ options : K, Strategy.enableCommands options ≠ []) (m : Move K) :
    ∃ opened, Moves others s opened (s.make m) ∧
      s.session.history.length + opened ≤ (s.make m).session.history.length := by
  have hcontinues := (continues_make s m).history
  cases m with
  | start options =>
    have hbegun := moves_beginStart h fresh options
    have hmoves := hbegun.trans (moves_advance hbegun.among)
    refine ⟨_, hmoves, ?_⟩
    by_cases henabled : s.tracker.isEnabled = true
    · rw [if_pos henabled]
      exact hcontinues
    · rw [if_neg henabled]
      obtain ⟨c, cs, hcommands⟩ := List.exists_cons_of_ne_nil (commands options)
      have hstarting : ∃ a, (s.beginStart options).2.tracker.phase =
          .starting options a (.unsent c :: cs.map .unsent) := by
        rw [beginStart, if_neg henabled, hcommands]
        exact ⟨_, rfl⟩
      obtain ⟨a, hstarting⟩ := hstarting
      have hsent := history_advance hstarting
      exact Nat.le_trans (Nat.succ_le_succ (continues_beginStart s options).history) hsent
  | stop => exact ⟨0, moves_beginStop h, hcontinues⟩
  | poll => exact ⟨0, moves_advance h, hcontinues⟩
  | giveUp => exact ⟨0, moves_abandon h, hcontinues⟩
  | giveUpPolled =>
    have hpolled := moves_polled h
    exact ⟨0, hpolled.trans (moves_abandon hpolled.among), hcontinues⟩
  | drop => exact ⟨0, moves_drop h, hcontinues⟩
  | pump => exact ⟨0, moves_pump h, hcontinues⟩
  | fetch i => exact ⟨0, moves_fetchAt h i, hcontinues⟩

omit [Strategy K] in
theorem isListening_eq {κ : Type} (t : Tracker K κ) : t.isListening = t.attachment?.isSome := by
  obtain ⟨cache, phase, fetches⟩ := t
  cases phase <;> rfl

theorem Among.countP_listeners (h : Among others s) (name : String) :
    s.tracker.listeners.countP (·.event == name) =
      if s.tracker.isListening then (Strategy.events K).count name else 0 := by
  rw [isListening_eq]
  cases ha : s.tracker.attachment? with
  | none =>
    rw [Tracker.listeners_of_detached ha]
    rfl
  | some a =>
    rw [Tracker.listeners_of_attached ha, ← (h.attached a ha).2, List.count, List.countP_map,
      Attachment.listeners, List.countP_map]
    rfl

theorem Among.listenerCount (h : Among others s) (name : String) :
    s.session.router.listenerCount name =
      (if s.tracker.isListening then (Strategy.events K).count name else 0) + others.countP (·.event == name) := by
  rw [Router.listenerCount, h.listeners.countP_eq, List.countP_append, h.countP_listeners]

/-- What one tracker does leaves another one among the listeners that there are now. -/
theorem Among.beside {L : Type} [Strategy L] {u v : Scene StandIn L HeldCall} {opened : Nat}
    (h : Among s.tracker.listeners u) (moves : Moves u.tracker.listeners s opened t)
    (session : v.session = t.session) (tracker : v.tracker = u.tracker) : Among t.tracker.listeners v := by
  have hthere := moves.among
  refine ⟨?_, ?_, ?_, ?_, ?_⟩
  · rw [session]
    exact hthere.numbered
  · rw [session]
    exact hthere.isOpen
  · rw [session, tracker]
    exact hthere.listeners.trans List.perm_append_comm
  · rw [tracker]
    exact h.attached
  · rw [tracker]
    intro b hb l hl
    rw [Tracker.listeners_of_attached hb] at hthere
    cases ha : t.tracker.attachment? with
    | none =>
      rw [Tracker.listeners_of_detached ha] at hl
      cases hl
    | some a =>
      rw [Tracker.listeners_of_attached ha] at hl
      obtain ⟨hsink, hsub⟩ := Attachment.mem_listeners.mp hl
      -- The other's sink is known by one of its listeners, from which the moving one stays apart.
      obtain ⟨m, hm, hmsink⟩ := h.exists_listener hb
      refine ⟨?_, fun hmem => ?_⟩
      · rw [hsink, ← hmsink]
        exact Ne.symm (hthere.apart a ha m hm).1
      · have hmine : ⟨l.event, l.id, b.sink⟩ ∈ b.listeners := Attachment.mem_listeners.mpr ⟨rfl, hmem⟩
        exact (hthere.apart a ha _ hmine).2 hsub

theorem Among.touch (h : Among others s) (touch : Touch) (session : t.session = s.session.touch touch)
    (tracker : t.tracker = s.tracker) : Among others t := by
  have hattachment : t.tracker.attachment? = s.tracker.attachment? := by rw [tracker]
  obtain hsame | ⟨e, hdispatched⟩ := s.session.router_touch touch
  · exact (moves_of_router h (by rw [session, hsame]) hattachment).among
  · exact h.dispatch e (by rw [session, hdispatched]) hattachment

end Scene

namespace Page

open Scene

/-- Something that happens to a page. -/
inductive Task where
  | on (kind : ResourceKind) (m : Move kind.Options)
  | touch (t : Touch)

def perform (p : Page StandIn HeldCall) : Task → Page StandIn HeldCall
  | .on kind m => p.put kind ((p.scene kind).make m)
  | .touch t => p.touch t

/-- A new page on a new stand-in after tasks, of which the latest comes first. -/
def run : List Task → Page StandIn HeldCall
  | [] => { session := {} }
  | t :: h => (run h).perform t

/-- The listeners of the tracker that is not of a kind. -/
def others (p : Page StandIn HeldCall) : ResourceKind → List Listener
  | .script => p.stylesheets.listeners
  | .stylesheet => p.scripts.listeners

/-- Each tracker listens beside the other, and no more sinks have been opened than commands sent. -/
structure Tidy (p : Page StandIn HeldCall) : Prop where
  among : ∀ kind, Among (p.others kind) (p.scene kind)
  paid : p.session.router.sinks.length ≤ p.session.history.length

theorem tidy_new : Tidy { session := {} } where
  among kind := by
    cases kind <;> exact ⟨⟨rfl, nofun⟩, nofun, .refl _, nofun, nofun⟩
  paid := Nat.le_refl _

variable {p : Page StandIn HeldCall}

/-- A history that fits into memory has not used up the ids. -/
theorem Tidy.fresh (h : p.Tidy) (fits : p.session.Fits) (kind : ResourceKind) :
    p.session.router.Fresh (p.others kind) := by
  have hamong := h.among kind
  have hlisteners (l : Listener) (hl : l ∈ p.others kind) : l ∈ p.session.router.listeners := by
    rw [← session_scene p kind]
    exact hamong.mem_others hl
  have hnumbered : p.session.router.Numbered := session_scene p kind ▸ hamong.numbered
  refine hnumbered.fresh (Nat.lt_of_le_of_lt h.paid fits) hlisteners fun l hl => ?_
  have hopen := hamong.isOpen l (hamong.mem_others hl)
  rw [session_scene] at hopen
  exact Router.lt_of_isOpen hopen

theorem Tidy.put (h : p.Tidy) {kind : ResourceKind} {t : Scene StandIn kind.Options HeldCall} {opened : Nat}
    (moves : Moves (p.others kind) (p.scene kind) opened t)
    (paid : p.session.history.length + opened ≤ t.session.history.length) : (p.put kind t).Tidy where
  among other := by
    have hscripts := h.among .script
    have hstylesheets := h.among .stylesheet
    cases kind with
    | script =>
      cases other with
      | script => exact moves.among
      | stylesheet => exact hstylesheets.beside (s := p.scene .script) moves rfl rfl
    | stylesheet =>
      cases other with
      | script => exact hscripts.beside (s := p.scene .stylesheet) moves rfl rfl
      | stylesheet => exact moves.among
  paid := by
    have hsinks := moves.sinks
    rw [session_scene] at hsinks
    rw [session_put, hsinks]
    exact Nat.le_trans (Nat.add_le_add_right h.paid opened) paid

theorem Tidy.touch (h : p.Tidy) (t : Touch) : (p.touch t).Tidy where
  among kind := by
    have hamong := h.among kind
    cases kind <;> exact hamong.touch t rfl rfl
  paid := by
    have hsinks : (p.session.touch t).router.sinks.length = p.session.router.sinks.length := by
      obtain hsame | ⟨e, hdispatched⟩ := p.session.router_touch t
      · rw [hsame]
      · rw [hdispatched, Router.dispatch, Router.length_foldl_push]
    show (p.session.touch t).router.sinks.length ≤ (p.session.touch t).history.length
    rw [hsinks]
    exact Nat.le_trans h.paid (p.session.history_touch t)

theorem enableCommands_ne_nil (kind : ResourceKind) (options : kind.Options) :
    Strategy.enableCommands options ≠ [] := by
  cases kind <;> exact List.cons_ne_nil _ _

theorem history_perform (p : Page StandIn HeldCall) (t : Task) :
    p.session.history.length ≤ (p.perform t).session.history.length := by
  cases t with
  | on kind m =>
    have hmake := (continues_make (p.scene kind) m).history
    rwa [session_scene, ← session_put p kind] at hmake
  | touch t => exact p.session.history_touch t

theorem Tidy.perform (h : p.Tidy) (fits : p.session.Fits) (t : Task) : (p.perform t).Tidy := by
  cases t with
  | on kind m =>
    have hfresh := h.fresh fits kind
    rw [← session_scene p kind] at hfresh
    obtain ⟨opened, hmoves, hpaid⟩ := moves_make (h.among kind) hfresh (enableCommands_ne_nil kind) m
    rw [session_scene] at hpaid
    exact h.put hmoves hpaid
  | touch t => exact h.touch t

theorem tidy_run (h : List Task) (fits : (run h).session.Fits) : (run h).Tidy := by
  induction h with
  | nil => exact tidy_new
  | cons t h ih =>
    have fits := fits.of_le (history_perform (run h) t)
    exact (ih fits).perform fits t

theorem Tidy.listenerCount (h : p.Tidy) (name : String) :
    p.session.router.listenerCount name =
      (if p.scripts.isListening then (Strategy.events ScriptOptions).count name else 0) +
        if p.stylesheets.isListening then (Strategy.events StylesheetOptions).count name else 0 := by
  have hstylesheets := (h.among .stylesheet).countP_listeners name
  have hcount := (h.among .script).listenerCount name
  exact hcount.trans (congrArg (_ + ·) hstylesheets)

/-- Registrations of a kind are listened for by the tracker of the kind alone. -/
theorem Tidy.listenerCount_registration (h : p.Tidy) (kind : ResourceKind) :
    p.session.router.listenerCount (Strategy.registrationEvent kind.Options) =
      (p.scene kind).tracker.isListening.toNat := by
  rw [h.listenerCount]
  cases kind with
  | script =>
    show _ = p.scripts.isListening.toNat
    cases p.scripts.isListening <;> cases p.stylesheets.isListening <;> decide
  | stylesheet =>
    show _ = p.stylesheets.isListening.toNat
    cases p.scripts.isListening <;> cases p.stylesheets.isListening <;> decide

/-- No listener leaks and none is doubled, whatever is started, stopped, given up, dropped, rejected, held or
emitted: a tracker that is enabled or about to be has one listener for its registrations and one for resets, and
any other has none, also while its stop waits. A history that fits into memory is too short for the ids of
listeners to come round. -/
theorem listenerCount_run (h : List Task) (fits : (run h).session.Fits) :
    (run h).session.router.listenerCount Event.scriptParsed = (run h).scripts.isListening.toNat ∧
      (run h).session.router.listenerCount Event.styleSheetAdded = (run h).stylesheets.isListening.toNat ∧
      (run h).session.router.listenerCount Event.executionContextsCleared =
        (run h).scripts.isListening.toNat + (run h).stylesheets.isListening.toNat ∧
      ∀ name, name ≠ Event.scriptParsed → name ≠ Event.styleSheetAdded → name ≠ Event.executionContextsCleared →
        (run h).session.router.listenerCount name = 0 := by
  have htidy := tidy_run h fits
  have hcount := htidy.listenerCount
  refine ⟨htidy.listenerCount_registration .script, htidy.listenerCount_registration .stylesheet, ?_,
    fun name hscript hstylesheet hcleared => ?_⟩
  · rw [hcount]
    cases (run h).scripts.isListening <;> cases (run h).stylesheets.isListening <;> decide
  · have hscripts : (Strategy.events ScriptOptions).count name = 0 := by
      rw [List.count_eq_zero]
      exact List.not_mem_cons_of_ne_of_not_mem hscript (mt List.mem_singleton.mp hcleared)
    have hstylesheets : (Strategy.events StylesheetOptions).count name = 0 := by
      rw [List.count_eq_zero]
      exact List.not_mem_cons_of_ne_of_not_mem hstylesheet (mt List.mem_singleton.mp hcleared)
    rw [hcount, hscripts, hstylesheets, ite_self, ite_self]

/-- While the stop of the scripts waits for its answer, only the stylesheets are listened for. -/
theorem listenerCount_run_of_held_stop :
    let h : List Task :=
      [.on .script .poll, .on .script .stop, .touch (.hold Method.takePreciseCoverage none),
        .on .stylesheet (.start {}), .on .script (.start {})]
    (run h).session.Fits ∧
      (run h).session.router.listenerCount Event.scriptParsed = 0 ∧
      (run h).session.router.listenerCount Event.styleSheetAdded = 1 ∧
      (run h).session.router.listenerCount Event.executionContextsCleared = 1 := by
  intro h
  have fits : (run h).session.Fits := by decide
  obtain ⟨hscripts, hstylesheets, hcleared, -⟩ := listenerCount_run h fits
  exact ⟨fits, hscripts, hstylesheets, hcleared⟩

end Page

end PageCoverage
