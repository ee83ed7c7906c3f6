import PageCoverage.Proofs.Page.Listeners
import PageCoverage.Proofs.Resource.Grouping
import PageCoverage.Proofs.Tracking.Sending

namespace PageCoverage

/-- A step of a tracker, or something that is done to its stand-in. -/
inductive Deed (K : Type) where
  | move (m : Move K)
  | touch (t : Touch)

/-- The command that somebody else sends. -/
def Deed.foreign? {K : Type} : Deed K → Option Command
  | .touch (.send c) => some c
  | _ => none

namespace Scene

variable {K : Type} [Strategy K]

/-- The event that a step handles while the cache takes records, with the options in force. -/
def hears? (s : Scene StandIn K HeldCall) : Move K → Option (K × Event)
  | .pump => s.heard?
  | _ => none

/-- What a step returns to whoever waits for a start or a stop. -/
def returns? (s : Scene StandIn K HeldCall) : Move K → Option Outcome
  | .start options =>
    match (s.beginStart options).1 with
    | .ok () => (s.beginStart options).2.advance.1
    | .error e => some (.started (.error e))
  | .stop =>
    match s.beginStop.1 with
    | .ok () => none
    | .error e => some (.stopped (.error e))
  | .poll => s.advance.1
  | _ => none

end Scene

/-- A tracker at work on a stand-in, the commands that it has sent, the events that it has handled while its cache
took records, each with the options in force, and what it has returned. -/
structure Chronicle (K : Type) where
  scene : Scene StandIn K HeldCall := { session := {}, tracker := {} }
  sent : List Command := []
  handled : List (K × Event) := []
  returned : List Outcome := []

namespace Chronicle

variable {K : Type} [Strategy K]

def perform (c : Chronicle K) : Deed K → Chronicle K
  | .move m =>
    { scene := c.scene.make m
      sent := c.sent ++ (c.scene.make m).session.history.drop c.scene.session.history.length
      handled := c.handled ++ (c.scene.hears? m).toList
      returned := c.returned ++ (c.scene.returns? m).toList }
  | .touch t => { c with scene := { c.scene with session := c.scene.session.touch t } }

/-- A new tracker on a new stand-in after deeds, of which the latest comes first. -/
def run : List (Deed K) → Chronicle K
  | [] => {}
  | d :: h => (run h).perform d

/-- A registration has been admitted when an event was handled. -/
def Announced (c : Chronicle K) (options : K) (r : Registration) : Prop :=
  ∃ e, (options, e) ∈ c.handled ∧ Strategy.admitted? options e = some r

end Chronicle

namespace Scene

variable {K : Type} [Strategy K] {s t u : Scene StandIn K HeldCall} {options : K} {e : Event}

theorem Sound.make (h : Sound s) (m : Move K) : Sound (s.make m) := by
  cases m with
  | start options => exact (h.start options).advance
  | stop => exact h.stop
  | poll => exact h.advance
  | giveUp => exact h.abandon
  | giveUpPolled => exact h.of_polled.abandon
  | drop => exact h.drop
  | pump => exact h.pump
  | fetch i => exact h.fetch i

theorem Sound.touch (h : Sound s) (t : Touch) : Sound { s with session := s.session.touch t } := by
  have elsewhere : Session.Elsewhere (s.tracker.attachment?.map Attachment.sink) s.session (s.session.touch t) := by
    obtain hsame | ⟨e, hdispatched⟩ := s.session.router_touch t
    · exact ⟨fun hwell => (congrArg Router.WellFormed hsame).mpr hwell,
        fun l hl _ => (congrArg (l ∈ Router.listeners ·) hsame).mp hl⟩
    · refine ⟨fun hwell => (congrArg Router.WellFormed hdispatched).mpr (Router.wellFormed_dispatch hwell e), ?_⟩
      exact fun l hl _ => List.mem_of_mem_filter ((congrArg (l ∈ Router.listeners ·) hdispatched).mp hl)
  refine h.elsewhere elsewhere fun a ha => ?_
  rw [ha]
  rfl

omit [Strategy K] in
theorem cache_abandon (s : Scene StandIn K HeldCall) : s.abandon.tracker.cache = s.tracker.cache := by
  rw [abandon]
  split <;> rfl

omit [Strategy K] in
theorem cache_polled (s : Scene StandIn K HeldCall) : s.polled.tracker.cache = s.tracker.cache := by
  rw [polled]
  split <;> rfl

omit [Strategy K] in
theorem cache_drop (s : Scene StandIn K HeldCall) : s.drop.tracker.cache = s.tracker.cache := by
  rw [drop]
  split
  · exact cache_abandon s
  · exact cache_abandon s

theorem records_beginStop (s : Scene StandIn K HeldCall) :
    s.beginStop.2.tracker.cache.records = s.tracker.cache.records := by
  rw [beginStop]
  split
  · rfl
  · exact congrArg Cache.records (cache_abandon s)

theorem Sound.records_beginStart (h : Sound s) (options : K) :
    (s.beginStart options).2.tracker.cache.records ⊆ s.tracker.cache.records := by
  by_cases henabled : s.tracker.isEnabled = true
  · rw [beginStart, if_pos henabled]
    exact List.Subset.refl _
  · obtain ⟨-, ⟨e, -, htracker⟩ | ⟨a, -, htracker, -⟩⟩ :=
      beginStart_spec h.wellFormed (by simpa using henabled) options
    · rw [htracker]
      exact List.nil_subset _
    · rw [htracker]
      exact List.nil_subset _

theorem records_advance (s : Scene StandIn K HeldCall) :
    s.advance.2.tracker.cache.records ⊆ s.tracker.cache.records := by
  cases hphase : s.tracker.phase with
  | idle =>
    rw [advance_of_idle hphase]
    exact List.Subset.refl _
  | enabled options a =>
    rw [advance_of_enabled hphase]
    exact List.Subset.refl _
  | starting options a batch =>
    obtain ⟨htracker, -⟩ | ⟨-, ⟨rest, htracker⟩ | htracker⟩ := advance_of_starting hphase
    all_goals
      rw [htracker]
      exact List.Subset.refl _
  | stopping options batch =>
    obtain ⟨-, ⟨rest, htracker⟩ | htracker⟩ := advance_of_stopping hphase
    · rw [htracker]
      exact List.Subset.refl _
    · rw [htracker]
      exact List.nil_subset _

theorem records_onEvent (s : Scene StandIn K HeldCall) (options : K) (e : Event) :
    (s.onEvent options e).tracker.cache.records ⊆ s.tracker.cache.records := by
  rw [onEvent]
  split
  · rw [onReset, Cache.reset]
    split
    · split
      next hreset =>
        split at hreset <;> cases hreset
        exact List.nil_subset _
      · exact List.Subset.refl _
    · exact List.Subset.refl _
  · rw [onRegistration]
    split
    · exact List.Subset.refl _
    · exact List.Subset.refl _
    · split <;> exact List.Subset.refl _

theorem records_pump (s : Scene StandIn K HeldCall) : s.pump.tracker.cache.records ⊆ s.tracker.cache.records := by
  cases hnext : s.next? with
  | none =>
    obtain hsame | ⟨_, _, -, -, -, -, htracker⟩ := pump_of_next?_eq_none hnext
    · rw [hsame]
      exact List.Subset.refl _
    · rw [htracker]
      exact List.Subset.refl _
  | some e =>
    obtain ⟨options, _, _, taken, -, -, htaken, -, hpump⟩ := pump_of_next? hnext
    have hrecords := records_onEvent taken options e
    rwa [← hpump, htaken] at hrecords

/-- A fetch that goes on is still of the same registration; one that ends may leave a record of it. -/
theorem fetchAt_origin (s : Scene StandIn K HeldCall) (i : Nat) :
    (∀ f ∈ (s.fetchAt i).tracker.fetches,
        ∃ g ∈ s.tracker.fetches, g.options = f.options ∧ g.resource = f.resource) ∧
      ∀ r ∈ (s.fetchAt i).tracker.cache.records,
        r ∈ s.tracker.cache.records ∨ ∃ f ∈ s.tracker.fetches, f.resource.url = r.url := by
  cases hf : s.tracker.fetches[i]? with
  | none =>
    have hsame : s.fetchAt i = s := by simp only [fetchAt, hf]
    rw [hsame]
    exact ⟨fun f hf => ⟨f, hf, rfl, rfl⟩, fun r hr => .inl hr⟩
  | some f =>
    have hmem := List.mem_of_getElem? hf
    have herased {g : Fetch K HeldCall} (hg : g ∈ s.tracker.fetches.eraseIdx i) :
        ∃ g' ∈ s.tracker.fetches, g'.options = g.options ∧ g'.resource = g.resource :=
      ⟨g, List.mem_of_mem_eraseIdx hg, rfl, rfl⟩
    by_cases hdone : ∃ result, (f.request.poll s.session).1 = .done result
    · obtain ⟨result, hresult⟩ := hdone
      obtain ⟨-, htracker⟩ := fetchAt_of_done hf hresult
      rw [htracker]
      refine ⟨fun g hg => herased hg, fun r hr => ?_⟩
      cases hsource : result.bind (Strategy.sourceText f.options) with
      | error e =>
        rw [hsource] at hr
        exact .inl hr
      | ok source =>
        rw [hsource] at hr
        obtain hold | rfl := Cache.mem_of_mem_insert hr
        · exact .inl hold
        · exact .inr ⟨f, hmem, rfl⟩
    · obtain ⟨-, htracker⟩ := fetchAt_of_waiting hf (not_exists.mp hdone)
      rw [htracker]
      refine ⟨fun g hg => ?_, fun r hr => .inl hr⟩
      obtain hold | hnew := List.mem_append.mp hg
      · exact herased hold
      · rw [List.mem_singleton.mp hnew]
        exact ⟨f, hmem, rfl, rfl⟩

/-- The entries of a stop are made of the records that there were. -/
theorem url_of_advance {entries : List Entry} (h : s.advance.1 = some (.stopped (.ok entries))) :
    ∀ entry ∈ entries, ∃ r ∈ s.tracker.cache.records, r.url = entry.url := by
  cases hphase : s.tracker.phase with
  | idle =>
    rw [advance_of_idle hphase] at h
    cases h
  | enabled options a =>
    rw [advance_of_enabled hphase] at h
    cases h
  | starting options a batch =>
    rw [advance_starting hphase] at h
    split at h
    · cases h
    · split at h <;> cases h
  | stopping options batch =>
    obtain ⟨usage, rfl⟩ := entries_of_advance hphase (Prod.ext h rfl)
    intro entry hentry
    have hurl : entry.url ∈ (buildEntries s.finishStop.1 usage).map Entry.url := List.mem_map_of_mem hentry
    rw [url_buildEntries] at hurl
    exact List.mem_map.mp hurl

theorem Sound.url_of_returns (h : Sound s) {m : Move K} {entries : List Entry}
    (returned : s.returns? m = some (.stopped (.ok entries))) :
    ∀ entry ∈ entries, ∃ r ∈ s.tracker.cache.records, r.url = entry.url := by
  cases m with
  | start options =>
    rw [returns?] at returned
    split at returned
    · intro entry hentry
      obtain ⟨r, hr, hurl⟩ := url_of_advance returned entry hentry
      exact ⟨r, h.records_beginStart options hr, hurl⟩
    · cases returned
  | stop =>
    rw [returns?] at returned
    split at returned <;> cases returned
  | poll => exact url_of_advance returned
  | _ => cases returned

/-- Work on a start or a stop: its commands are sent, the fetches are left alone, and no record is made. -/
structure Directs (s t : Scene StandIn K HeldCall) : Prop where
  sent : ∃ cs, t.session.history = s.session.history ++ cs ∧
    ∀ c ∈ cs, ∃ options : K, c ∈ Strategy.enableCommands options ∨ c ∈ stopBatch options
  fetches : t.tracker.fetches = s.tracker.fetches
  records : t.tracker.cache.records ⊆ s.tracker.cache.records

theorem Directs.trans (h : Directs s t) (h' : Directs t u) : Directs s u where
  sent := by
    obtain ⟨cs, hcs, hfirst⟩ := h.sent
    obtain ⟨ds, hds, hsecond⟩ := h'.sent
    refine ⟨cs ++ ds, by rw [hds, hcs, List.append_assoc], fun c hc => ?_⟩
    exact (List.mem_append.mp hc).elim (hfirst c) (hsecond c)
  fetches := h'.fetches.trans h.fetches
  records := List.Subset.trans h'.records h.records

theorem directs_of_silent (history : t.session.history = s.session.history)
    (fetches : t.tracker.fetches = s.tracker.fetches)
    (records : t.tracker.cache.records ⊆ s.tracker.cache.records) : Directs s t :=
  ⟨⟨[], history.trans (List.append_nil _).symm, nofun⟩, fetches, records⟩

theorem directs_abandon (s : Scene StandIn K HeldCall) : Directs s s.abandon := by
  refine directs_of_silent (sent_abandon s) (fetches_abandon s) ?_
  rw [cache_abandon]
  exact List.Subset.refl _

theorem directs_drop (s : Scene StandIn K HeldCall) : Directs s s.drop := by
  refine directs_of_silent (sent_drop s) (fetches_drop s) ?_
  rw [cache_drop]
  exact List.Subset.refl _

theorem directs_beginStop (s : Scene StandIn K HeldCall) : Directs s s.beginStop.2 := by
  refine directs_of_silent (sent_beginStop s) (fetches_beginStop s) ?_
  rw [records_beginStop]
  exact List.Subset.refl _

theorem Sound.directs_advance (h : Sound s) : Directs s s.advance.2 :=
  ⟨h.sent_advance, fetches_advance s, records_advance s⟩

theorem Sound.directs_polled (h : Sound s) : Directs s s.polled where
  sent := by
    obtain ⟨cs, hsent, hcs⟩ := h.sent_advance
    exact ⟨cs, (sent_polled s).trans hsent, hcs⟩
  fetches := fetches_polled s
  records := by
    rw [cache_polled]
    exact List.Subset.refl _

/-- A step handles an event, advances a fetch, or is work on a start or a stop. -/
theorem Sound.make_cases (h : Sound s) (m : Move K) :
    m = .pump ∨ (∃ i, m = .fetch i) ∨ Directs s (s.make m) ∧ s.hears? m = none := by
  cases m with
  | start options =>
    have hbegun : Directs s (s.beginStart options).2 :=
      directs_of_silent (sent_beginStart s options) (fetches_beginStart s options) (h.records_beginStart options)
    exact .inr (.inr ⟨hbegun.trans (h.start options).directs_advance, rfl⟩)
  | stop => exact .inr (.inr ⟨directs_beginStop s, rfl⟩)
  | poll => exact .inr (.inr ⟨h.directs_advance, rfl⟩)
  | giveUp => exact .inr (.inr ⟨directs_abandon s, rfl⟩)
  | giveUpPolled => exact .inr (.inr ⟨h.directs_polled.trans (directs_abandon _), rfl⟩)
  | drop => exact .inr (.inr ⟨directs_drop s, rfl⟩)
  | pump => exact .inl rfl
  | fetch i => exact .inr (.inl ⟨i, rfl⟩)

end Scene

namespace Chronicle

open Scene

variable {K : Type} [Strategy K] {c : Chronicle K} {options : K} {r : Registration}

theorem Announced.perform (h : c.Announced options r) (d : Deed K) : (c.perform d).Announced options r := by
  obtain ⟨e, he, hadmitted⟩ := h
  cases d with
  | move m => exact ⟨e, List.mem_append_left _ he, hadmitted⟩
  | touch t => exact ⟨e, he, hadmitted⟩

/-- Some announced registration has a URL. -/
def Known (c : Chronicle K) (url : String) : Prop := ∃ options r, c.Announced options r ∧ r.url = url

theorem Known.perform {url : String} (h : c.Known url) (d : Deed K) : (c.perform d).Known url := by
  obtain ⟨options, r, hannounced, hurl⟩ := h
  exact ⟨options, r, hannounced.perform d, hurl⟩

/-- Whatever a tracker fetches, stores or returns comes of an event that it has handled. -/
structure Sourced (c : Chronicle K) : Prop where
  sound : Sound c.scene
  fetches : ∀ f ∈ c.scene.tracker.fetches, c.Announced f.options f.resource
  records : ∀ r ∈ c.scene.tracker.cache.records, c.Known r.url
  entries : ∀ entries, .stopped (.ok entries) ∈ c.returned → ∀ entry ∈ entries, c.Known entry.url

theorem sourced_new : ({} : Chronicle K).Sourced where
  sound := sound_of_idle nofun (Cache.indexed_clear {}) rfl
  fetches := nofun
  records := nofun
  entries := nofun

theorem Sourced.move (h : c.Sourced) (m : Move K) : (c.perform (.move m)).Sourced := by
  have hentries : ∀ entries, .stopped (.ok entries) ∈ (c.perform (.move m)).returned →
      ∀ entry ∈ entries, (c.perform (.move m)).Known entry.url := by
    intro entries hreturned entry hentry
    obtain hold | hnew := List.mem_append.mp hreturned
    · exact (h.entries entries hold entry hentry).perform _
    · obtain ⟨r, hr, hurl⟩ := h.sound.url_of_returns (Option.mem_toList.mp hnew) entry hentry
      exact hurl ▸ (h.records r hr).perform _
  have hfetches (f : Fetch K HeldCall) (hf : f ∈ c.scene.tracker.fetches) :
      (c.perform (.move m)).Announced f.options f.resource := (h.fetches f hf).perform _
  have hrecords (r : Record) (hr : r ∈ c.scene.tracker.cache.records) : (c.perform (.move m)).Known r.url :=
    (h.records r hr).perform _
  have hsound : Sound (c.perform (.move m)).scene := h.sound.make m
  obtain rfl | ⟨i, rfl⟩ | ⟨hdirects, -⟩ := h.sound.make_cases m
  · refine ⟨hsound, fun f hf => ?_, fun r hr => hrecords r (records_pump c.scene hr), hentries⟩
    have hf : f ∈ c.scene.pump.tracker.fetches := hf
    rw [fetches_pump] at hf
    obtain hold | hnew := List.mem_append.mp hf
    · exact hfetches f hold
    · obtain ⟨⟨options, e⟩, hheard, hnew⟩ := Option.bind_eq_some_iff.mp (Option.mem_toList.mp hnew)
      obtain ⟨r, hadmitted, rfl⟩ := Option.map_eq_some_iff.mp hnew
      exact ⟨e, List.mem_append_right _ (Option.mem_toList.mpr hheard), hadmitted⟩
  · obtain ⟨hkept, hmade⟩ := fetchAt_origin c.scene i
    refine ⟨hsound, fun f hf => ?_, fun r hr => ?_, hentries⟩
    · obtain ⟨g, hg, hoptions, hresource⟩ := hkept f hf
      rw [← hoptions, ← hresource]
      exact hfetches g hg
    · obtain hold | ⟨f, hf, hurl⟩ := hmade r hr
      · exact hrecords r hold
      · exact ⟨f.options, f.resource, hfetches f hf, hurl⟩
  · exact ⟨hsound, fun f hf => hfetches f (hdirects.fetches ▸ hf),
      fun r hr => hrecords r (hdirects.records hr), hentries⟩

theorem sourced_run (h : List (Deed K)) : (run h).Sourced := by
  induction h with
  | nil => exact sourced_new
  | cons d h ih =>
    cases d with
    | move m => exact ih.move m
    | touch t => exact ⟨ih.sound.touch t, ih.fetches, ih.records, ih.entries⟩

end Chronicle

end PageCoverage
