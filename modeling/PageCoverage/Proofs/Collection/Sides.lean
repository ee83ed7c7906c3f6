import PageCoverage.Proofs.Collection.Course

namespace PageCoverage

/-- How far either kind has come. -/
structure Courses where
  scripts : Course
  stylesheets : Course

namespace Courses

def of (courses : Courses) : ResourceKind → Course
  | .script => courses.scripts
  | .stylesheet => courses.stylesheets

def set (courses : Courses) : ResourceKind → Course → Courses
  | .script, course => { courses with scripts := course }
  | .stylesheet, course => { courses with stylesheets := course }

theorem of_set_self (courses : Courses) (kind : ResourceKind) (course : Course) :
    (courses.set kind course).of kind = course := by
  cases kind <;> rfl

theorem of_set_of_ne {kind other : ResourceKind} (h : other ≠ kind) (courses : Courses) (course : Course) :
    (courses.set kind course).of other = courses.of other := by
  cases kind <;> cases other <;> first | exact absurd rfl h | rfl

theorem set_set (courses : Courses) (kind : ResourceKind) (course course' : Course) :
    (courses.set kind course).set kind course' = courses.set kind course' := by
  cases kind <;> rfl

theorem set_of (courses : Courses) (kind : ResourceKind) : courses.set kind (courses.of kind) = courses := by
  cases kind <;> rfl

end Courses

namespace Session

variable {σ κ : Type} [Session σ κ] {s t u : σ}

/-- The sinks that have been opened between two states of a session. -/
def newSinks (s t : σ) : List SinkId := List.range' (opened s) (opened t - opened s)

theorem mem_newSinks {k : Nat} : k ∈ newSinks s t ↔ opened s ≤ k ∧ k < opened t := by
  rw [newSinks, List.mem_range'_1]
  omega

theorem newSinks_trans (h : opened s ≤ opened t) (h' : opened t ≤ opened u) :
    newSinks s t ++ newSinks t u = newSinks s u := by
  have hall : opened u - opened s = (opened t - opened s) + (opened u - opened t) := by omega
  rw [newSinks, newSinks, newSinks, hall, ← List.range'_append_1, Nat.add_sub_cancel' h]

/-- Others change a session without letting anything more into given sinks. -/
structure Apart (sinks : List SinkId) (s t : σ) : Prop where
  wellFormed : (router s).WellFormed → (router t).WellFormed
  opened : opened s ≤ opened t
  listeners : ∀ l ∈ (router t).listeners, l.sink ∈ sinks → l ∈ (router s).listeners

end Session

namespace Outcome

/-- The outcomes of one kind, in order. -/
def of (kind : ResourceKind) (ends : List (ResourceKind × Outcome)) : List Outcome :=
  ends.filterMap fun x => if x.1 = kind then some x.2 else none

theorem of_append_self (kind : ResourceKind) (ends : List (ResourceKind × Outcome)) (os : List Outcome) :
    of kind (ends ++ os.map (kind, ·)) = of kind ends ++ os := by
  simp [of, List.filterMap_append, List.filterMap_map]

theorem of_append_of_ne {kind other : ResourceKind} (h : other ≠ kind) (ends : List (ResourceKind × Outcome))
    (os : List Outcome) : of other (ends ++ os.map (kind, ·)) = of other ends := by
  simp [of, List.filterMap_append, List.filterMap_map, h.symm]

end Outcome

namespace Page

open Scene

variable {σ κ : Type} [Session σ κ]

/-- The trackers of a page on their courses, with the starts and stops that have ended and the sinks that have
been opened on the way. -/
structure Abreast (p : Page (Recorded σ) κ) (ends : List (ResourceKind × Outcome)) (sinks : List SinkId)
    (courses : Courses) : Prop where
  sound : ∀ kind, Sound (p.scene kind)
  asks : ∀ kind, (p.scene kind).Asks kind
  stands : ∀ kind, (p.scene kind).Stands kind (courses.of kind)
  ends : ∀ kind, Outcome.of kind ends = (courses.of kind).ends
  opened : ∀ k ∈ sinks, k < Session.opened p.session
  taken : ∀ kind k, (p.scene kind).tracker.sink? = some k → k ∈ sinks
  left : ∀ k ∈ sinks, (∀ kind, (p.scene kind).tracker.sink? ≠ some k) →
    (Session.router p.session).feeders k = []

variable {p : Page (Recorded σ) κ} {ends : List (ResourceKind × Outcome)} {sinks : List SinkId} {courses : Courses}
  {kind : ResourceKind} {t : Scene (Recorded σ) kind.Options κ} {course : Course}

/-- The work of a kind is done on the session that both share. -/
theorem extends_of_conducts (work : Conducts kind (p.scene kind) t) : Session.Extends p.session t.session := by
  have hgrown := work.works.grown
  rwa [session_scene] at hgrown

theorem Abreast.sound_put (h : p.Abreast ends sinks courses) (work : Conducts kind (p.scene kind) t)
    (other : ResourceKind) : Sound ((p.put kind t).scene other) := by
  by_cases heq : other = kind
  · subst heq
    rw [scene_put]
    exact work.sound
  · have htracker : ((p.put kind t).scene other).tracker = (p.scene other).tracker := tracker_put_of_ne heq t
    refine (h.sound other).of_phase (by rw [htracker]) ?_ ?_ (fun _ => by rw [htracker]) ?_
    · rw [session_scene_put]
      exact work.sound.wellFormed
    · rw [htracker]
      exact (h.sound other).indexed
    · intro a ha l hl
      rw [session_scene_put] at hl
      have htaken : a.sink ∈ sinks := h.taken other a.sink (by rw [Tracker.sink?, ha]; rfl)
      rw [session_scene]
      exact (extends_of_conducts work).feeders (h.opened _ htaken) l hl

theorem Abreast.asks_put (h : p.Abreast ends sinks courses) (work : Conducts kind (p.scene kind) t)
    (other : ResourceKind) : ((p.put kind t).scene other).Asks other := by
  by_cases heq : other = kind
  · subst heq
    rw [scene_put]
    exact work.asks
  · exact (h.asks other).of_fetches (by rw [tracker_put_of_ne heq])

theorem Abreast.stands_put (h : p.Abreast ends sinks courses) (work : Conducts kind (p.scene kind) t)
    (stands : t.Stands kind course) (other : ResourceKind) :
    ((p.put kind t).scene other).Stands other ((courses.set kind course).of other) := by
  by_cases heq : other = kind
  · subst heq
    rw [scene_put, Courses.of_set_self]
    exact stands
  · rw [Courses.of_set_of_ne heq]
    refine (h.stands other).of_phase (by rw [tracker_put_of_ne heq]) ?_
    have hothers := work.others other heq
    rw [session_scene] at hothers
    rwa [session_scene_put, session_scene]

theorem Abreast.taken_put (h : p.Abreast ends sinks courses) (work : Conducts kind (p.scene kind) t)
    (other : ResourceKind) (k : SinkId) (hk : ((p.put kind t).scene other).tracker.sink? = some k) :
    k ∈ sinks ++ Session.newSinks p.session t.session := by
  by_cases heq : other = kind
  · subst heq
    rw [scene_put] at hk
    obtain hold | hnew := work.works.taken k hk
    · exact List.mem_append_left _ (h.taken other k hold)
    · rw [session_scene] at hnew
      exact List.mem_append_right _ (Session.mem_newSinks.mpr hnew)
  · rw [tracker_put_of_ne heq] at hk
    exact List.mem_append_left _ (h.taken other k hk)

/-- A sink that the tracker has left, or that it has opened and does not hold, is fed by nobody. -/
theorem Abreast.left_put (h : p.Abreast ends sinks courses) (work : Conducts kind (p.scene kind) t)
    (k : SinkId) (hk : k ∈ sinks ++ Session.newSinks p.session t.session)
    (hnone : ∀ other, ((p.put kind t).scene other).tracker.sink? ≠ some k) :
    (Session.router t.session).feeders k = [] := by
  have hmine : t.tracker.sink? ≠ some k := by
    have hkind := hnone kind
    rwa [scene_put] at hkind
  obtain hold | hnew := List.mem_append.mp hk
  · by_cases hs : (p.scene kind).tracker.sink? = some k
    · exact work.works.left k (.inl hs) hmine
    · refine (extends_of_conducts work).unfed (h.opened k hold) (h.left k hold fun other => ?_)
      by_cases heq : other = kind
      · subst heq
        exact hs
      · rw [← tracker_put_of_ne heq t]
        exact hnone other
  · refine work.works.left k (.inr ?_) hmine
    rw [session_scene]
    exact (Session.mem_newSinks.mp hnew).1

/-- The work of one kind brings it to a point of its course, and the other kind stays where it is. -/
theorem Abreast.put (h : p.Abreast ends sinks courses) (work : Conducts kind (p.scene kind) t)
    (os : List Outcome) (stands : t.Stands kind course) (ended : course.ends = (courses.of kind).ends ++ os) :
    (p.put kind t).Abreast (ends ++ os.map (kind, ·)) (sinks ++ Session.newSinks p.session t.session)
      (courses.set kind course) where
  sound := h.sound_put work
  asks := h.asks_put work
  stands := h.stands_put work stands
  ends other := by
    by_cases heq : other = kind
    · subst heq
      rw [Outcome.of_append_self, Courses.of_set_self, h.ends, ended]
    · rw [Outcome.of_append_of_ne heq, Courses.of_set_of_ne heq, h.ends]
  opened k hk := by
    rw [session_put]
    obtain hold | hnew := List.mem_append.mp hk
    · exact Nat.lt_of_lt_of_le (h.opened k hold) (extends_of_conducts work).opened
    · exact (Session.mem_newSinks.mp hnew).2
  taken := h.taken_put work
  left k hk hnone := by
    rw [session_put]
    exact h.left_put work k hk hnone

/-- Background work leaves its kind where it is on its course. -/
theorem Abreast.work (h : p.Abreast ends sinks courses) (work : Conducts kind (p.scene kind) t)
    (stands : t.Stands kind (courses.of kind)) :
    (p.put kind t).Abreast ends (sinks ++ Session.newSinks p.session t.session) courses := by
  have hput := h.put work [] stands (List.append_nil _).symm
  rwa [Courses.set_of, List.map_nil, List.append_nil] at hput

/-- What others do leaves both kinds where they are, and what is logged does not matter. -/
theorem Abreast.elsewhere {q : Page (Recorded σ) κ} (h : p.Abreast ends sinks courses)
    (tracker : ∀ kind, (q.scene kind).tracker = (p.scene kind).tracker) (sent : q.session.sent = p.session.sent)
    (apart : Session.Apart sinks p.session q.session) : q.Abreast ends sinks courses := by
  have hfeeders {k : SinkId} (hk : k ∈ sinks) :
      ∀ l ∈ (Session.router q.session).feeders k, l ∈ (Session.router p.session).feeders k := by
    intro l hl
    obtain ⟨hl, hsink⟩ := List.mem_filter.mp hl
    have hmem : l.sink ∈ sinks := by rwa [beq_iff_eq.mp hsink]
    exact List.mem_filter.mpr ⟨apart.listeners l hl hmem, hsink⟩
  constructor
  case sound =>
    intro kind
    have hsound := h.sound kind
    have hwell := hsound.wellFormed
    rw [session_scene] at hwell
    refine hsound.of_phase (by rw [tracker]) ?_ (by rw [tracker]; exact hsound.indexed) (fun _ => by rw [tracker]) ?_
    · rw [session_scene]
      exact apart.wellFormed hwell
    · intro a ha l hl
      rw [session_scene] at hl ⊢
      exact hfeeders (h.taken kind a.sink (by rw [Tracker.sink?, ha]; rfl)) l hl
  case asks => exact fun kind => (h.asks kind).of_fetches (by rw [tracker])
  case stands =>
    intro kind
    refine (h.stands kind).of_phase (by rw [tracker]) ?_
    rw [session_scene, session_scene, sent]
  case ends => exact h.ends
  case opened => exact fun k hk => Nat.lt_of_lt_of_le (h.opened k hk) apart.opened
  case taken =>
    intro kind k hk
    rw [tracker] at hk
    exact h.taken kind k hk
  case left =>
    intro k hk hnone
    have hunfed := h.left k hk fun kind => by
      rw [← tracker]
      exact hnone kind
    refine List.eq_nil_iff_forall_not_mem.mpr fun l hl => ?_
    have hthere := hfeeders hk l hl
    rw [hunfed] at hthere
    cases hthere

section Lawful

variable [LawfulSession σ]

/-- A start begins, or it is refused, which ends it. -/
theorem Abreast.start (h : p.Abreast ends sinks courses) (kind : ResourceKind)
    (unstarted : courses.of kind = .unstarted) (options : kind.Options) :
    let t := (p.scene kind).beginStart options
    (t.1 = .ok () ∧
      (p.put kind t.2).Abreast ends (sinks ++ Session.newSinks p.session t.2.session) (courses.set kind .starting)) ∨
    ∃ e, t.1 = .error e ∧
      (p.put kind t.2).Abreast (ends ++ [(kind, .started (.error e))])
        (sinks ++ Session.newSinks p.session t.2.session) (courses.set kind (.refused e)) := by
  have hstands := h.stands kind
  rw [unstarted] at hstands
  have hwork := conducts_beginStart (h.sound kind) (h.asks kind) hstands.1 options
  obtain ⟨hok, hstarting⟩ | ⟨e, herror, hrefused⟩ := hstands.start (h.sound kind) options
  · have hput := h.put hwork [] hstarting (by rw [unstarted]; rfl)
    rw [List.map_nil, List.append_nil] at hput
    exact .inl ⟨hok, hput⟩
  · exact .inr ⟨e, herror, h.put hwork [.started (.error e)] hrefused (by rw [unstarted]; rfl)⟩

/-- A start under way waits for an answer, succeeds or fails. -/
theorem Abreast.pollStart (h : p.Abreast ends sinks courses) (kind : ResourceKind)
    (starting : courses.of kind = .starting) :
    let t := (p.scene kind).advance
    (t.1 = none ∧ (∃ call, .pending call ∈ t.2.tracker.batch) ∧
      (p.put kind t.2).Abreast ends (sinks ++ Session.newSinks p.session t.2.session) courses) ∨
    (t.1 = some (.started (.ok ())) ∧
      (p.put kind t.2).Abreast (ends ++ [(kind, .started (.ok ()))])
        (sinks ++ Session.newSinks p.session t.2.session) (courses.set kind .started)) ∨
    ∃ e, t.1 = some (.started (.error e)) ∧
      (p.put kind t.2).Abreast (ends ++ [(kind, .started (.error e))])
        (sinks ++ Session.newSinks p.session t.2.session) (courses.set kind (.refused e)) := by
  have hstands := h.stands kind
  rw [starting] at hstands
  have hwork := conducts_advance (h.sound kind) (h.asks kind)
  obtain ⟨hnone, hstarting, hpending⟩ | ⟨hok, hstarted⟩ | ⟨e, herror, hrefused⟩ :=
    hstands.poll_starting (h.sound kind)
  · exact .inl ⟨hnone, hpending, h.work hwork (starting ▸ hstarting)⟩
  · exact .inr (.inl ⟨hok, h.put hwork [.started (.ok ())] hstarted (by rw [starting]; rfl)⟩)
  · exact .inr (.inr ⟨e, herror, h.put hwork [.started (.error e)] hrefused (by rw [starting]; rfl)⟩)

/-- The stop of what has been started begins. -/
theorem Abreast.stop (h : p.Abreast ends sinks courses) (kind : ResourceKind) (started : courses.of kind = .started) :
    let t := (p.scene kind).beginStop
    t.1 = .ok () ∧
      (p.put kind t.2).Abreast ends (sinks ++ Session.newSinks p.session t.2.session)
        (courses.set kind .stopping) := by
  have hstands := h.stands kind
  rw [started] at hstands
  obtain ⟨hok, hstopping⟩ := hstands.stop
  have hput := h.put (conducts_beginStop (h.sound kind) (h.asks kind)) [] hstopping (by rw [started]; rfl)
  rw [List.map_nil, List.append_nil] at hput
  exact ⟨hok, hput⟩

/-- A stop under way waits for an answer or ends. -/
theorem Abreast.pollStop (h : p.Abreast ends sinks courses) (kind : ResourceKind)
    (stopping : courses.of kind = .stopping) :
    let t := (p.scene kind).advance
    (t.1 = none ∧ (∃ call, .pending call ∈ t.2.tracker.batch) ∧
      (p.put kind t.2).Abreast ends (sinks ++ Session.newSinks p.session t.2.session) courses) ∨
    ∃ r, t.1 = some (.stopped r) ∧
      (p.put kind t.2).Abreast (ends ++ [(kind, .stopped r)])
        (sinks ++ Session.newSinks p.session t.2.session) (courses.set kind (.stopped r)) := by
  have hstands := h.stands kind
  rw [stopping] at hstands
  have hwork := conducts_advance (h.sound kind) (h.asks kind)
  obtain ⟨hnone, hstopping, hpending⟩ | ⟨r, hended, hstopped⟩ := hstands.poll_stopping
  · exact .inl ⟨hnone, hpending, h.work hwork (stopping ▸ hstopping)⟩
  · exact .inr ⟨r, hended, h.put hwork [.stopped r] hstopped (by rw [stopping]; rfl)⟩

end Lawful

end Page

end PageCoverage
