import PageCoverage.Operation
import PageCoverage.Proofs.Page.Listeners
import PageCoverage.Proofs.Tracking.Settled

namespace PageCoverage

/-- A start or a stop that has been called: how it has ended, if it has, and the page. -/
abbrev Call := Option Outcome × Page StandIn HeldCall

namespace Operation

def kind : Operation → ResourceKind
  | startScripts _ | stopScripts => .script
  | startStylesheets _ | stopStylesheets => .stylesheet

/-- The end of an operation that is refused. -/
def refused (e : CoverageError) : Operation → Outcome
  | startScripts _ | startStylesheets _ => .started (.error e)
  | stopScripts | stopStylesheets => .stopped (.error e)

def issue (op : Operation) (p : Page StandIn HeldCall) : Call :=
  match op.begin p with
  | (.error e, p) => (some (op.refused e), p)
  | (.ok (), p) => op.advance p

def resume (op : Operation) : Call → Call
  | (none, p) => op.advance p
  | ended => ended

/-- While an operation is under way something is done to the stand-in, and then everything proceeds that can. -/
def during (op : Operation) (c : Call) (t : Touch) : Call :=
  let (result, p) := op.resume (c.1, c.2.touch t)
  (result, p.settle)

/-- An operation that has still not ended is given up. -/
def finish (op : Operation) : Call → Call
  | (none, p) => (none, (p.put op.kind (p.scene op.kind).abandon).settle)
  | ended => ended

/-- A call and what has been done to the stand-in since. -/
def underway (op : Operation) (p : Page StandIn HeldCall) (meanwhile : List Touch) : Call :=
  let (result, p) := op.issue p
  meanwhile.foldl op.during (result, p.settle)

/-- A whole call, with what is done to the stand-in meanwhile. -/
def carryOut (op : Operation) (p : Page StandIn HeldCall) (meanwhile : List Touch) : Call :=
  op.finish (op.underway p meanwhile)

end Operation

namespace Page

/-- Something is done to the stand-in of a page, and then everything proceeds that can. -/
def touched (p : Page StandIn HeldCall) (t : Touch) : Page StandIn HeldCall := (p.touch t).settle

inductive Act where
  | call (op : Operation) (meanwhile : List Touch)
  | touch (t : Touch)

/-- A page and the calls that have been made, the latest first. A call without outcome is under way or was given
up. -/
structure Played where
  page : Page StandIn HeldCall := { session := {} }
  results : List (Operation × Option Outcome) := []

def Played.perform (s : Played) : Act → Played
  | .call op meanwhile =>
    let (result, p) := op.carryOut s.page meanwhile
    ⟨p, (op, result) :: s.results⟩
  | .touch t => ⟨s.page.touched t, s.results⟩

/-- A new page on a new stand-in after acts, of which the latest comes first. -/
def play : List Act → Played
  | [] => {}
  | a :: h => (play h).perform a

/-- The acts without the calls of the other kind; what was done to the stand-in meanwhile stays. -/
def only (kind : ResourceKind) : List Act → List Act
  | [] => []
  | .call op meanwhile :: h =>
    if op.kind = kind then .call op meanwhile :: only kind h else meanwhile.reverse.map .touch ++ only kind h
  | .touch t :: h => .touch t :: only kind h

/-- A moment of a run: after an act, or within a call after a part of what is done to the stand-in meanwhile. -/
inductive Moment where
  | after (h : List Act)
  | within (op : Operation) (meanwhile : List Touch) (h : List Act)

def Moment.state : Moment → Played
  | .after h => play h
  | .within op meanwhile h =>
    let (result, p) := op.underway (play h).page meanwhile
    ⟨p, (op, result) :: (play h).results⟩

/-- The same moment of the run without the calls of the other kind. -/
def Moment.only (kind : ResourceKind) : Moment → Moment
  | .after h => .after (Page.only kind h)
  | .within op meanwhile h =>
    if op.kind = kind then .within op meanwhile (Page.only kind h)
    else .after (meanwhile.reverse.map .touch ++ Page.only kind h)

end Page

namespace Operation

variable {σ κ : Type} [Session σ κ]

/-- The begin of an operation, for the tracker that is called. -/
def enter : (op : Operation) → Scene σ op.kind.Options κ → Except CoverageError Unit × Scene σ op.kind.Options κ
  | startScripts options, s => s.beginStart options
  | stopScripts, s => s.beginStop
  | startStylesheets options, s => s.beginStart options
  | stopStylesheets, s => s.beginStop

theorem begin_eq (op : Operation) (p : Page σ κ) :
    op.begin p = ((op.enter (p.scene op.kind)).1, p.put op.kind (op.enter (p.scene op.kind)).2) := by
  cases op <;> rfl

theorem advance_eq (op : Operation) (p : Page σ κ) :
    op.advance p = ((p.scene op.kind).advance.1, p.put op.kind (p.scene op.kind).advance.2) := by
  cases op <;> rfl

def launch (op : Operation) (s : Scene StandIn op.kind.Options HeldCall) :
    Option Outcome × Scene StandIn op.kind.Options HeldCall :=
  match op.enter s with
  | (.error e, s) => (some (op.refused e), s)
  | (.ok (), s) => s.advance

end Operation

namespace Page

variable {σ κ : Type}

theorem put_self (p : Page σ κ) (kind : ResourceKind) : p.put kind (p.scene kind) = p := by
  cases kind <;> rfl

theorem put_put (p : Page σ κ) (kind : ResourceKind) (s t : Scene σ kind.Options κ) :
    (p.put kind s).put kind t = p.put kind t := by
  cases kind <;> rfl

end Page

namespace Operation

theorem issue_eq (op : Operation) (p : Page StandIn HeldCall) :
    op.issue p = ((op.launch (p.scene op.kind)).1, p.put op.kind (op.launch (p.scene op.kind)).2) := by
  rw [issue, begin_eq, launch]
  rcases op.enter (p.scene op.kind) with ⟨_ | _, s⟩
  · rfl
  · simp only [advance_eq, Page.scene_put, Page.put_put]

end Operation

namespace Scene

variable {K : Type} [Strategy K] {s : Scene StandIn K HeldCall} {options : K} {e : CoverageError}

theorem advance_of_start_refused (h : (s.beginStart options).1 = .error e) :
    (s.beginStart options).2.advance.2 = (s.beginStart options).2 := by
  by_cases henabled : s.tracker.isEnabled = true
  · obtain ⟨_, _, hphase⟩ := Tracker.isEnabled_iff.mp henabled
    rw [beginStart, if_pos henabled, advance_of_enabled hphase]
  · rw [beginStart, if_neg henabled] at h
    cases h

theorem advance_of_stop_refused (h : s.beginStop.1 = .error e) : s.beginStop.2.advance.2 = s.beginStop.2 := by
  by_cases henabled : s.tracker.isEnabled = true
  · obtain ⟨_, _, hphase⟩ := Tracker.isEnabled_iff.mp henabled
    rw [beginStop_of_phase hphase] at h
    cases h
  · have hdisabled : s.tracker.isEnabled = false := by simpa using henabled
    rw [beginStop_of_not_enabled hdisabled, advance_of_idle]
    rw [tracker_abandon hdisabled]

end Scene

namespace Operation

open Scene

variable {op : Operation} {s t : Scene StandIn op.kind.Options HeldCall} {others others' : List Listener}

/-- Where an operation is refused there is nothing to poll. -/
theorem snd_launch (s : Scene StandIn op.kind.Options HeldCall) :
    (op.launch s).2 = (op.enter s).2.advance.2 := by
  have hrefused (e : CoverageError) (h : (op.enter s).1 = .error e) :
      (op.enter s).2.advance.2 = (op.enter s).2 := by
    cases op with
    | startScripts options => exact advance_of_start_refused h
    | stopScripts => exact advance_of_stop_refused h
    | startStylesheets options => exact advance_of_start_refused h
    | stopStylesheets => exact advance_of_stop_refused h
  rw [launch]
  rcases henter : op.enter s with ⟨e | _, u⟩
  · rw [henter] at hrefused
    exact (hrefused e rfl).symm
  · rfl

/-- Begin and first poll are a step of the tracker, or two. -/
theorem launch_eq_make (s : Scene StandIn op.kind.Options HeldCall) :
    (∃ options, (op.launch s).2 = s.make (.start options)) ∨ (op.launch s).2 = (s.make .stop).make .poll := by
  rw [snd_launch]
  cases op with
  | startScripts options => exact .inl ⟨options, rfl⟩
  | stopScripts => exact .inr rfl
  | startStylesheets options => exact .inl ⟨options, rfl⟩
  | stopStylesheets => exact .inr rfl

theorem continues_launch (s : Scene StandIn op.kind.Options HeldCall) :
    s.session.Continues (op.launch s).2.session := by
  obtain ⟨options, hmake⟩ | hmake := launch_eq_make s
  · rw [hmake]
    exact continues_make s _
  · rw [hmake]
    exact (continues_make s _).trans (continues_make _ _)

theorem moves_launch (h : Among others s) (fresh : s.session.router.Fresh others) :
    ∃ opened, Moves others s opened (op.launch s).2 ∧
      s.session.history.length + opened ≤ (op.launch s).2.session.history.length := by
  have hcommands := Page.enableCommands_ne_nil op.kind
  obtain ⟨options, hmake⟩ | hmake := launch_eq_make s
  · rw [hmake]
    exact moves_make h fresh hcommands _
  · have hstop := moves_beginStop h
    refine ⟨0, ?_, (continues_launch s).history⟩
    rw [hmake]
    exact hstop.trans (moves_advance hstop.among)

theorem launch_alike (h : Alike s t) :
    (op.launch s).1 = (op.launch t).1 ∧ Alike (op.launch s).2 (op.launch t).2 := by
  have henter : (op.enter s).1 = (op.enter t).1 ∧ Alike (op.enter s).2 (op.enter t).2 := by
    cases op with
    | startScripts options => exact h.beginStart options
    | stopScripts => exact h.beginStop
    | startStylesheets options => exact h.beginStart options
    | stopStylesheets => exact h.beginStop
  obtain ⟨hresult, halike⟩ := henter
  rw [launch, launch]
  rcases hs : op.enter s with ⟨e | _, u⟩ <;> rcases ht : op.enter t with ⟨e' | _, v⟩ <;>
    rw [hs, ht] at hresult halike
  · cases hresult
    exact ⟨rfl, halike⟩
  · cases hresult
  · cases hresult
  · exact halike.advance

end Operation

namespace Scene

/-- Work of a tracker that opens no sink, and that trackers do alike that cannot tell their sessions apart. -/
structure Steady {K : Type} [Strategy K] (f : Scene StandIn K HeldCall → Scene StandIn K HeldCall) : Prop where
  continues : ∀ s : Scene StandIn K HeldCall, s.session.Continues (f s).session
  moves : ∀ {others : List Listener} {s : Scene StandIn K HeldCall}, Among others s → Moves others s 0 (f s)
  alike : ∀ {others others' : List Listener} {s t : Scene StandIn K HeldCall},
    Among others s → Among others' t → Alike s t → Alike (f s) (f t)

variable {K : Type} [Strategy K]

theorem steady_fetchAll : Steady (K := K) fetchAll := ⟨continues_fetchAll, moves_fetchAll, fun _ _ h => h.fetchAll⟩

theorem steady_pumpAll : Steady (K := K) pumpAll :=
  ⟨continues_pumpAll, moves_pumpAll, fun left right h => h.pumpAll left right⟩

theorem steady_abandon : Steady (K := K) abandon := ⟨continues_abandon, moves_abandon, fun _ _ h => h.abandon⟩

theorem steady_advance : Steady (K := K) fun s => s.advance.2 :=
  ⟨continues_advance, moves_advance, fun _ _ h => h.advance.2⟩

end Scene

namespace Page

open Scene

variable {kind other : ResourceKind} {p q : Page StandIn HeldCall}

/-- A page and one on which only the tracker of a kind has been called, which cannot tell the two apart. -/
structure Agree (kind : ResourceKind) (p q : Page StandIn HeldCall) : Prop where
  tidy : p.Tidy
  solo : Among [] (q.scene kind)
  alone : ∀ other, other ≠ kind → (q.scene other).tracker = {}
  alike : Alike (p.scene kind) (q.scene kind)

theorem others_of_ne (h : other ≠ kind) (p : Page StandIn HeldCall) :
    p.others kind = (p.scene other).tracker.listeners := by
  cases kind <;> cases other <;> first | exact absurd rfl h | rfl

theorem Tidy.sink_ne (h : p.Tidy) (hne : other ≠ kind) {a b : Attachment}
    (ha : (p.scene kind).tracker.attachment? = some a) (hb : (p.scene other).tracker.attachment? = some b) :
    b.sink ≠ a.sink := by
  obtain ⟨l, hl, hsink⟩ := (h.among other).exists_listener hb
  rw [← Tracker.listeners_of_attached hb, ← others_of_ne hne] at hl
  rw [← hsink]
  exact ((h.among kind).apart a ha l hl).1

theorem Agree.put (h : Agree kind p q) {t u : Scene StandIn kind.Options HeldCall} {m n : Nat}
    (moves : Moves (p.others kind) (p.scene kind) m t)
    (paid : p.session.history.length + m ≤ t.session.history.length)
    (moves' : Moves [] (q.scene kind) n u) (alike : Alike t u) : Agree kind (p.put kind t) (q.put kind u) where
  tidy := h.tidy.put moves paid
  solo := by
    rw [scene_put]
    exact moves'.among
  alone other hne := by
    rw [tracker_put_of_ne hne]
    exact h.alone other hne
  alike := by
    rw [scene_put, scene_put]
    exact alike

/-- Work of the other tracker is nothing to the tracker of the kind. -/
theorem Agree.put_other (h : Agree kind p q) (hne : other ≠ kind) {t : Scene StandIn other.Options HeldCall}
    {m : Nat} (moves : Moves (p.others other) (p.scene other) m t)
    (paid : p.session.history.length + m ≤ t.session.history.length)
    (continues : p.session.Continues t.session) : Agree kind (p.put other t) q where
  tidy := h.tidy.put moves paid
  solo := h.solo
  alone := h.alone
  alike := by
    refine h.alike.beside ?_ (tracker_put_of_ne (Ne.symm hne) t) fun a ha => ?_
    · rw [session_scene, session_scene, session_put]
      exact continues.bare
    · -- Its own sink was there before and is not the other's, so it is spared.
      have hlt := (h.tidy.among kind).lt_own ha
      have hspared := moves.spared a.sink
      rw [session_scene] at hlt hspared ⊢
      rw [session_scene, session_put]
      exact hspared hlt fun b hb => h.tidy.sink_ne hne ha hb

theorem Agree.steady (h : Agree kind p q)
    {f : Scene StandIn kind.Options HeldCall → Scene StandIn kind.Options HeldCall} (hf : Steady f) :
    Agree kind (p.put kind (f (p.scene kind))) (q.put kind (f (q.scene kind))) := by
  have hcontinues := (hf.continues (p.scene kind)).history
  rw [session_scene] at hcontinues
  exact h.put (hf.moves (h.tidy.among kind)) hcontinues (hf.moves h.solo) (hf.alike (h.tidy.among kind) h.solo h.alike)

theorem Agree.steady_other (h : Agree kind p q) (hne : other ≠ kind)
    {f : Scene StandIn other.Options HeldCall → Scene StandIn other.Options HeldCall} (hf : Steady f) :
    Agree kind (p.put other (f (p.scene other))) q := by
  have hcontinues := hf.continues (p.scene other)
  rw [session_scene] at hcontinues
  exact h.put_other hne (hf.moves (h.tidy.among other)) hcontinues.history hcontinues

theorem Agree.touch (h : Agree kind p q) (t : Touch) :
    Agree kind (p.touch t) (q.touch t) where
  tidy := h.tidy.touch t
  solo := by
    have hsolo := h.solo
    cases kind <;> exact hsolo.touch t rfl rfl
  alone other hne := by
    rw [Page.touch, tracker_withSession]
    exact h.alone other hne
  alike := by
    have hsession (p : Page StandIn HeldCall) :
        ((p.touch t).scene kind).session = (p.scene kind).session.touch t := by
      rw [session_scene, session_scene]
      rfl
    exact h.alike.touch (h.tidy.among kind) h.solo t (hsession p) (tracker_withSession ..) (hsession q)
      (tracker_withSession ..)

theorem Agree.fetchAll (h : Agree kind p q) : Agree kind p.fetchAll (q.put kind (q.scene kind).fetchAll) := by
  cases kind with
  | script =>
    have hne : ResourceKind.stylesheet ≠ .script := nofun
    exact (h.steady steady_fetchAll).steady_other hne steady_fetchAll
  | stylesheet =>
    have hne : ResourceKind.script ≠ .stylesheet := nofun
    exact (h.steady_other hne steady_fetchAll).steady steady_fetchAll

/-- In whatever order the sides are pumped, each handles its own events. -/
theorem Agree.pumpAll (h : Agree kind p q) : Agree kind p.pumpAll (q.put kind (q.scene kind).pumpAll) := by
  rw [Page.pumpAll]
  cases kind with
  | script =>
    have hne : ResourceKind.stylesheet ≠ .script := nofun
    split
    · exact (h.steady_other hne steady_pumpAll).steady steady_pumpAll
    · exact (h.steady steady_pumpAll).steady_other hne steady_pumpAll
  | stylesheet =>
    have hne : ResourceKind.script ≠ .stylesheet := nofun
    split
    · exact (h.steady steady_pumpAll).steady_other hne steady_pumpAll
    · exact (h.steady_other hne steady_pumpAll).steady steady_pumpAll

/-- Where the other tracker has never been called, work of both sides is work of one, as nothing comes of it on a
side that is new. -/
theorem put_put_of_alone (alone : ∀ other, other ≠ kind → (q.scene other).tracker = {})
    {f : ∀ kind : ResourceKind, Scene StandIn kind.Options HeldCall → Scene StandIn kind.Options HeldCall}
    (hf : ∀ kind s, s.tracker = {} → f kind s = s) {first second : ResourceKind} (hne : first ≠ second) :
    (q.put first (f first (q.scene first))).put second
      (f second ((q.put first (f first (q.scene first))).scene second)) = q.put kind (f kind (q.scene kind)) := by
  by_cases hfirst : first = kind
  · subst hfirst
    have hnew := alone second hne.symm
    rw [hf second _ ((tracker_put_of_ne hne.symm _).trans hnew), put_self]
  · have hsecond : second = kind := by
      cases first <;> cases second <;> cases kind <;> first | rfl | exact absurd rfl hne | exact absurd rfl hfirst
    subst hsecond
    rw [hf first _ (alone first hne), put_self]

theorem settle_of_alone (alone : ∀ other, other ≠ kind → (q.scene other).tracker = {}) :
    q.settle = q.put kind (q.scene kind).settle := by
  have hkept {q : Page StandIn HeldCall} {s : Scene StandIn kind.Options HeldCall}
      (alone : ∀ other, other ≠ kind → (q.scene other).tracker = {}) :
      ∀ other, other ≠ kind → ((q.put kind s).scene other).tracker = {} := by
    intro other hne
    rw [tracker_put_of_ne hne]
    exact alone other hne
  have hfetch {q : Page StandIn HeldCall} (alone : ∀ other, other ≠ kind → (q.scene other).tracker = {}) :
      q.fetchAll = q.put kind (q.scene kind).fetchAll := by
    have hnew (kind : ResourceKind) (s : Scene StandIn kind.Options HeldCall) (hs : s.tracker = {}) :
        s.fetchAll = s := by obtain ⟨session, tracker, log⟩ := s; cases hs; rfl
    have hne : ResourceKind.script ≠ .stylesheet := nofun
    exact put_put_of_alone alone hnew hne
  have hpump {q : Page StandIn HeldCall} (alone : ∀ other, other ≠ kind → (q.scene other).tracker = {}) :
      q.pumpAll = q.put kind (q.scene kind).pumpAll := by
    have hnew (kind : ResourceKind) (s : Scene StandIn kind.Options HeldCall) (hs : s.tracker = {}) :
        s.pumpAll = s := by obtain ⟨session, tracker, log⟩ := s; cases hs; rfl
    have hne : ResourceKind.script ≠ .stylesheet := nofun
    rw [Page.pumpAll]
    split
    · exact put_put_of_alone alone hnew hne.symm
    · exact put_put_of_alone alone hnew hne
  rw [Page.settle, hfetch alone, hpump (hkept alone), put_put, scene_put, hfetch (hkept alone), put_put, scene_put]
  rfl

theorem Agree.settle (h : Agree kind p q) : Agree kind p.settle q.settle ∧ Settled (q.settle.scene kind) := by
  have hall := h.fetchAll.pumpAll.fetchAll
  simp only [scene_put, put_put] at hall
  rw [settle_of_alone h.alone, scene_put]
  exact ⟨hall, settled_settle h.solo⟩

/-- Nothing happens to a page at rest when what can proceed proceeds. -/
theorem Agree.settle_left (h : Agree kind p q) (settled : Settled (q.scene kind)) : Agree kind p.settle q := by
  have hrest : (q.scene kind).settle = q.scene kind := by
    rw [Scene.settle, settled.fetchAll, settled.pumpAll h.solo, settled.fetchAll]
  have hsettled := h.settle.1
  rwa [settle_of_alone h.alone, hrest, put_self] at hsettled

theorem Agree.issue (h : Agree kind p q) (fits : p.session.Fits) {op : Operation}
    (hop : op.kind = kind) : (op.issue p).1 = (op.issue q).1 ∧ Agree kind (op.issue p).2 (op.issue q).2 := by
  subst hop
  have hfresh := h.tidy.fresh fits op.kind
  rw [← session_scene p op.kind] at hfresh
  obtain ⟨m, hmoves, hpaid⟩ := op.moves_launch (h.tidy.among op.kind) hfresh
  obtain ⟨n, hmoves', -⟩ := op.moves_launch h.solo nofun
  obtain ⟨hresult, halike⟩ := op.launch_alike h.alike
  rw [session_scene] at hpaid
  rw [op.issue_eq, op.issue_eq]
  exact ⟨hresult, h.put hmoves hpaid hmoves' halike⟩

theorem Agree.issue_other (h : Agree kind p q) (fits : p.session.Fits) {op : Operation}
    (hop : op.kind ≠ kind) : Agree kind (op.issue p).2 q := by
  have hfresh := h.tidy.fresh fits op.kind
  rw [← session_scene p op.kind] at hfresh
  obtain ⟨m, hmoves, hpaid⟩ := op.moves_launch (h.tidy.among op.kind) hfresh
  have hcontinues := op.continues_launch (p.scene op.kind)
  rw [session_scene] at hpaid hcontinues
  rw [op.issue_eq]
  exact h.put_other hop hmoves hpaid hcontinues

/-- Calls that cannot be told apart and have both come to rest. -/
structure Agreed (kind : ResourceKind) (c d : Call) : Prop where
  result : c.1 = d.1
  agree : Agree kind c.2 d.2
  settled : Settled (d.2.scene kind)

theorem Agree.resume (h : Agree kind p q) (r : Option Outcome) {op : Operation} (hop : op.kind = kind) :
    (op.resume (r, p)).1 = (op.resume (r, q)).1 ∧ Agree kind (op.resume (r, p)).2 (op.resume (r, q)).2 := by
  subst hop
  cases r with
  | none =>
    rw [Operation.resume, Operation.resume, op.advance_eq, op.advance_eq]
    exact ⟨h.alike.advance.1, h.steady steady_advance⟩
  | some outcome => exact ⟨rfl, h⟩

theorem Agree.resume_other (h : Agree kind p q) (r : Option Outcome) {op : Operation} (hop : op.kind ≠ kind) :
    Agree kind (op.resume (r, p)).2 q := by
  cases r with
  | none =>
    rw [Operation.resume, op.advance_eq]
    exact h.steady_other hop steady_advance
  | some outcome => exact h

theorem Agreed.during {c d : Call} (h : Agreed kind c d) {op : Operation} (hop : op.kind = kind) (t : Touch) :
    Agreed kind (op.during c t) (op.during d t) := by
  obtain ⟨hresult, hagree⟩ := (h.agree.touch t).resume c.1 hop
  obtain ⟨hsettled, hrest⟩ := hagree.settle
  rw [Operation.during, Operation.during, ← h.result]
  exact ⟨hresult, hsettled, hrest⟩

theorem Agreed.finish {c d : Call} (h : Agreed kind c d) {op : Operation} (hop : op.kind = kind) :
    Agreed kind (op.finish c) (op.finish d) := by
  subst hop
  obtain ⟨hresult, hagree, hsettled⟩ := h
  obtain ⟨_ | outcome, p⟩ := c <;> obtain ⟨_ | outcome', q⟩ := d <;> cases hresult
  · obtain ⟨hagree, hrest⟩ := (hagree.steady steady_abandon).settle
    exact ⟨rfl, hagree, hrest⟩
  · exact ⟨rfl, hagree, hsettled⟩

theorem Agree.underway (h : Agree kind p q) (fits : p.session.Fits) {op : Operation} (hop : op.kind = kind)
    (meanwhile : List Touch) : Agreed kind (op.underway p meanwhile) (op.underway q meanwhile) := by
  obtain ⟨hresult, hissued⟩ := h.issue fits hop
  obtain ⟨hagree, hsettled⟩ := hissued.settle
  have hall {c d : Call} (h : Agreed kind c d) :
      Agreed kind (meanwhile.foldl op.during c) (meanwhile.foldl op.during d) := by
    induction meanwhile generalizing c d with
    | nil => exact h
    | cons t ts ih => exact ih (h.during hop t)
  exact hall (c := ((op.issue p).1, (op.issue p).2.settle)) ⟨hresult, hagree, hsettled⟩

theorem Agree.carryOut (h : Agree kind p q) (fits : p.session.Fits) {op : Operation} (hop : op.kind = kind)
    (meanwhile : List Touch) : Agreed kind (op.carryOut p meanwhile) (op.carryOut q meanwhile) :=
  (h.underway fits hop meanwhile).finish hop

theorem Agree.touched (h : Agree kind p q) (t : Touch) :
    Agree kind (p.touched t) (q.touched t) ∧ Settled ((q.touched t).scene kind) :=
  (h.touch t).settle

/-- To the tracker of the kind a call of the other one is nothing but what is done to the stand-in meanwhile. -/
theorem Agree.underway_other (h : Agree kind p q) (settled : Settled (q.scene kind)) (fits : p.session.Fits)
    {op : Operation} (hop : op.kind ≠ kind) (meanwhile : List Touch) :
    Agree kind (op.underway p meanwhile).2 (meanwhile.foldl Page.touched q) ∧
      Settled ((meanwhile.foldl Page.touched q).scene kind) := by
  have hall {c : Call} {q : Page StandIn HeldCall} (h : Agree kind c.2 q) (settled : Settled (q.scene kind)) :
      Agree kind (meanwhile.foldl op.during c).2 (meanwhile.foldl Page.touched q) ∧
        Settled ((meanwhile.foldl Page.touched q).scene kind) := by
    induction meanwhile generalizing c q with
    | nil => exact ⟨h, settled⟩
    | cons t ts ih =>
      -- Both settle behind each touch; between, the call is polled on one page alone.
      have hresumed := (h.touch t).resume_other c.1 hop
      obtain ⟨hagree, hrest⟩ := hresumed.settle
      exact ih hagree hrest
  have hissued := (h.issue_other fits hop).settle_left settled
  exact hall (c := ((op.issue p).1, (op.issue p).2.settle)) hissued settled

theorem Agree.finish_other {c : Call} (h : Agree kind c.2 q) (settled : Settled (q.scene kind)) {op : Operation}
    (hop : op.kind ≠ kind) : Agree kind (op.finish c).2 q := by
  obtain ⟨_ | outcome, p⟩ := c
  · exact (h.steady_other hop steady_abandon).settle_left settled
  · exact h

theorem history_put (kind : ResourceKind) {t : Scene StandIn kind.Options HeldCall}
    (h : (p.scene kind).session.Continues t.session) :
    p.session.history.length ≤ (p.put kind t).session.history.length := by
  rw [session_put, ← session_scene p kind]
  exact h.history

theorem history_settle (p : Page StandIn HeldCall) : p.session.history.length ≤ p.settle.session.history.length := by
  have hfetch (p : Page StandIn HeldCall) : p.session.history.length ≤ p.fetchAll.session.history.length :=
    Nat.le_trans (history_put .script (continues_fetchAll _))
      (history_put .stylesheet (continues_fetchAll _))
  have hpump (p : Page StandIn HeldCall) : p.session.history.length ≤ p.pumpAll.session.history.length := by
    rw [Page.pumpAll]
    split
    · exact Nat.le_trans (history_put .stylesheet (continues_pumpAll _))
        (history_put .script (continues_pumpAll _))
    · exact Nat.le_trans (history_put .script (continues_pumpAll _))
        (history_put .stylesheet (continues_pumpAll _))
  exact Nat.le_trans (hfetch p) (Nat.le_trans (hpump _) (hfetch _))

theorem history_during (op : Operation) (c : Call) (t : Touch) :
    c.2.session.history.length ≤ (op.during c t).2.session.history.length := by
  have htouch : c.2.session.history.length ≤ (c.2.touch t).session.history.length := c.2.session.history_touch t
  have hresume (r : Option Outcome) (p : Page StandIn HeldCall) :
      p.session.history.length ≤ (op.resume (r, p)).2.session.history.length := by
    cases r with
    | none =>
      rw [Operation.resume, op.advance_eq]
      exact history_put op.kind (continues_advance _)
    | some outcome => exact Nat.le_refl _
  exact Nat.le_trans htouch (Nat.le_trans (hresume c.1 _) (history_settle _))

theorem history_underway (op : Operation) (p : Page StandIn HeldCall) (meanwhile : List Touch) :
    p.session.history.length ≤ (op.underway p meanwhile).2.session.history.length := by
  have hissue : p.session.history.length ≤ (op.issue p).2.session.history.length := by
    rw [op.issue_eq]
    exact history_put op.kind (op.continues_launch _)
  have hall (c : Call) : c.2.session.history.length ≤
      (meanwhile.foldl op.during c).2.session.history.length := by
    induction meanwhile generalizing c with
    | nil => exact Nat.le_refl _
    | cons t ts ih => exact Nat.le_trans (history_during op c t) (ih _)
  have hsettled := Nat.le_trans hissue (history_settle _)
  exact Nat.le_trans hsettled (hall ((op.issue p).1, _))

theorem history_finish (op : Operation) (c : Call) :
    c.2.session.history.length ≤ (op.finish c).2.session.history.length := by
  obtain ⟨_ | outcome, r⟩ := c
  · exact Nat.le_trans (history_put op.kind (continues_abandon _)) (history_settle _)
  · exact Nat.le_refl _

theorem Played.history_perform (s : Played) (a : Act) :
    s.page.session.history.length ≤ (s.perform a).page.session.history.length := by
  cases a with
  | call op meanwhile => exact Nat.le_trans (history_underway op s.page meanwhile) (history_finish op _)
  | touch t =>
    have htouch : s.page.session.history.length ≤ (s.page.touch t).session.history.length :=
      s.page.session.history_touch t
    exact Nat.le_trans htouch (history_settle _)

theorem play_touches (ts : List Touch) (h : List Act) :
    play (ts.reverse.map .touch ++ h) = ⟨ts.foldl Page.touched (play h).page, (play h).results⟩ := by
  induction ts generalizing h with
  | nil => rfl
  | cons t ts ih =>
    have hnext := ih (.touch t :: h)
    rw [List.reverse_cons, List.map_append, List.append_assoc]
    exact hnext

theorem agree_new (kind : ResourceKind) : Agree kind { session := {} } { session := {} } where
  tidy := tidy_new
  solo := by
    have hamong := tidy_new.among kind
    cases kind <;> exact hamong
  alone other _ := by cases other <;> rfl
  alike := .refl _

/-- States of a run and of the one without the other calls, which calls of the kind cannot tell apart. -/
structure Even (kind : ResourceKind) (s t : Played) : Prop where
  agree : Agree kind s.page t.page
  settled : Settled (t.page.scene kind)
  results : s.results.filter (·.1.kind = kind) = t.results

variable {s t : Played} {op : Operation}

theorem Even.call (h : Even kind s t) (hop : op.kind = kind) {c d : Call} (agreed : Agreed kind c d) :
    Even kind ⟨c.2, (op, c.1) :: s.results⟩ ⟨d.2, (op, d.1) :: t.results⟩ := by
  refine ⟨agreed.agree, agreed.settled, ?_⟩
  rw [List.filter_cons_of_pos (by simpa using hop), agreed.result, h.results]

theorem Even.call_other (h : Even kind s t) (hop : op.kind ≠ kind) {c : Call} (agree : Agree kind c.2 q)
    (settled : Settled (q.scene kind)) : Even kind ⟨c.2, (op, c.1) :: s.results⟩ ⟨q, t.results⟩ := by
  refine ⟨agree, settled, ?_⟩
  rw [List.filter_cons_of_neg (by simpa using hop), h.results]

theorem even_play (kind : ResourceKind) (h : List Act) (fits : (play h).page.session.Fits) :
    Even kind (play h) (play (only kind h)) := by
  induction h with
  | nil =>
    refine ⟨agree_new kind, ?_, rfl⟩
    cases kind <;> exact ⟨nofun, nofun⟩
  | cons a h ih =>
    -- The history only grows, so it fitted before the latest act too.
    have hfits := fits.of_le ((play h).history_perform a)
    have heven := ih hfits
    cases a with
    | touch t =>
      obtain ⟨hagree, hsettled⟩ := heven.agree.touched t
      exact ⟨hagree, hsettled, heven.results⟩
    | call op meanwhile =>
      by_cases hop : op.kind = kind
      · rw [only, if_pos hop]
        exact heven.call hop (heven.agree.carryOut hfits hop meanwhile)
      · obtain ⟨hagree, hsettled⟩ := heven.agree.underway_other heven.settled hfits hop meanwhile
        rw [only, if_neg hop, play_touches]
        exact heven.call_other hop (hagree.finish_other hsettled hop) hsettled

theorem even_state (kind : ResourceKind) (m : Moment) (fits : m.state.page.session.Fits) :
    Even kind m.state (m.only kind).state := by
  cases m with
  | after h => exact even_play kind h fits
  | within op meanwhile h =>
    have hfits : (play h).page.session.Fits := fits.of_le (history_underway op _ meanwhile)
    have heven := even_play kind h hfits
    by_cases hop : op.kind = kind
    · rw [Moment.only, if_pos hop]
      exact heven.call hop (heven.agree.underway hfits hop meanwhile)
    · obtain ⟨hagree, hsettled⟩ := heven.agree.underway_other heven.settled hfits hop meanwhile
      rw [Moment.only, if_neg hop, Moment.state, Moment.state, play_touches]
      exact heven.call_other hop hagree hsettled

/-- The trackers of a page do not interfere. Without the calls of one kind, at every moment of a run, all calls of
the other kind have come to the same results, errors and entries, and its tracker is enabled or not, has its
options, its number of resources and its registration listener as before. -/
theorem state_only (kind : ResourceKind) (m : Moment) (fits : m.state.page.session.Fits) :
    m.state.results.filter (·.1.kind = kind) = (m.only kind).state.results ∧
      (m.state.page.scene kind).tracker.isEnabled = ((m.only kind).state.page.scene kind).tracker.isEnabled ∧
      (m.state.page.scene kind).tracker.options? = ((m.only kind).state.page.scene kind).tracker.options? ∧
      (m.state.page.scene kind).tracker.resourceCount =
        ((m.only kind).state.page.scene kind).tracker.resourceCount ∧
      m.state.page.session.router.listenerCount (Strategy.registrationEvent kind.Options) =
        (m.only kind).state.page.session.router.listenerCount (Strategy.registrationEvent kind.Options) := by
  obtain ⟨hagree, -, hresults⟩ := even_state kind m fits
  have halike := hagree.alike
  refine ⟨hresults, halike.isEnabled, halike.options?, ?_, ?_⟩
  · rw [Tracker.resourceCount, halike.cache]
    rfl
  · have hlistening : (m.state.page.scene kind).tracker.isListening =
        ((m.only kind).state.page.scene kind).tracker.isListening := by
      rw [isListening_eq, isListening_eq, halike.attached_iff]
    have hsolo := hagree.solo.listenerCount (Strategy.registrationEvent kind.Options)
    rw [session_scene, ← hlistening] at hsolo
    rw [hagree.tidy.listenerCount_registration, hsolo]
    cases kind <;> cases (m.state.page.scene _).tracker.isListening <;> rfl

/-- A stop of the stylesheets that waits while a script is announced does not show in the scripts' entries. -/
theorem state_only_of_held_stop :
    let announced : Value := .object [("scriptId", .text "1"), ("url", .text "a.js")]
    let m : Moment := .after
      [.call .stopScripts [], .call .stopStylesheets [.emit Event.scriptParsed announced, .openGate 0],
        .touch (.hold Method.stopRuleUsageTracking none), .touch (.addScript "1" "f()"),
        .touch (.respond Method.takePreciseCoverage (.fixed (.object [("result", .list [])]))),
        .call (.startStylesheets {}) [], .call (.startScripts {}) []]
    m.state.page.session.Fits ∧
      m.state.results.filter (·.1.kind = .script) = (m.only .script).state.results := by
  intro announced m
  have fits : m.state.page.session.Fits := by decide
  exact ⟨fits, (state_only .script m fits).1⟩

end Page

end PageCoverage
