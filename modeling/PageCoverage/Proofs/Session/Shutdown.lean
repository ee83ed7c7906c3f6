import PageCoverage.Proofs.Session.Correlation
import Mathlib.Logic.Relation

namespace PageCoverage

theorem lookup_withoutKey {α : Type} (id key : UInt64) (table : List (UInt64 × α)) :
    (withoutKey id table).lookup key = if key = id then none else table.lookup key := by
  induction table with
  | nil => simp [withoutKey]
  | cons entry table ih =>
    obtain ⟨k, a⟩ := entry
    by_cases hk : k = id
    · have hdrop : withoutKey id ((k, a) :: table) = withoutKey id table := by simp [withoutKey, hk]
      rw [hdrop, ih, List.lookup_cons]
      by_cases hkey : key = id
      · simp [hkey]
      · have hne : (key == k) = false := by simpa [hk] using hkey
        simp [hkey, hne]
    · have hkeep : withoutKey id ((k, a) :: table) = (k, a) :: withoutKey id table := by
        simp [withoutKey, hk]
      rw [hkeep, List.lookup_cons, List.lookup_cons, ih]
      by_cases hkey : key = k
      · simp [hkey, hk]
      · have hne : (key == k) = false := by simpa using hkey
        simp [hne]

namespace Socket

variable {acting : SocketCall → Prop} {s t u : Socket}

/-- One thing that happens on a socket behind its end. Commands are still sent, events subscribed to and
subscriptions released, and what waits to be written is written. Some callers, those of the calls in
`acting`, look for their answers or give up. -/
inductive Behind (acting : SocketCall → Prop) : Socket → Socket → Prop where
  | send (s : Socket) (c : Command) : Behind acting s (s.send c).2
  | poll (s : Socket) {call : SocketCall} : acting call → Behind acting s (s.poll call).2
  | cancel (s : Socket) {call : SocketCall} : acting call → Behind acting s (s.cancel call)
  | subscribe {s t : Socket} {event : String} {sink : SinkId} {sub : Subscription} :
    Session.subscribe s event sink = .ok (sub, t) → Behind acting s t
  | release (s : Socket) (sub : Subscription) : Behind acting s (Session.release s sub)
  | openSink (s : Socket) : Behind acting s (Session.openSink s).2
  | closeSink (s : Socket) (k : SinkId) : Behind acting s (Session.closeSink s k)
  | close (s : Socket) : Behind acting s s.close
  | flush (s : Socket) : Behind acting s s.flush.2

/-- Nothing goes on on a socket, and nothing can begin: commands fail without being queued, and nobody can
listen. -/
structure Ended (t : Socket) : Prop where
  closed : t.isClosed = true
  pending : t.pending = []
  listeners : t.router.listeners = []
  send : ∀ c, ((t.send c).2.poll (t.send c).1).1 = .finished (.error .connectionClosed) ∧
    (t.send c).2.outbox = t.outbox
  subscribe : ∀ event sink, Session.subscribe t event sink = .error .connectionClosed

/-- The socket stays as closed as it is, and of the answers that have come only those are gone whose callers
have acted. -/
structure Quiet (acting : SocketCall → Prop) (s t : Socket) : Prop where
  closed : t.isClosed = true
  pending : t.pending = []
  listeners : t.router.listeners = []
  none : ∀ id, s.answers.lookup id = none → t.answers.lookup id = none
  kept : ∀ id, ¬acting (.sent id) → t.answers.lookup id = s.answers.lookup id

theorem send_of_closed (closed : t.isClosed = true) (c : Command) :
    t.send c = (.refused, { t with nextId := t.nextId + 1 }) := by
  have hrefused : (t.isClosed || t.wire == .broken) = true := by simp [closed]
  exact if_pos hrefused

theorem subscribe_of_closed (closed : t.isClosed = true) (event : String) (sink : SinkId) :
    Session.subscribe t event sink = .error .connectionClosed := by
  have hrefusal : Session.refusal? t event = some .connectionClosed := if_pos closed
  simp only [Session.subscribe, hrefusal]

theorem Quiet.ended (q : Quiet acting s t) : t.Ended := by
  refine ⟨q.closed, q.pending, q.listeners, fun c => ?_, subscribe_of_closed q.closed⟩
  rw [send_of_closed q.closed c]
  exact ⟨rfl, rfl⟩

theorem quiet_finish (s : Socket) (e : Ending) : Quiet acting s (s.finish e) := by
  cases e <;> exact ⟨rfl, rfl, rfl, fun _ => id, fun _ _ => rfl⟩

/-- A step that leaves the answers alone. -/
theorem Quiet.of_answers (q : Quiet acting s t) (closed : u.isClosed = t.isClosed)
    (pending : u.pending = t.pending) (listeners : u.router.listeners = [])
    (answers : u.answers = t.answers) : Quiet acting s u where
  closed := closed.trans q.closed
  pending := pending.trans q.pending
  listeners := listeners
  none := answers ▸ q.none
  kept := answers ▸ q.kept

/-- A caller that acts takes at most its own answer away. -/
theorem Quiet.forget (q : Quiet acting s t) {id : UInt64} (acts : acting (.sent id))
    (closed : u.isClosed = t.isClosed) (pending : u.pending = [])
    (router : u.router = t.router) (answers : u.answers = withoutKey id t.answers) :
    Quiet acting s u where
  closed := closed.trans q.closed
  pending := pending
  listeners := router ▸ q.listeners
  none key hnone := by
    rw [answers, lookup_withoutKey]
    split
    · rfl
    · exact q.none key hnone
  kept key hkey := by
    have hne : key ≠ id := by
      rintro rfl
      exact hkey acts
    rw [answers, lookup_withoutKey, if_neg hne]
    exact q.kept key hkey

theorem Quiet.poll (q : Quiet acting s t) {call : SocketCall} (acts : acting call) :
    Quiet acting s (t.poll call).2 := by
  cases call with
  | refused => exact q
  | sent id =>
    simp only [Socket.poll]
    split
    · exact q.forget acts rfl q.pending rfl rfl
    · split <;> exact q

theorem Quiet.cancel (q : Quiet acting s t) {call : SocketCall} (acts : acting call) :
    Quiet acting s (t.cancel call) := by
  cases call with
  | refused => exact q
  | sent id =>
    refine q.forget acts rfl ?_ rfl rfl
    have hpending : (t.cancel (.sent id)).pending = withoutKey id t.pending := rfl
    rw [hpending, q.pending]
    rfl

theorem write_frame (s : Socket) (o : Outgoing) :
    (s.write o).2.isClosed = s.isClosed ∧ (s.write o).2.router = s.router := by
  simp only [write]
  split <;> exact ⟨rfl, rfl⟩

theorem Quiet.flush (q : Quiet acting s t) : Quiet acting s t.flush.2 := by
  unfold Socket.flush
  refine List.foldlRecOn (motive := fun acc : List (UInt64 × Command) × Socket => Quiet acting s acc.2)
    t.outbox _ ?_ fun acc hacc o _ => ?_
  · exact q.of_answers rfl rfl q.listeners rfl
  · obtain ⟨-, hpending, hanswers⟩ := write_keeps acc.2 o
    obtain ⟨hclosed, hrouter⟩ := write_frame acc.2 o
    exact hacc.of_answers hclosed hpending (hrouter ▸ hacc.listeners) hanswers

theorem Quiet.step (q : Quiet acting s t) (step : Behind acting t u) : Quiet acting s u := by
  cases step with
  | send c =>
    rw [send_of_closed q.closed c]
    exact q.of_answers rfl rfl q.listeners rfl
  | poll acts => exact q.poll acts
  | cancel acts => exact q.cancel acts
  | subscribe h =>
    rw [subscribe_of_closed q.closed] at h
    cases h
  | release sub =>
    have hlisteners : (t.router.release sub).listeners = [] := by simp [Router.release, q.listeners]
    exact q.of_answers rfl rfl hlisteners rfl
  | openSink => exact q.of_answers rfl rfl q.listeners rfl
  | closeSink k => exact q.of_answers rfl rfl q.listeners rfl
  | close =>
    unfold Socket.close
    split
    · exact q
    · exact q.of_answers rfl rfl q.listeners rfl
  | flush => exact q.flush

theorem Quiet.steps (q : Quiet acting s t) (steps : Relation.ReflTransGen (Behind acting) t u) :
    Quiet acting s u := by
  induction steps with
  | refl => exact q
  | tail _ step ih => exact ih.step step

/-- A call is through if its answer has come or nobody waits for it. -/
theorem poll_of_quiet (q : Quiet acting s t) (id : UInt64) :
    (t.poll (.sent id)).1 =
      (t.answers.lookup id).elim (.finished (.error .connectionClosed)) .finished := by
  simp only [Socket.poll, q.pending]
  cases t.answers.lookup id <;> rfl

theorem answers_of_waiting {call waiting : SocketCall} (h : (s.poll call).1 = .waiting waiting) :
    ∃ id, call = .sent id ∧ s.answers.lookup id = none := by
  cases call with
  | refused => cases h
  | sent id =>
    refine ⟨id, rfl, ?_⟩
    simp only [Socket.poll] at h
    split at h
    · cases h
    next hnone => exact hnone

/-- However a connection ends, it has ended for good. Every call that waited fails with the connection,
whenever its caller looks, and a call that was through keeps its outcome until its caller acts. -/
theorem finish_is_final (s : Socket) (e : Ending) (acting : SocketCall → Prop) {t : Socket}
    (behind : Relation.ReflTransGen (Behind acting) (s.finish e) t) :
    t.Ended ∧
    (∀ call waiting, (s.poll call).1 = .waiting waiting →
      (t.poll call).1 = .finished (.error .connectionClosed)) ∧
    ∀ call r, (s.poll call).1 = .finished r → ¬acting call → (t.poll call).1 = .finished r := by
  -- What a caller finds behind the end depends on the answers alone, and `Quiet` says which of them are left.
  have q : Quiet acting s t := (quiet_finish s e).steps behind
  refine ⟨q.ended, ?_, ?_⟩
  · intro call waiting hwaiting
    obtain ⟨id, rfl, hnone⟩ := answers_of_waiting hwaiting
    rw [poll_of_quiet q, q.none id hnone]
    rfl
  · intro call r hfinished hacting
    cases call with
    | refused => exact hfinished
    | sent id =>
      rw [poll_of_quiet q, q.kept id hacting]
      simp only [Socket.poll] at hfinished
      split at hfinished
      next answer hanswer =>
        rw [hanswer]
        exact hfinished
      next hnone =>
        rw [hnone]
        split at hfinished
        · cases hfinished
        · exact hfinished

/-- Of two calls the first was answered when the connection was lost. Behind that a third command is sent and
refused, and a subscription released. -/
theorem finish_is_final_of_lost :
    let c : Command := { method := Method.profilerEnable }
    let s := ((({} : Socket).send c).2.send c).2.resolve 1 ⟨some 1, none, .null, some (.bool true), none⟩
    let t := Session.release (((s.finish (.lost "reset")).send c).2.poll .refused).2 ⟨Event.scriptParsed, 0⟩
    Relation.ReflTransGen (Behind (· = .refused)) (s.finish (.lost "reset")) t ∧
    ((s.poll (.sent 2)).1 = .waiting (.sent 2) ∧ (s.poll (.sent 1)).1 = .finished (.ok (.bool true))) ∧
    t.Ended ∧ (t.poll (.sent 2)).1 = .finished (.error .connectionClosed) ∧
    (t.poll (.sent 1)).1 = .finished (.ok (.bool true)) := by
  intro c s t
  have behind : Relation.ReflTransGen (Behind (· = .refused)) (s.finish (.lost "reset")) t := by
    refine .tail (.tail (.single (.send _ c)) (.poll _ ?_)) (.release _ _)
    rfl
  obtain ⟨ended, waiting, kept⟩ := finish_is_final s (.lost "reset") (· = .refused) behind
  exact ⟨behind, ⟨rfl, rfl⟩, ended, waiting _ _ rfl, kept _ _ rfl (by simp)⟩

end Socket

end PageCoverage
