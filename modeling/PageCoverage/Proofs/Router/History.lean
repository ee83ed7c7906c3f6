import PageCoverage.Proofs.Router.Delivery

namespace PageCoverage

namespace Router

/-- Something done to a router. Handles are known by the order in which they were given out. -/
inductive Act where
  | openSink
  | subscribe (event : String) (sink : SinkId)
  | release (handle : Nat)
  | dispatch (e : Event)
  | clear
  | closeSink (sink : SinkId)
  /-- The owner of a sink takes the oldest event out of it. -/
  | take (sink : SinkId)

/-- A router, the handles that it has given out, and the events that have been taken out of sinks. -/
structure Served where
  router : Router := {}
  handles : List Subscription := []
  taken : List (SinkId × Event) := []

def Served.takenFrom (s : Served) (k : SinkId) : List Event := (s.taken.filter (·.1 == k)).map Prod.snd

def Served.perform (s : Served) : Act → Served
  | .openSink => { s with router := s.router.openSink.2 }
  | .subscribe event k =>
    { s with router := (s.router.subscribe event k).2, handles := s.handles ++ [(s.router.subscribe event k).1] }
  | .release i => { s with router := (s.handles[i]?).elim s.router s.router.release }
  | .dispatch e => { s with router := (s.router.dispatch e).2 }
  | .clear => { s with router := s.router.clear }
  | .closeSink k => { s with router := s.router.closeSink k }
  | .take k =>
    { s with router := (s.router.take k).2, taken := s.taken ++ (s.router.take k).1.toList.map fun e => (k, e) }

/-- A new router after a history, which has the latest act first. -/
def run : List Act → Served
  | [] => {}
  | a :: h => (run h).perform a

/-- A subscription: its place among all of them, the event and the sink. -/
structure Ticket where
  number : Nat
  event : String
  sink : SinkId
  deriving DecidableEq

namespace Act

def opened : List Act → Nat
  | [] => 0
  | .openSink :: h => opened h + 1
  | _ :: h => opened h

/-- A sink is open from its opening until it is closed. -/
def isOpen (k : SinkId) : List Act → Bool
  | [] => false
  | .openSink :: h => isOpen k h || opened h == k
  | .closeSink j :: h => isOpen k h && j != k
  | _ :: h => isOpen k h

/-- The subscriptions that have been made, in order. -/
def tickets : List Act → List Ticket
  | [] => []
  | .subscribe event k :: h => tickets h ++ [⟨(tickets h).length, event, k⟩]
  | _ :: h => tickets h

/-- What ends a listener behind a history: the release of its own handle, a clear, and a dispatch of its event
that finds its sink closed. -/
def ends (t : Ticket) (h : List Act) : Act → Bool
  | .release i => i == t.number
  | .clear => true
  | .dispatch e => e.method == t.event && !isOpen t.sink h
  | _ => false

/-- A listener is live from its subscription until an act ends it. -/
def isLive (t : Ticket) : List Act → Bool
  | [] => false
  | .subscribe event k :: h => isLive t h || t == ⟨(tickets h).length, event, k⟩
  | a :: h => isLive t h && !ends t h a

def live (h : List Act) : List Ticket := (tickets h).filter (isLive · h)

/-- The events that a sink has received: while it is open, every dispatched event once for each listener of
its name that is live then. -/
def delivered (k : SinkId) : List Act → List Event
  | [] => []
  | .dispatch e :: h =>
    delivered k h ++
      (if isOpen k h then List.replicate ((live h).countP fun t => t.event == e.method && t.sink == k) e else [])
  | _ :: h => delivered k h

end Act

def Ticket.handle (t : Ticket) : Subscription := ⟨t.event, UInt64.ofNat t.number⟩

def Ticket.listener (t : Ticket) : Listener := ⟨t.event, UInt64.ofNat t.number, t.sink⟩

namespace Act

theorem number_of_getElem? {h : List Act} {i : Nat} {t : Ticket} (hi : (tickets h)[i]? = some t) :
    t.number = i := by
  induction h with
  | nil => simp [tickets] at hi
  | cons a h ih =>
    cases a with
    | subscribe event k =>
      rw [tickets, List.getElem?_append] at hi
      split at hi
      · exact ih hi
      · next hlt =>
        obtain ⟨hlen, ht⟩ := List.getElem?_eq_some_iff.mp hi
        simp only [List.length_singleton] at hlen
        have hzero : i = (tickets h).length := by omega
        subst hzero
        simp only [Nat.sub_self, List.getElem_cons_zero] at ht
        rw [← ht]
    | _ => exact ih hi

theorem number_lt {h : List Act} {t : Ticket} (ht : t ∈ tickets h) : t.number < (tickets h).length := by
  obtain ⟨i, hi⟩ := List.mem_iff_getElem?.mp ht
  rw [number_of_getElem? hi]
  exact (List.getElem?_eq_some_iff.mp hi).1

theorem mem_tickets_of_mem_live {h : List Act} {t : Ticket} (ht : t ∈ live h) : t ∈ tickets h :=
  List.mem_of_mem_filter ht

/-- With a subscription a listener becomes live behind the others. -/
theorem live_subscribe (h : List Act) (event : String) (k : SinkId) :
    live (.subscribe event k :: h) = live h ++ [⟨(tickets h).length, event, k⟩] := by
  have hold : (tickets h).filter (isLive · (.subscribe event k :: h)) = live h := by
    refine List.filter_congr fun t ht => ?_
    have hne : t ≠ ⟨(tickets h).length, event, k⟩ := by
      rintro rfl
      exact Nat.lt_irrefl _ (number_lt ht)
    simp [isLive, hne]
  rw [live, tickets, List.filter_append, hold]
  simp [isLive]

/-- Any other act leaves the listeners that it does not end. -/
theorem live_cons {h : List Act} {a : Act} (ha : ∀ event k, a ≠ .subscribe event k) :
    live (a :: h) = (live h).filter fun t => !ends t h a := by
  have htickets : tickets (a :: h) = tickets h := by
    cases a with
    | subscribe event k => exact absurd rfl (ha event k)
    | _ => rfl
  have hlive (t : Ticket) : isLive t (a :: h) = (!ends t h a && isLive t h) := by
    cases a with
    | subscribe event k => exact absurd rfl (ha event k)
    | _ => exact Bool.and_comm _ _
  rw [live, htickets, live, List.filter_filter]
  exact List.filter_congr fun t _ => hlive t

theorem live_of_ends_none {h : List Act} {a : Act} (ha : ∀ event k, a ≠ .subscribe event k)
    (hends : ∀ t, ends t h a = false) : live (a :: h) = live h := by
  rw [live_cons ha, List.filter_eq_self]
  simp [hends]

end Act

open Act

/-- A router that its history accounts for. -/
structure Follows (h : List Act) (s : Served) : Prop where
  nextId : s.router.nextId = UInt64.ofNat (tickets h).length
  opened : s.router.sinks.length = Act.opened h
  isOpen : ∀ k, s.router.isOpen k = Act.isOpen k h
  handles : s.handles = (tickets h).map Ticket.handle
  listeners : s.router.listeners = (live h).map Ticket.listener
  received : ∀ k, Act.isOpen k h = true → s.takenFrom k ++ s.router.queue k = delivered k h
  closed : ∀ k, Act.isOpen k h = false → s.router.queue k = []
  unopened : ∀ k, Act.opened h ≤ k → s.takenFrom k = [] ∧ delivered k h = []

theorem follows_nil : Follows [] {} where
  nextId := rfl
  opened := rfl
  isOpen _ := rfl
  handles := rfl
  listeners := rfl
  received _ hk := by simp [Act.isOpen] at hk
  closed _ _ := rfl
  unopened _ _ := ⟨rfl, rfl⟩

section Follows

variable {h : List Act} {s : Served}

theorem Follows.not_isOpen (f : Follows h s) {k : SinkId} (hk : Act.opened h ≤ k) :
    Act.isOpen k h = false := by
  rw [← f.isOpen, Router.isOpen, List.getElem?_eq_none (f.opened.symm ▸ hk)]
  rfl

theorem Follows.openSink (f : Follows h s) : Follows (.openSink :: h) (s.perform .openSink) := by
  have hlive : live (.openSink :: h) = live h := live_of_ends_none (by simp) fun _ => rfl
  refine ⟨f.nextId, ?_, ?_, f.handles, hlive ▸ f.listeners, ?_, ?_, ?_⟩
  · show s.router.openSink.2.sinks.length = Act.opened h + 1
    rw [Router.openSink, List.length_append, f.opened, List.length_singleton]
  · intro k
    show s.router.openSink.2.isOpen k = _
    rw [isOpen_openSink, f.isOpen, f.opened, Act.isOpen]
  · intro k hk
    show s.takenFrom k ++ s.router.openSink.2.queue k = delivered k h
    rw [queue_openSink]
    by_cases hwas : Act.isOpen k h = true
    · exact f.received k hwas
    · -- The new sink has nothing behind it.
      have hnew : Act.opened h = k := by simpa [Act.isOpen, hwas] using hk
      obtain ⟨htaken, hdelivered⟩ := f.unopened k (Nat.le_of_eq hnew)
      rw [htaken, hdelivered, f.closed k (by simpa using hwas)]
      rfl
  · intro k hk
    show s.router.openSink.2.queue k = []
    rw [queue_openSink]
    simp only [Act.isOpen, Bool.or_eq_false_iff] at hk
    exact f.closed k hk.1
  · intro k hk
    exact f.unopened k (Nat.le_of_succ_le hk)

theorem Follows.subscribe (f : Follows h s) (event : String) (k : SinkId) :
    Follows (.subscribe event k :: h) (s.perform (.subscribe event k)) := by
  have hlength : (tickets (.subscribe event k :: h)).length = (tickets h).length + 1 := by
    rw [tickets, List.length_append, List.length_singleton]
  refine ⟨?_, f.opened, f.isOpen, ?_, ?_, f.received, f.closed, f.unopened⟩
  · show s.router.nextId + 1 = _
    rw [hlength, f.nextId, UInt64.ofNat_add]
    rfl
  · show s.handles ++ [⟨event, s.router.nextId⟩] = _
    rw [f.handles, f.nextId, tickets, List.map_append]
    rfl
  · show s.router.listeners ++ [⟨event, s.router.nextId, k⟩] = _
    rw [f.listeners, f.nextId, live_subscribe, List.map_append]
    rfl

/-- Acts that only remove listeners. -/
theorem Follows.removing (f : Follows h s) {a : Act} {ls : List Listener}
    (ha : ∀ event k, a ≠ .subscribe event k) (hopened : Act.opened (a :: h) = Act.opened h)
    (hisOpen : ∀ k, Act.isOpen k (a :: h) = Act.isOpen k h) (htickets : tickets (a :: h) = tickets h)
    (hdelivered : ∀ k, delivered k (a :: h) = delivered k h)
    (hls : ls = ((live h).filter fun t => !ends t h a).map Ticket.listener) :
    Follows (a :: h) { s with router := { s.router with listeners := ls } } where
  nextId := htickets ▸ f.nextId
  opened := hopened ▸ f.opened
  isOpen k := (f.isOpen k).trans (hisOpen k).symm
  handles := htickets ▸ f.handles
  listeners := by rw [live_cons ha, hls]
  received k hk := (hdelivered k).symm ▸ f.received k (hisOpen k ▸ hk)
  closed k hk := f.closed k (hisOpen k ▸ hk)
  unopened k hk := (hdelivered k).symm ▸ f.unopened k (hopened ▸ hk)

theorem Follows.clear (f : Follows h s) : Follows (.clear :: h) (s.perform .clear) := by
  refine f.removing (by simp) rfl (fun _ => rfl) rfl (fun _ => rfl) ?_
  simp [ends]

/-- The handle of one subscription has the id and the event of another's listener only if the two are the same. -/
theorem ends_release_of_few (few : (tickets h).length < UInt64.size) {i : Nat} {t u : Ticket}
    (hi : (tickets h)[i]? = some t) (hu : u ∈ tickets h) :
    (u.listener.event == t.handle.event && u.listener.id == t.handle.id) = ends u h (.release i) := by
  have hnumber := number_of_getElem? hi
  have ht := List.mem_of_getElem? hi
  obtain ⟨j, hj⟩ := List.mem_iff_getElem?.mp hu
  have hju := number_of_getElem? hj
  -- The id tells the number, and the number the place among the subscriptions.
  have hid : UInt64.ofNat u.number = UInt64.ofNat t.number ↔ u.number = t.number :=
    ofNat_eq_iff (Nat.lt_trans (number_lt hu) few) (Nat.lt_trans (number_lt ht) few)
  have hiff : (u.event = t.event ∧ UInt64.ofNat u.number = UInt64.ofNat t.number) ↔ i = u.number := by
    rw [hid]
    constructor
    · rintro ⟨-, heq⟩
      omega
    · intro heq
      have hji : j = i := by omega
      rw [hji, hi] at hj
      rw [Option.some.inj hj]
      exact ⟨rfl, rfl⟩
  rw [ends, Bool.eq_iff_iff, Bool.and_eq_true, beq_iff_eq, beq_iff_eq, beq_iff_eq]
  exact hiff

theorem Follows.release (f : Follows h s) (few : (tickets h).length < UInt64.size) (i : Nat) :
    Follows (.release i :: h) (s.perform (.release i)) := by
  cases hi : (tickets h)[i]? with
  | none =>
    have hhandle : s.handles[i]? = none := by rw [f.handles, List.getElem?_map, hi]; rfl
    have hsame : s.perform (.release i) = s := by simp [Served.perform, hhandle]
    have hkept : ((live h).filter fun t => !ends t h (.release i)) = live h := by
      rw [List.filter_eq_self]
      intro t ht
      have hlt := number_lt (mem_tickets_of_mem_live ht)
      have hle := List.getElem?_eq_none_iff.mp hi
      have hne : i ≠ t.number := by omega
      simp [ends, hne]
    rw [hsame]
    exact f.removing (by simp) rfl (fun _ => rfl) rfl (fun _ => rfl) (by rw [hkept, f.listeners])
  | some t =>
    have hhandle : s.handles[i]? = some t.handle := by rw [f.handles, List.getElem?_map, hi]; rfl
    have hreleased : s.perform (.release i) =
        { s with router := { s.router with listeners := (s.router.release t.handle).listeners } } := by
      simp only [Served.perform, hhandle, Option.elim_some, Router.release]
    rw [hreleased]
    refine f.removing (by simp) rfl (fun _ => rfl) rfl (fun _ => rfl) ?_
    rw [Router.release, f.listeners, List.filter_map]
    refine congrArg (List.map Ticket.listener) ?_
    refine List.filter_congr fun u hu => ?_
    exact congrArg not (ends_release_of_few few hi (mem_tickets_of_mem_live hu))

theorem Follows.countP_listeners (f : Follows h s) (p : Listener → Bool) :
    s.router.listeners.countP p = (live h).countP fun t => p t.listener := by
  rw [f.listeners, List.countP_map]
  rfl

theorem Follows.dispatch (f : Follows h s) (e : Event) :
    Follows (.dispatch e :: h) (s.perform (.dispatch e)) := by
  have hopen (k : SinkId) : (s.router.dispatch e).2.isOpen k = Act.isOpen k h := by
    rw [isOpen_dispatch, f.isOpen]
  have hqueue (k : SinkId) : (s.router.dispatch e).2.queue k = s.router.queue k ++
      (if Act.isOpen k h then
        List.replicate ((live h).countP fun t => t.event == e.method && t.sink == k) e else []) := by
    rw [queue_dispatch, feeders, List.countP_filter, f.countP_listeners, f.isOpen]
    by_cases hk : Act.isOpen k h = true <;> simp [hk, Ticket.listener]
  refine ⟨f.nextId, ?_, hopen, f.handles, ?_, ?_, ?_, ?_⟩
  · show (s.router.dispatch e).2.sinks.length = _
    rw [Router.dispatch, length_foldl_push]
    exact f.opened
  · show s.router.listeners.filter _ = _
    rw [live_cons (by simp), f.listeners, List.filter_map]
    refine congrArg (List.map Ticket.listener) ?_
    refine List.filter_congr fun t _ => ?_
    rw [ends, Bool.not_and, Bool.not_not, ← f.isOpen, Bool.beq_comm]
    rfl
  · intro k hk
    show s.takenFrom k ++ (s.router.dispatch e).2.queue k = _
    rw [hqueue, ← List.append_assoc, f.received k hk]
    rfl
  · intro k hk
    have hclosed : Act.isOpen k h = false := hk
    show (s.router.dispatch e).2.queue k = []
    rw [hqueue, f.closed k hclosed, hclosed]
    rfl
  · intro k hk
    obtain ⟨htaken, hdelivered⟩ := f.unopened k hk
    refine ⟨htaken, ?_⟩
    rw [delivered, hdelivered, f.not_isOpen hk]
    rfl

theorem Follows.closeSink (f : Follows h s) (j : SinkId) :
    Follows (.closeSink j :: h) (s.perform (.closeSink j)) := by
  have hlive : live (.closeSink j :: h) = live h := live_of_ends_none (by simp) fun _ => rfl
  refine ⟨f.nextId, ?_, ?_, f.handles, hlive ▸ f.listeners, ?_, ?_, f.unopened⟩
  · show (s.router.closeSink j).sinks.length = Act.opened h
    rw [Router.closeSink, List.length_modify]
    exact f.opened
  · intro k
    show (s.router.closeSink j).isOpen k = _
    rw [isOpen_closeSink, f.isOpen, Act.isOpen]
  · intro k hk
    simp only [Act.isOpen, Bool.and_eq_true, bne_iff_ne, ne_eq] at hk
    show s.takenFrom k ++ (s.router.closeSink j).queue k = delivered k h
    rw [queue_closeSink, if_neg hk.2]
    exact f.received k hk.1
  · intro k hk
    show (s.router.closeSink j).queue k = []
    rw [queue_closeSink]
    split
    · rfl
    · next hne =>
      simp only [Act.isOpen, Bool.and_eq_false_iff, bne_eq_false_iff_eq, hne, or_false] at hk
      exact f.closed k hk

theorem Served.takenFrom_take (s : Served) (j k : SinkId) :
    (s.perform (.take j)).takenFrom k = s.takenFrom k ++ if j = k then (s.router.take j).1.toList else [] := by
  rw [takenFrom, perform, List.filter_append, List.map_append, takenFrom]
  cases (s.router.take j).1 with
  | none => simp
  | some e => by_cases hjk : j = k <;> simp [hjk]

theorem Follows.take (f : Follows h s) (j : SinkId) : Follows (.take j :: h) (s.perform (.take j)) := by
  have hlive : live (.take j :: h) = live h := live_of_ends_none (by simp) fun _ => rfl
  obtain ⟨hnextId, hlisteners, hlength⟩ := s.router.take_frame j
  -- What leaves the sink is there among what has been taken.
  have hsame (k : SinkId) : (s.perform (.take j)).takenFrom k ++ (s.router.take j).2.queue k =
      s.takenFrom k ++ s.router.queue k := by
    rw [s.takenFrom_take, s.router.queue_take j k, List.append_assoc]
  have hempty (k : SinkId) (hk : s.router.queue k = []) :
      (s.perform (.take j)).takenFrom k = s.takenFrom k ∧ (s.router.take j).2.queue k = [] := by
    rw [s.router.queue_take j k, List.append_eq_nil_iff] at hk
    rw [s.takenFrom_take, hk.1, List.append_nil]
    exact ⟨rfl, hk.2⟩
  refine ⟨hnextId.trans f.nextId, hlength.trans f.opened, ?_, f.handles, ?_, ?_, ?_, ?_⟩
  · intro k
    exact (s.router.isOpen_take j k).trans (f.isOpen k)
  · rw [hlive]
    exact hlisteners.trans f.listeners
  · intro k hk
    exact (hsame k).trans (f.received k hk)
  · intro k hk
    exact (hempty k (f.closed k hk)).2
  · intro k hk
    obtain ⟨htaken, hdelivered⟩ := f.unopened k hk
    have hqueue := f.closed k (f.not_isOpen hk)
    exact ⟨(hempty k hqueue).1.trans htaken, hdelivered⟩

end Follows

namespace Act

theorem length_tickets_le (a : Act) (h : List Act) : (tickets h).length ≤ (tickets (a :: h)).length := by
  cases a with
  | subscribe event k =>
    rw [tickets, List.length_append]
    exact Nat.le_add_right _ _
  | _ => exact Nat.le_refl _

end Act

theorem follows_run (h : List Act) (few : (tickets h).length < UInt64.size) : Follows h (run h) := by
  induction h with
  | nil => exact follows_nil
  | cons a h ih =>
    have few := Nat.lt_of_le_of_lt (length_tickets_le a h) few
    have f := ih few
    cases a with
    | openSink => exact f.openSink
    | subscribe event k => exact f.subscribe event k
    | release i => exact f.release few i
    | dispatch e => exact f.dispatch e
    | clear => exact f.clear
    | closeSink k => exact f.closeSink k
    | take k => exact f.take k

/-- Delivery is exact over every history with fewer subscriptions than there are ids: an open sink has received
what it was to receive, the listeners are the live ones, and the counts count these. -/
theorem run_delivers_history (h : List Act) (few : (tickets h).length < UInt64.size) :
    (∀ k, Act.isOpen k h = true → (run h).takenFrom k ++ (run h).router.queue k = delivered k h) ∧
      (∀ k, Act.isOpen k h = false → (run h).router.queue k = []) ∧
      (run h).router.listeners = (live h).map Ticket.listener ∧
      (∀ name, (run h).router.listenerCount name = (live h).countP (·.event == name)) ∧
      ∀ e, ((run h).router.dispatch e).1 =
        (live h).countP fun t => t.event == e.method && Act.isOpen t.sink h := by
  have f := follows_run h few
  refine ⟨f.received, f.closed, f.listeners, fun name => ?_, fun e => ?_⟩
  · rw [listenerCount, f.countP_listeners]
    rfl
  · rw [Router.dispatch, receivers, ← List.countP_eq_length_filter, f.countP_listeners]
    refine List.countP_congr fun t _ => ?_
    rw [← f.isOpen]
    rfl

/-- The handle from before a clear does not reach the listener from behind it. -/
theorem run_delivers_history_after_clear :
    let h : List Act :=
      [.dispatch ⟨"loaded", .null⟩, .release 0, .subscribe "loaded" 0, .clear, .dispatch ⟨"loaded", .null⟩,
        .subscribe "loaded" 0, .openSink]
    (tickets h).length < UInt64.size ∧
      (run h).takenFrom 0 ++ (run h).router.queue 0 = [⟨"loaded", .null⟩, ⟨"loaded", .null⟩] ∧
      (run h).router.listenerCount "loaded" = 1 := by
  intro h
  have few : (tickets h).length < UInt64.size := by decide
  obtain ⟨hreceived, -, -, hcount, -⟩ := run_delivers_history h few
  exact ⟨few, hreceived 0 rfl, hcount "loaded"⟩

end Router

end PageCoverage
