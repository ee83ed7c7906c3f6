import PageCoverage.Router
import Mathlib.Data.List.Basic

namespace PageCoverage

namespace Router

/-- Every listener feeds a sink of the router. -/
def WellFormed (r : Router) : Prop := ∀ l ∈ r.listeners, l.sink < r.sinks.length

/-- The listeners that feed a sink. -/
def feeders (r : Router) (k : SinkId) : List Listener := r.listeners.filter (·.sink == k)

theorem isFed_iff {r : Router} {k : SinkId} : r.isFed k = true ↔ r.feeders k ≠ [] := by
  simp [isFed, feeders]

theorem length_foldl_push (e : Event) (ks : List SinkId) (sinks : List Sink) :
    (ks.foldl (push e) sinks).length = sinks.length := by
  induction ks generalizing sinks with
  | nil => rfl
  | cons i ks ih => rw [List.foldl_cons, ih, push, List.length_modify]

/-- A sink receives an event once for each time it is named. -/
theorem getElem?_foldl_push (e : Event) (ks : List SinkId) (sinks : List Sink) (k : SinkId) :
    (ks.foldl (push e) sinks)[k]? =
      (sinks[k]?).map fun s => { s with queue := s.queue ++ List.replicate (ks.count k) e } := by
  induction ks generalizing sinks with
  | nil => simp
  | cons i ks ih =>
    rw [List.foldl_cons, ih, push]
    by_cases hik : i = k
    · subst hik
      rw [List.getElem?_modify_eq, List.count_cons_self, List.replicate_succ]
      cases sinks[i]? <;> simp
    · rw [List.getElem?_modify_ne _ _ hik, List.count_cons_of_ne hik]

theorem count_receivers (r : Router) (k : SinkId) (name : String) :
    ((r.receivers name).map Listener.sink).count k =
      (r.feeders k).countP fun l => l.event == name && r.isOpen k := by
  rw [List.count, List.countP_map, receivers, feeders, List.countP_filter, List.countP_filter]
  refine List.countP_congr fun l _ => ?_
  by_cases hl : l.sink = k <;> simp [hl]

/-- An open sink receives an event once for each of its listeners for that name. -/
theorem queue_dispatch (r : Router) (e : Event) (k : SinkId) :
    (r.dispatch e).2.queue k = r.queue k ++
      List.replicate ((r.feeders k).countP fun l => l.event == e.method && r.isOpen k) e := by
  rw [queue, dispatch, getElem?_foldl_push, count_receivers]
  cases hk : r.sinks[k]? with
  | none => simp [queue, isOpen, hk]
  | some s => simp [queue, hk]

theorem isOpen_dispatch (r : Router) (e : Event) (k : SinkId) :
    (r.dispatch e).2.isOpen k = r.isOpen k := by
  rw [isOpen, dispatch, getElem?_foldl_push, Option.any_map]
  rfl

/-- A dispatch removes no listener of an open sink. -/
theorem feeders_dispatch {r : Router} {k : SinkId} (h : r.isOpen k = true) (e : Event) :
    (r.dispatch e).2.feeders k = r.feeders k := by
  rw [feeders, dispatch, List.filter_filter]
  refine List.filter_congr fun l _ => ?_
  by_cases hl : l.sink = k <;> simp [hl, h]

theorem feeders_dispatch_of_unfed {r : Router} {k : SinkId} (h : r.feeders k = []) (e : Event) :
    (r.dispatch e).2.feeders k = [] := by
  have hsub : ((r.dispatch e).2.feeders k).Sublist (r.feeders k) := List.filter_sublist.filter _
  rw [h] at hsub
  exact List.sublist_nil.mp hsub

theorem wellFormed_dispatch {r : Router} (h : r.WellFormed) (e : Event) : (r.dispatch e).2.WellFormed := by
  intro l hl
  rw [dispatch, length_foldl_push]
  exact h l (List.mem_of_mem_filter hl)

theorem wellFormed_openSink {r : Router} (h : r.WellFormed) : r.openSink.2.WellFormed := by
  intro l hl
  rw [openSink, List.length_append]
  exact Nat.lt_add_right _ (h l hl)

theorem wellFormed_closeSink {r : Router} (h : r.WellFormed) (k : SinkId) : (r.closeSink k).WellFormed := by
  intro l hl
  rw [closeSink, List.length_modify]
  exact h l hl

theorem wellFormed_subscribe {r : Router} (h : r.WellFormed) (name : String) {k : SinkId}
    (hk : k < r.sinks.length) : (r.subscribe name k).2.WellFormed := by
  intro l hl
  rcases List.mem_append.mp hl with hl | hl
  · exact h l hl
  · rw [List.mem_singleton.mp hl]
    exact hk

theorem wellFormed_release {r : Router} (h : r.WellFormed) (sub : Subscription) :
    (r.release sub).WellFormed :=
  fun l hl => h l (List.mem_of_mem_filter hl)

/-- Nothing feeds a new sink yet. -/
theorem feeders_openSink {r : Router} (h : r.WellFormed) : r.openSink.2.feeders r.openSink.1 = [] := by
  rw [feeders, List.filter_eq_nil_iff]
  intro l hl
  exact mt beq_iff_eq.mp (Nat.ne_of_lt (h l hl))

theorem queue_openSink (r : Router) (k : SinkId) : r.openSink.2.queue k = r.queue k := by
  rw [queue, queue, openSink, List.getElem?_append]
  split
  · rfl
  · next hle =>
    rw [List.getElem?_eq_none (Nat.le_of_not_lt hle)]
    cases hk : [({} : Sink)][k - r.sinks.length]? with
    | none => rfl
    | some sink => rw [List.mem_singleton.mp (List.mem_of_getElem? hk)]; rfl

theorem isOpen_openSink (r : Router) (k : SinkId) :
    r.openSink.2.isOpen k = (r.isOpen k || r.sinks.length == k) := by
  rw [isOpen, isOpen, openSink]
  rcases Nat.lt_trichotomy k r.sinks.length with hlt | rfl | hlt
  · have hne : r.sinks.length ≠ k := Nat.ne_of_gt hlt
    rw [List.getElem?_append_left hlt]
    simp [hne]
  · simp
  · have hne : r.sinks.length ≠ k := Nat.ne_of_lt hlt
    have hle : (r.sinks ++ [({} : Sink)]).length ≤ k := by
      rw [List.length_append, List.length_singleton]
      exact hlt
    rw [List.getElem?_eq_none hle, List.getElem?_eq_none (Nat.le_of_lt hlt)]
    simp [hne]

theorem queue_closeSink (r : Router) (j k : SinkId) :
    (r.closeSink j).queue k = if j = k then [] else r.queue k := by
  rw [queue, queue, closeSink]
  split
  · next h =>
    rw [h, List.getElem?_modify_eq]
    cases r.sinks[k]? <;> rfl
  · next hne => rw [List.getElem?_modify_ne _ _ hne]

theorem isOpen_closeSink (r : Router) (j k : SinkId) : (r.closeSink j).isOpen k = (r.isOpen k && j != k) := by
  rw [isOpen, isOpen, closeSink]
  by_cases hjk : j = k
  · rw [hjk, List.getElem?_modify_eq, bne_self_eq_false, Bool.and_false]
    cases r.sinks[k]? <;> rfl
  · rw [List.getElem?_modify_ne _ _ hjk, bne_iff_ne.mpr hjk, Bool.and_true]

theorem take_of_queue_cons {r : Router} {k : SinkId} {e : Event} {rest : List Event}
    (h : r.queue k = e :: rest) :
    r.take k = (some e, { r with sinks := r.sinks.modify k fun s => { s with queue := rest } }) := by
  rw [take, h]

theorem take_of_queue_nil {r : Router} {k : SinkId} (h : r.queue k = []) : r.take k = (none, r) := by
  rw [take, h]

/-- Taking an event out of a sink changes no other. -/
theorem sinks_take {r : Router} {j k : SinkId} (hne : j ≠ k) : (r.take j).2.sinks[k]? = r.sinks[k]? := by
  cases hqueue : r.queue j with
  | nil => rw [take_of_queue_nil hqueue]
  | cons e rest =>
    rw [take_of_queue_cons hqueue]
    exact List.getElem?_modify_ne _ _ hne

theorem isOpen_take (r : Router) (j k : SinkId) : (r.take j).2.isOpen k = r.isOpen k := by
  by_cases hjk : j = k
  · subst hjk
    cases hqueue : r.queue j with
    | nil => rw [take_of_queue_nil hqueue]
    | cons e rest =>
      rw [take_of_queue_cons hqueue, isOpen, isOpen, List.getElem?_modify_eq]
      cases r.sinks[j]? <;> rfl
  · rw [isOpen, isOpen, sinks_take hjk]

theorem take_frame (r : Router) (k : SinkId) :
    (r.take k).2.nextId = r.nextId ∧ (r.take k).2.listeners = r.listeners ∧
      (r.take k).2.sinks.length = r.sinks.length := by
  cases hqueue : r.queue k with
  | nil =>
    rw [take_of_queue_nil hqueue]
    exact ⟨rfl, rfl, rfl⟩
  | cons e rest =>
    rw [take_of_queue_cons hqueue]
    exact ⟨rfl, rfl, List.length_modify _ _ _⟩

/-- An event that has been taken out of a sink was the oldest there. -/
theorem queue_take (r : Router) (j k : SinkId) :
    r.queue k = (if j = k then (r.take j).1.toList else []) ++ (r.take j).2.queue k := by
  split
  · next h =>
    subst h
    cases hqueue : r.queue j with
    | nil =>
      rw [take_of_queue_nil hqueue, hqueue]
      rfl
    | cons e rest =>
      obtain ⟨s, hs⟩ : ∃ s, r.sinks[j]? = some s := by
        rw [← Option.ne_none_iff_exists']
        intro hnone
        rw [queue, hnone] at hqueue
        cases hqueue
      rw [take_of_queue_cons hqueue, queue, List.getElem?_modify_eq, hs]
      rfl
  · next hne =>
    rw [queue, queue, sinks_take hne]
    rfl

/-- Numbers below the size of the ids have different ids. -/
theorem ofNat_eq_iff {m n : Nat} (hm : m < UInt64.size) (hn : n < UInt64.size) :
    UInt64.ofNat m = UInt64.ofNat n ↔ m = n := by
  refine ⟨fun heq => ?_, congrArg _⟩
  have htoNat := congrArg UInt64.toNat heq
  rwa [UInt64.toNat_ofNat_of_lt' hm, UInt64.toNat_ofNat_of_lt' hn] at htoNat

/-- What a sink has received since its owner subscribed it to events of some names, after the events that
have been handled. As long as a listener is there, all listeners are. -/
structure Delivers (r : Router) (k : SinkId) (names : List String) (dispatched handled : List Event) :
    Prop where
  wellFormed : r.WellFormed
  inOrder : handled ++ r.queue k <+: dispatched.filter (·.method ∈ names)
  live : r.feeders k ≠ [] → r.isOpen k = true ∧ (r.feeders k).map Listener.event = names ∧
    handled ++ r.queue k = dispatched.filter (·.method ∈ names)

section Delivers

variable {r t : Router} {k : SinkId} {names : List String} {dispatched handled : List Event}

/-- Each name is listened for once. -/
theorem Delivers.count_feeders (h : r.Delivers k names dispatched handled) (hfed : r.feeders k ≠ [])
    (nodup : names.Nodup) (e : Event) :
    (r.feeders k).countP (fun l => l.event == e.method && r.isOpen k) =
      if e.method ∈ names then 1 else 0 := by
  obtain ⟨hopen, hnames, -⟩ := h.live hfed
  rw [← hnames] at nodup ⊢
  rw [← nodup.count, List.count, List.countP_map]
  simp [hopen, Function.comp_def]

theorem Delivers.dispatch (h : r.Delivers k names dispatched handled) (nodup : names.Nodup) (e : Event) :
    (r.dispatch e).2.Delivers k names (dispatched ++ [e]) handled := by
  by_cases hfed : r.feeders k = []
  · -- Nobody listens: the queue stays, while more has been dispatched.
    have hqueue := queue_dispatch r e k
    rw [hfed, List.countP_nil, List.replicate_zero, List.append_nil] at hqueue
    refine ⟨wellFormed_dispatch h.wellFormed e, ?_, fun hlive => ?_⟩
    · rw [hqueue, List.filter_append]
      exact h.inOrder.trans (List.prefix_append _ _)
    · exact absurd (feeders_dispatch_of_unfed hfed e) hlive
  · obtain ⟨hopen, hnames, hall⟩ := h.live hfed
    have hqueue := queue_dispatch r e k
    rw [h.count_feeders hfed nodup e] at hqueue
    have hall' : handled ++ (r.dispatch e).2.queue k = (dispatched ++ [e]).filter (·.method ∈ names) := by
      rw [hqueue, ← List.append_assoc, hall, List.filter_append]
      by_cases hmem : e.method ∈ names <;> simp [hmem]
    refine ⟨wellFormed_dispatch h.wellFormed e, hall' ▸ List.prefix_refl _, fun _ => ⟨?_, ?_, hall'⟩⟩
    · rw [isOpen_dispatch, hopen]
    · rw [feeders_dispatch hopen, hnames]

theorem Delivers.take (h : r.Delivers k names dispatched handled) {e : Event} {rest : List Event}
    (hqueue : r.queue k = e :: rest) : (r.take k).2.Delivers k names dispatched (handled ++ [e]) := by
  obtain ⟨s, hs, hsq⟩ : ∃ s, r.sinks[k]? = some s ∧ s.queue = e :: rest := by
    cases hs : r.sinks[k]? with
    | none => simp [queue, hs] at hqueue
    | some s => exact ⟨s, rfl, by simpa [queue, hs] using hqueue⟩
  rw [take_of_queue_cons hqueue]
  have hrest : ({ r with sinks := r.sinks.modify k fun s => { s with queue := rest } } : Router).queue k =
      rest := by simp [queue, hs]
  have hopen : ({ r with sinks := r.sinks.modify k fun s => { s with queue := rest } } : Router).isOpen k =
      r.isOpen k := by simp [isOpen, hs]
  have hline : handled ++ [e] ++ rest = handled ++ r.queue k := by rw [hqueue]; simp
  refine ⟨?_, ?_, fun hlive => ?_⟩
  · intro l hl
    rw [List.length_modify]
    exact h.wellFormed l hl
  · rw [hrest, hline]
    exact h.inOrder
  · obtain ⟨hwas, hnames, hall⟩ := h.live hlive
    exact ⟨hopen.trans hwas, hnames, by rw [hrest, hline, hall]⟩

/-- A new sink that has been subscribed to two names. -/
theorem delivers_subscribe (h : r.WellFormed) (first second : String) :
    ((r.openSink.2.subscribe first r.openSink.1).2.subscribe second r.openSink.1).2.Delivers r.openSink.1
      [first, second] [] [] := by
  have hk : r.openSink.1 < r.openSink.2.sinks.length := by simp [openSink]
  have hqueue : r.openSink.2.queue r.openSink.1 = [] := by simp [queue, openSink]
  have hopen : r.openSink.2.isOpen r.openSink.1 = true := by simp [isOpen, openSink]
  have hnone := feeders_openSink h
  rw [feeders] at hnone
  refine ⟨wellFormed_subscribe (wellFormed_subscribe (wellFormed_openSink h) _ hk) _ hk, ?_,
    fun _ => ⟨hopen, ?_, ?_⟩⟩
  · rw [List.nil_append, List.filter_nil, List.prefix_nil]
    exact hqueue
  · simp [feeders, Router.subscribe, hnone]
  · exact hqueue

/-- Closing a sink without listeners loses nothing if the sink is empty. -/
theorem Delivers.closeSink (h : r.Delivers k names dispatched handled) (hempty : r.queue k = [])
    (hunfed : r.feeders k = []) : (r.closeSink k).Delivers k names dispatched handled := by
  have hqueue : (r.closeSink k).queue k = [] := by
    rw [queue, Router.closeSink, List.getElem?_modify_eq]
    cases r.sinks[k]? <;> rfl
  refine ⟨?_, ?_, fun hlive => absurd hunfed hlive⟩
  · intro l hl
    rw [Router.closeSink, List.length_modify]
    exact h.wellFormed l hl
  · rw [hqueue, ← hempty]
    exact h.inOrder

/-- What others do to a router: they leave the sink alone, and its listeners unless they remove all. -/
structure Spares (k : SinkId) (r t : Router) : Prop where
  wellFormed : r.WellFormed → t.WellFormed
  sink : t.sinks[k]? = r.sinks[k]?
  feeders : t.feeders k = r.feeders k ∨ t.feeders k = []

theorem Delivers.spared (h : r.Delivers k names dispatched handled) (hspares : Spares k r t) :
    t.Delivers k names dispatched handled := by
  have hqueue : t.queue k = r.queue k := by rw [queue, queue, hspares.sink]
  have hopen : t.isOpen k = r.isOpen k := by rw [isOpen, isOpen, hspares.sink]
  refine ⟨hspares.wellFormed h.wellFormed, hqueue ▸ h.inOrder, fun hlive => ?_⟩
  have hsame := hspares.feeders.resolve_right hlive
  rw [hsame] at hlive
  rw [hopen, hsame, hqueue]
  exact h.live hlive

end Delivers

end Router

end PageCoverage
