import PageCoverage.Proofs.Session.Traffic

namespace PageCoverage

section Table

variable {α : Type} {table : List (UInt64 × α)} {id key : UInt64} {a b : α}

theorem mem_withoutKey : (key, a) ∈ withoutKey id table ↔ (key, a) ∈ table ∧ key ≠ id := by
  simp [withoutKey]

theorem nodup_keys_withoutKey (h : (table.map Prod.fst).Nodup) :
    ((withoutKey id table).map Prod.fst).Nodup :=
  h.sublist (List.filter_sublist.map _)

theorem nodup_keys_cons_withoutKey (h : (table.map Prod.fst).Nodup) :
    (((id, a) :: withoutKey id table).map Prod.fst).Nodup := by
  rw [List.map_cons, List.nodup_cons]
  refine ⟨fun hid => ?_, nodup_keys_withoutKey h⟩
  obtain ⟨⟨key, b⟩, hmem, heq⟩ := List.mem_map.mp hid
  exact (mem_withoutKey.mp hmem).2 heq

theorem lookup_eq_some_iff_mem (h : (table.map Prod.fst).Nodup) :
    table.lookup id = some a ↔ (id, a) ∈ table := by
  induction table with
  | nil => simp
  | cons entry table ih =>
    obtain ⟨key, b⟩ := entry
    rw [List.map_cons, List.nodup_cons] at h
    rw [List.lookup_cons, List.mem_cons, Prod.mk.injEq]
    by_cases hk : id = key
    · subst hk
      have hnot : (id, a) ∉ table := fun hmem => h.1 (List.mem_map.mpr ⟨_, hmem, rfl⟩)
      simp [hnot, eq_comm]
    · have hbeq : (id == key) = false := by simpa using hk
      simp [hk, hbeq, ih h.2]

theorem lookup_eq_none_iff_not_mem :
    table.lookup id = none ↔ ∀ a, (id, a) ∉ table := by
  rw [List.lookup_eq_none_iff]
  constructor
  · intro h a hmem
    simpa using h _ hmem
  · rintro h ⟨key, a⟩ hmem
    rw [bne_iff_ne]
    rintro rfl
    exact h a hmem

end Table

open Traffic
open Json (Letter Written letters)

namespace Socket

/-- A socket behind some traffic since it was opened. Between the traffic, what waits to be written may be
written, the wish to close may be sent, and events may be subscribed to and routed in any way. -/
inductive After : List Traffic → Socket → Prop where
  | fresh : After [] {}
  | send {h : List Traffic} {s : Socket} (c : Command) :
    After h s → After (h ++ [.sent (s.send c).1 c]) (s.send c).2
  | cancel {h : List Traffic} {s : Socket} {id : UInt64} :
    After h s → Alive h id → After (h ++ [.dropped id]) (s.cancel (.sent id))
  | receive {h : List Traffic} {s : Socket} (text : String) :
    After h s → After (h ++ [.frame text]) (s.receive text)
  /-- A caller looks for its answer in vain. -/
  | look {h : List Traffic} {s : Socket} {id : UInt64} {call : SocketCall} :
    After h s → Alive h id → (s.poll (.sent id)).1 = .waiting call → After h (s.poll (.sent id)).2
  | take {h : List Traffic} {s : Socket} {id : UInt64} {r : Except CoverageError Value} :
    After h s → Alive h id → (s.poll (.sent id)).1 = .finished r →
      After (h ++ [.taken id r]) (s.poll (.sent id)).2
  | flush {h : List Traffic} {s : Socket} : After h s → After h s.flush.2
  | close {h : List Traffic} {s : Socket} : After h s → After h s.close
  | route {h : List Traffic} {s : Socket} (r : Router) : After h s → After h { s with router := r }

/-- The tables of a socket as its traffic determines them. -/
structure Correlated (h : List Traffic) (s : Socket) : Prop where
  numbered : Numbered h s.nextId
  concluded : Concluded h
  pendingKeys : (s.pending.map Prod.fst).Nodup
  pending : ∀ id method, (id, method) ∈ s.pending ↔ Waiting h id method
  answerKeys : (s.answers.map Prod.fst).Nodup
  answers : ∀ id r, (id, r) ∈ s.answers ↔ Answered h id r ∧ Alive h id

variable {h : List Traffic} {s t : Socket}

theorem correlated_fresh : Correlated [] {} where
  numbered := ⟨rfl, by simp [ids], by simp [ids]⟩
  concluded := ⟨by simp, by simp, by simp⟩
  pendingKeys := by simp
  pending id method := by
    simp only [List.not_mem_nil, false_iff]
    rintro ⟨before, c, after, hsplit, -⟩
    simp at hsplit
  answerKeys := by simp
  answers id r := by simp [Alive, ids]

/-- The router, the writer and the log have no part in it. -/
theorem Correlated.of_eq (hs : Correlated h s) (hnext : t.nextId = s.nextId)
    (hpending : t.pending = s.pending) (hanswers : t.answers = s.answers) : Correlated h t where
  numbered := hnext ▸ hs.numbered
  concluded := hs.concluded
  pendingKeys := hpending ▸ hs.pendingKeys
  pending := hpending ▸ hs.pending
  answerKeys := hanswers ▸ hs.answerKeys
  answers := hanswers ▸ hs.answers

theorem Correlated.not_waiting_of_answered (hs : Correlated h s) {id : UInt64}
    {r : Except CoverageError Value} (a : Answered h id r) (method : String) : ¬Waiting h id method :=
  fun w => w.not_answered hs.numbered.distinct r a

/-- A command that is refused uses up a number and leaves the tables as they are. -/
theorem Correlated.refuse (hs : Correlated h s) (few : sends h + 1 < UInt64.size) (c : Command)
    (hnext : t.nextId = s.nextId + 1) (hpending : t.pending = s.pending)
    (hanswers : t.answers = s.answers) : Correlated (h ++ [.sent .refused c]) t := by
  have numbered := hs.numbered.concat_sent few .refused (by simp) c
  refine ⟨hnext ▸ numbered, ?_, hpending ▸ hs.pendingKeys, ?_, hanswers ▸ hs.answerKeys, ?_⟩
  · exact hs.concluded.concat numbered.distinct (by simp [ends]) (by simp)
  · intro id method
    rw [hpending, hs.pending, waiting_concat]
    simp
  · intro id r
    rw [hanswers, hs.answers, answered_and_alive_concat (by simp) (by simp [ends])]

/-- A registered command waits under a number that no other has. -/
theorem Correlated.register (hs : Correlated h s) (few : sends h + 1 < UInt64.size) (c : Command)
    (hnext : t.nextId = s.nextId + 1)
    (hpending : t.pending = (s.nextId, c.method) :: withoutKey s.nextId s.pending)
    (hanswers : t.answers = s.answers) : Correlated (h ++ [.sent (.sent s.nextId) c]) t := by
  have numbered := hs.numbered.concat_sent few (.sent s.nextId) (by simp [eq_comm]) c
  have hfresh := hs.numbered.not_mem_ids few
  refine ⟨hnext ▸ numbered, ?_, ?_, ?_, hanswers ▸ hs.answerKeys, ?_⟩
  · exact hs.concluded.concat numbered.distinct (by simp [ends]) (by simp)
  · rw [hpending]
    exact nodup_keys_cons_withoutKey hs.pendingKeys
  · intro id method
    rw [hpending, List.mem_cons, Prod.mk.injEq, mem_withoutKey, hs.pending, waiting_concat]
    constructor
    · rintro (⟨rfl, rfl⟩ | ⟨w, -⟩)
      · exact Or.inl ⟨c, rfl, rfl⟩
      · exact Or.inr ⟨w, not_bears_sent _ _ _, by simp⟩
    · rintro (⟨d, hx, rfl⟩ | ⟨w, -⟩)
      · simp only [sent.injEq, SocketCall.sent.injEq] at hx
        exact Or.inl ⟨hx.1.symm, by rw [hx.2]⟩
      · exact Or.inr ⟨w, fun heq => hfresh (heq ▸ w.mem_ids)⟩
  · intro id r
    rw [hanswers, hs.answers, answered_and_alive_concat (by simp) (by simp [ends])]

theorem Correlated.send (hs : Correlated h s) (few : sends h + 1 < UInt64.size) (c : Command) :
    Correlated (h ++ [.sent (s.send c).1 c]) (s.send c).2 := by
  by_cases refused : (s.isClosed || s.wire == .broken) = true
  · have hsend : s.send c = (.refused, { s with nextId := s.nextId + 1 }) := if_pos refused
    rw [hsend]
    exact hs.refuse few c rfl rfl rfl
  · have hsend : s.send c = (.sent s.nextId,
        { s with
          nextId := s.nextId + 1
          pending := (s.nextId, c.method) :: withoutKey s.nextId s.pending
          outbox := s.outbox ++ [.command s.nextId c] }) := if_neg refused
    rw [hsend]
    exact hs.register few c rfl rfl rfl

/-- A call that is given up leaves both tables. -/
theorem Correlated.cancel (hs : Correlated h s) {id : UInt64} (alive : Alive h id) :
    Correlated (h ++ [.dropped id]) (s.cancel (.sent id)) := by
  have numbered := hs.numbered.concat (x := .dropped id) rfl
  refine ⟨numbered, ?_, nodup_keys_withoutKey hs.pendingKeys, ?_, nodup_keys_withoutKey hs.answerKeys, ?_⟩
  · refine hs.concluded.concat numbered.distinct (fun i hi => ?_) (by simp)
    obtain rfl : id = i := by simpa [ends] using hi
    exact ⟨alive, fun method w => by simp [waiting_concat] at w⟩
  · intro i method
    have : (i, method) ∈ (s.cancel (.sent id)).pending ↔ (i, method) ∈ withoutKey id s.pending := Iff.rfl
    rw [this, mem_withoutKey, hs.pending, waiting_concat]
    simp [eq_comm]
  · intro i r
    have : (i, r) ∈ (s.cancel (.sent id)).answers ↔ (i, r) ∈ withoutKey id s.answers := Iff.rfl
    rw [this, mem_withoutKey, hs.answers]
    by_cases hi : i = id
    · subst hi
      simp [alive_concat, ends]
    · rw [answered_and_alive_concat (by simp) (by simpa [ends] using Ne.symm hi)]
      simp [hi]

/-- The outcome of a call that is taken leaves the table of answers. -/
theorem Correlated.take (hs : Correlated h s) {id : UInt64} (alive : Alive h id)
    {r : Except CoverageError Value} (hr : (id, r) ∈ s.answers) :
    Correlated (h ++ [.taken id r]) { s with answers := withoutKey id s.answers } := by
  have numbered := hs.numbered.concat (x := .taken id r) rfl
  have answered := ((hs.answers id r).mp hr).1
  refine ⟨numbered, ?_, hs.pendingKeys, ?_, nodup_keys_withoutKey hs.answerKeys, ?_⟩
  · refine hs.concluded.concat numbered.distinct (fun i hi => ?_) (fun i q hq => ?_)
    · obtain rfl : id = i := by simpa [ends] using hi
      refine ⟨alive, fun method w => ?_⟩
      rcases waiting_concat.mp w with ⟨c, hx, -⟩ | ⟨w, -⟩
      · cases hx
      · exact hs.not_waiting_of_answered answered method w
    · cases hq
      exact answered
  · intro i method
    rw [hs.pending, waiting_concat]
    simp
  · intro i q
    rw [mem_withoutKey, hs.answers]
    by_cases hi : i = id
    · subst hi
      simp [alive_concat, ends]
    · rw [answered_and_alive_concat (by simp) (by simpa [ends] using Ne.symm hi)]
      simp [hi]

theorem receive_of_error {text : String} {e : FrameError} (he : Frame.read text = .error e) :
    (s.receive text).nextId = s.nextId ∧ (s.receive text).pending = s.pending ∧
      (s.receive text).answers = s.answers := by
  simp [receive, he, note]

/-- A frame without a number is no answer. -/
theorem receive_of_no_id {text : String} {f : Frame} (hf : Frame.Spells text f) (hid : f.id = none) :
    (s.receive text).nextId = s.nextId ∧ (s.receive text).pending = s.pending ∧
      (s.receive text).answers = s.answers := by
  simp only [receive, Frame.read_eq_ok.mpr hf, accept, hid]
  cases f.method <;> simp

theorem receive_of_id {text : String} {f : Frame} {id : UInt64} (hf : Frame.Spells text f)
    (hid : f.id = some id) : s.receive text = s.resolve id f := by
  simp [receive, Frame.read_eq_ok.mpr hf, accept, hid]

/-- A frame that bears the number of no waiting call changes no table. -/
theorem Correlated.receive_of_not_waiting (hs : Correlated h s) {text : String}
    (hnot : ∀ f id method, Frame.Spells text f → f.id = some id → ¬Waiting h id method) :
    (s.receive text).nextId = s.nextId ∧ (s.receive text).pending = s.pending ∧
      (s.receive text).answers = s.answers := by
  cases hread : Frame.read text with
  | error e => exact receive_of_error hread
  | ok f =>
    have hf := Frame.read_eq_ok.mp hread
    cases hid : f.id with
    | none => exact receive_of_no_id hf hid
    | some id =>
      have hnone : s.pending.lookup id = none := lookup_eq_none_iff_not_mem.mpr fun method hm =>
        hnot f id method hf hid ((hs.pending id method).mp hm)
      rw [receive_of_id hf hid]
      simp [resolve, hnone]

/-- A frame that answers no waiting call is traffic without consequence. -/
theorem Correlated.ignore (hs : Correlated h s) {text : String}
    (hnot : ∀ f id method, Frame.Spells text f → f.id = some id → ¬Waiting h id method) :
    Correlated (h ++ [.frame text]) (s.receive text) := by
  obtain ⟨hnext, hpending, hanswers⟩ := hs.receive_of_not_waiting hnot
  have numbered := hs.numbered.concat (x := .frame text) rfl
  refine ⟨hnext ▸ numbered, ?_, hpending ▸ hs.pendingKeys, ?_, hanswers ▸ hs.answerKeys, ?_⟩
  · exact hs.concluded.concat numbered.distinct (by simp [ends]) (by simp)
  · intro id method
    rw [hpending, hs.pending, waiting_concat]
    simp only [reduceCtorEq, false_and, exists_false, false_or, ne_eq, not_false_eq_true, and_true]
    refine ⟨fun w => ⟨w, ?_⟩, And.left⟩
    rintro ⟨_, f, heq, hread, hid⟩
    cases heq
    exact hnot f id method hread hid w
  · intro id r
    have hnew : Answered (h ++ [.frame text]) id r ↔ Answered h id r := by
      rw [answered_concat, or_iff_left]
      rintro ⟨_, f, method, heq, w, hread, hid, -⟩
      cases heq
      exact hnot f id method hread hid w
    rw [hanswers, hs.answers, hnew, alive_concat, Alive]
    simp [registered?, ends]

/-- The first frame with the number of a waiting call moves the call from the one table to the other. -/
theorem Correlated.answer (hs : Correlated h s) {text : String} {f : Frame} {id : UInt64}
    {method : String} (hf : Frame.Spells text f) (hid : f.id = some id) (w : Waiting h id method) :
    Correlated (h ++ [.frame text]) (s.receive text) := by
  have distinct := hs.numbered.distinct
  have numbered := hs.numbered.concat (x := .frame text) rfl
  have hlookup : s.pending.lookup id = some method :=
    (lookup_eq_some_iff_mem hs.pendingKeys).mpr ((hs.pending id method).mpr w)
  have hreceive : s.receive text =
      { s with pending := withoutKey id s.pending, answers := (id, f.outcome method) :: s.answers } := by
    rw [receive_of_id hf hid]
    simp [resolve, hlookup]
  have hbears : ∀ i, (Traffic.frame text).Bears i ↔ i = id := by
    intro i
    constructor
    · rintro ⟨_, f', heq, hread, hi⟩
      cases heq
      obtain rfl := hf.unique hread
      rw [hid] at hi
      exact (Option.some.inj hi).symm
    · rintro rfl
      exact ⟨text, f, rfl, hf, hid⟩
  rw [hreceive]
  refine ⟨numbered, ?_, nodup_keys_withoutKey hs.pendingKeys, ?_, ?_, ?_⟩
  · exact hs.concluded.concat numbered.distinct (by simp [ends]) (by simp)
  · intro i m
    rw [mem_withoutKey, hs.pending, waiting_concat, hbears]
    simp
  · rw [List.map_cons, List.nodup_cons]
    refine ⟨fun hmem => ?_, hs.answerKeys⟩
    obtain ⟨⟨i, r⟩, hr, rfl⟩ := List.mem_map.mp hmem
    exact w.not_answered distinct r ((hs.answers _ r).mp hr).1
  · intro i r
    have halive : Alive (h ++ [.frame text]) i ↔ Alive h i := by
      rw [alive_concat, Alive]
      simp [registered?, ends]
    have hnew : Answered (h ++ [.frame text]) i r ↔ Answered h i r ∨ (i = id ∧ r = f.outcome method) := by
      rw [answered_concat]
      refine or_congr_right ⟨?_, ?_⟩
      · rintro ⟨_, f', m, heq, w', hread, hi, hsays⟩
        obtain rfl := (hbears i).mp ⟨_, f', heq, hread, hi⟩
        cases heq
        obtain rfl := hf.unique hread
        rw [w'.unique distinct w] at hsays
        exact ⟨rfl, hsays.unique (says_outcome f method)⟩
      · rintro ⟨rfl, rfl⟩
        exact ⟨text, f, method, rfl, w, hf, hid, says_outcome f method⟩
    rw [List.mem_cons, Prod.mk.injEq, hs.answers, hnew, halive]
    constructor
    · rintro (⟨rfl, rfl⟩ | ⟨a, alive⟩)
      · exact ⟨Or.inr ⟨rfl, rfl⟩, hs.concluded.alive_of_waiting w⟩
      · exact ⟨Or.inl a, alive⟩
    · rintro ⟨a | hnow, alive⟩
      · exact Or.inr ⟨a, alive⟩
      · exact Or.inl hnow

theorem Correlated.receive (hs : Correlated h s) (text : String) :
    Correlated (h ++ [.frame text]) (s.receive text) := by
  by_cases hw : ∃ f id method, Frame.Spells text f ∧ f.id = some id ∧ Waiting h id method
  · obtain ⟨f, id, method, hf, hid, w⟩ := hw
    exact hs.answer hf hid w
  · exact hs.ignore fun f id method hf hid w => hw ⟨f, id, method, hf, hid, w⟩

/-- A caller that looks for its answer finds what its call has been answered with. -/
theorem Correlated.poll_eq_finished_iff (hs : Correlated h s) {id : UInt64} (alive : Alive h id)
    {r : Except CoverageError Value} : (s.poll (.sent id)).1 = .finished r ↔ Answered h id r := by
  have distinct := hs.numbered.distinct
  cases hlookup : s.answers.lookup id with
  | some q =>
    have hq := ((hs.answers id q).mp ((lookup_eq_some_iff_mem hs.answerKeys).mp hlookup)).1
    simp only [poll, hlookup, Progress.finished.injEq]
    exact ⟨fun h => h ▸ hq, fun a => hq.unique distinct a⟩
  | none =>
    have hnone : ∀ q, ¬Answered h id q := fun q a =>
      lookup_eq_none_iff_not_mem.mp hlookup q ((hs.answers id q).mpr ⟨a, alive⟩)
    have hdropped : .dropped id ∉ h := fun hd => alive.2 _ hd (by simp [ends])
    obtain ⟨method, w⟩ : ∃ method, Waiting h id method := by
      rcases waiting_or_answered_or_dropped alive.1 with w | ⟨q, a⟩ | hd
      · exact w
      · exact absurd a (hnone q)
      · exact absurd hd hdropped
    have hpending : (s.pending.lookup id).isSome = true := by
      rw [(lookup_eq_some_iff_mem hs.pendingKeys).mpr ((hs.pending id method).mpr w)]
      rfl
    simp only [poll, hlookup, hpending, if_true, reduceCtorEq, false_iff]
    exact hnone r

theorem Correlated.poll_finished (hs : Correlated h s) {id : UInt64} (alive : Alive h id)
    {r : Except CoverageError Value} (hr : (s.poll (.sent id)).1 = .finished r) :
    Correlated (h ++ [.taken id r]) (s.poll (.sent id)).2 := by
  have answered := (hs.poll_eq_finished_iff alive).mp hr
  have hmem := (hs.answers id r).mpr ⟨answered, alive⟩
  have hlookup := (lookup_eq_some_iff_mem hs.answerKeys).mpr hmem
  have hpoll : (s.poll (.sent id)).2 = { s with answers := withoutKey id s.answers } := by
    simp [poll, hlookup]
  rw [hpoll]
  exact hs.take alive hmem

theorem poll_of_waiting {id : UInt64} {call : SocketCall}
    (hw : (s.poll (.sent id)).1 = .waiting call) : (s.poll (.sent id)).2 = s := by
  revert hw
  simp only [poll]
  split
  · simp
  · split <;> simp

theorem write_keeps (s : Socket) (o : Outgoing) :
    (s.write o).2.nextId = s.nextId ∧ (s.write o).2.pending = s.pending ∧
      (s.write o).2.answers = s.answers := by
  simp only [write]
  split <;> simp [note]

/-- Writing what waits to be written changes no table. -/
theorem Correlated.flush (hs : Correlated h s) : Correlated h s.flush.2 := by
  unfold Socket.flush
  refine List.foldlRecOn (motive := fun acc : List (UInt64 × Command) × Socket => Correlated h acc.2)
    s.outbox _ ?_ fun acc hacc o _ => ?_
  · exact hs.of_eq rfl rfl rfl
  · obtain ⟨hnext, hpending, hanswers⟩ := write_keeps acc.2 o
    exact hacc.of_eq hnext hpending hanswers

theorem Correlated.close (hs : Correlated h s) : Correlated h s.close := by
  unfold Socket.close
  split
  · exact hs
  · exact hs.of_eq rfl rfl rfl

/-- Every socket that is not shut down is correlated with its traffic. -/
theorem After.correlated (after : After h s) (few : sends h < UInt64.size) : Correlated h s := by
  induction after with
  | fresh => exact correlated_fresh
  | send c _ ih =>
    rw [sends_concat] at few
    simp only [isSend, if_true] at few
    exact (ih (by omega)).send few c
  | cancel _ alive ih => exact (ih (by simpa [isSend] using few)).cancel alive
  | receive text _ ih => exact (ih (by simpa [isSend] using few)).receive text
  | look _ _ hw ih =>
    rw [poll_of_waiting hw]
    exact ih few
  | take _ alive hr ih => exact (ih (by simpa [isSend] using few)).poll_finished alive hr
  | flush _ ih => exact (ih few).flush
  | close _ ih => exact (ih few).close
  | route r _ ih => exact (ih few).of_eq rfl rfl rfl

/-- The answers to three commands: an error, a result, and a result that is null. Members that no frame has may
hold anything. -/
def gone : String := "\x7b\"id\":2,\"error\":\x7b\"message\":\"gone\",\"code\":-3,\"data\":1e999\x7d\x7d"

def done : String := "\x7b\"id\":3,\"result\":\x7b\"ok\":true\x7d,\"took\":\"\\ud800\"\x7d"

def bare : String := "\x7b\"id\":4,\"result\":null\x7d"

theorem spells_gone : Frame.Spells gone ⟨some 2, none, .null, none, some ⟨-3, "gone"⟩⟩ := by
  let number : Written := .number ⟨false, ['2'], none, none⟩
  let code : Written := .number ⟨true, ['3'], none, none⟩
  let es : List (List Letter × Written) :=
    [(letters "message", .text (letters "gone")), (letters "code", code),
      (letters "data", .number ⟨false, ['1'], none, some 999⟩)]
  let ms : List (List Letter × Written) := [(letters "id", number), (letters "error", .object es)]
  have error : RemoteError.Conveys (.object es) ⟨-3, "gone"⟩ :=
    .object (by decide) ⟨.inr ⟨code, rfl, _, rfl, rfl⟩, .text (letters "gone"), rfl, _, rfl, rfl⟩
  have id : number.IsInt (UInt64.toNat 2) := ⟨_, rfl, rfl⟩
  exact ⟨.object ms, rfl,
    .object (by decide) ⟨.present nofun id, .absent, .inl ⟨rfl, rfl⟩, .absent, .present nofun error⟩⟩

theorem spells_done : Frame.Spells done ⟨some 3, none, .null, some (.object [("ok", .bool true)]), none⟩ := by
  let number : Written := .number ⟨false, ['3'], none, none⟩
  let result : Written := .object [(letters "ok", .bool true)]
  let ms : List (List Letter × Written) :=
    [(letters "id", number), (letters "result", result), (letters "took", .text [.half 0xD800])]
  have id : number.IsInt (UInt64.toNat 3) := ⟨_, rfl, rfl⟩
  exact ⟨.object ms, rfl,
    .object (by decide) ⟨.present nofun id, .absent, .inl ⟨rfl, rfl⟩, .present nofun rfl, .absent⟩⟩

theorem spells_bare : Frame.Spells bare ⟨some 4, none, .null, none, none⟩ := by
  let number : Written := .number ⟨false, ['4'], none, none⟩
  let ms : List (List Letter × Written) := [(letters "id", number), (letters "result", .null)]
  have id : number.IsInt (UInt64.toNat 4) := ⟨_, rfl, rfl⟩
  exact ⟨.object ms, rfl, .object (by decide) ⟨.present nofun id, .absent, .inl ⟨rfl, rfl⟩, .null, .absent⟩⟩

end Socket

end PageCoverage
