import PageCoverage.Proofs.Session.Frame
import PageCoverage.Session.Socket
import Mathlib.Data.List.Induction

namespace PageCoverage

/-- Something that happens on a socket, as far as it concerns calls. -/
inductive Traffic where
  | sent (call : SocketCall) (c : Command)
  /-- A caller gives its call up. -/
  | dropped (id : UInt64)
  | frame (text : String)
  /-- A caller takes the outcome of its call. -/
  | taken (id : UInt64) (result : Except CoverageError Value)

namespace Traffic

/-- The number under which a command is registered. -/
def registered? : Traffic → Option UInt64
  | .sent (.sent id) _ => some id
  | _ => none

/-- Whether a command is sent, registered or not. -/
def isSend : Traffic → Bool
  | .sent _ _ => true
  | _ => false

/-- Whether the caller of a number is through with its call. -/
def ends (id : UInt64) : Traffic → Bool
  | .dropped i | .taken i _ => i = id
  | _ => false

/-- A frame with a number. -/
def Bears (x : Traffic) (id : UInt64) : Prop :=
  ∃ text f, x = .frame text ∧ Frame.Spells text f ∧ f.id = some id

/-- The numbers of the registered commands, in order. -/
def ids (h : List Traffic) : List UInt64 := h.filterMap registered?

def sends (h : List Traffic) : Nat := h.countP isSend

/-- A registered call that its caller has neither given up nor taken the outcome of. -/
def Alive (h : List Traffic) (id : UInt64) : Prop := id ∈ ids h ∧ ∀ x ∈ h, ¬x.ends id = true

/-- A call of a method has been registered, and since then neither answered nor given up. -/
def Waiting (h : List Traffic) (id : UInt64) (method : String) : Prop :=
  ∃ before c after, h = before ++ .sent (.sent id) c :: after ∧ c.method = method ∧
    ∀ x ∈ after, ¬x.Bears id ∧ x ≠ .dropped id

/-- What a frame tells the caller of a method: its error, else its result, else an empty object. -/
inductive Says (f : Frame) (method : String) : Except CoverageError Value → Prop where
  | error (e : RemoteError) : f.error = some e →
    Says f method (.error (.command method (e.text ++ " (" ++ toString e.code.toInt ++ ")")))
  | result (v : Value) : f.error = none → f.result = some v → Says f method (.ok v)
  | empty : f.error = none → f.result = none → Says f method (.ok (.object []))

/-- A frame with a call's number has come while the call was waiting, and this is what it says. -/
def Answered (h : List Traffic) (id : UInt64) (result : Except CoverageError Value) : Prop :=
  ∃ before text f after method, h = before ++ .frame text :: after ∧ Waiting before id method ∧
    Frame.Spells text f ∧ f.id = some id ∧ Says f method result

theorem concat_eq_append_cons {α : Type} {h before after : List α} {x y : α} :
    h ++ [x] = before ++ y :: after ↔
      (after = [] ∧ h = before ∧ x = y) ∨ ∃ rest, after = rest ++ [x] ∧ h = before ++ y :: rest := by
  constructor
  · intro heq
    rcases List.eq_nil_or_concat after with rfl | ⟨rest, z, rfl⟩
    · obtain ⟨rfl, hxy⟩ := List.append_inj' heq rfl
      exact Or.inl ⟨rfl, rfl, (List.cons.inj hxy).1⟩
    · rw [List.concat_eq_append, ← List.cons_append, ← List.append_assoc] at heq
      obtain ⟨rfl, hxz⟩ := List.append_inj' heq rfl
      obtain ⟨rfl, -⟩ := List.cons.inj hxz
      exact Or.inr ⟨rest, List.concat_eq_append .., rfl⟩
  · rintro (⟨rfl, rfl, rfl⟩ | ⟨rest, rfl, rfl⟩)
    · rfl
    · simp

@[simp] theorem ids_concat (h : List Traffic) (x : Traffic) :
    ids (h ++ [x]) = ids h ++ x.registered?.toList := by
  cases hx : x.registered? <;> simp [ids, hx]

@[simp] theorem sends_concat (h : List Traffic) (x : Traffic) :
    sends (h ++ [x]) = sends h + if x.isSend then 1 else 0 := by
  simp [sends, List.countP_singleton]

theorem alive_concat {h : List Traffic} {x : Traffic} {id : UInt64} :
    Alive (h ++ [x]) id ↔
      (id ∈ ids h ∨ x.registered? = some id) ∧ (∀ y ∈ h, ¬y.ends id = true) ∧ ¬x.ends id = true := by
  simp only [Alive, ids_concat, List.mem_append, Option.mem_toList, List.mem_singleton]
  constructor
  · rintro ⟨hid, hends⟩
    exact ⟨hid, fun y hy => hends y (Or.inl hy), hends x (Or.inr rfl)⟩
  · rintro ⟨hid, hends, hx⟩
    exact ⟨hid, fun y hy => hy.elim (hends y) (fun hy => hy ▸ hx)⟩

theorem waiting_concat {h : List Traffic} {x : Traffic} {id : UInt64} {method : String} :
    Waiting (h ++ [x]) id method ↔
      (∃ c, x = .sent (.sent id) c ∧ c.method = method) ∨
        (Waiting h id method ∧ ¬x.Bears id ∧ x ≠ .dropped id) := by
  constructor
  · rintro ⟨before, c, after, hsplit, hc, hafter⟩
    rcases concat_eq_append_cons.mp hsplit with ⟨-, -, rfl⟩ | ⟨rest, rfl, rfl⟩
    · exact Or.inl ⟨c, rfl, hc⟩
    · exact Or.inr ⟨⟨before, c, rest, rfl, hc, fun y hy => hafter y (by simp [hy])⟩,
        hafter x (by simp)⟩
  · rintro (⟨c, rfl, hc⟩ | ⟨⟨before, c, after, rfl, hc, hafter⟩, hx⟩)
    · exact ⟨h, c, [], rfl, hc, by simp⟩
    · refine ⟨before, c, after ++ [x], by simp, hc, fun y hy => ?_⟩
      rcases List.mem_append.mp hy with hy | hy
      · exact hafter y hy
      · exact List.mem_singleton.mp hy ▸ hx

theorem answered_concat {h : List Traffic} {x : Traffic} {id : UInt64}
    {result : Except CoverageError Value} :
    Answered (h ++ [x]) id result ↔ Answered h id result ∨
      ∃ text f method, x = .frame text ∧ Waiting h id method ∧ Frame.Spells text f ∧
        f.id = some id ∧ Says f method result := by
  constructor
  · rintro ⟨before, text, f, after, method, hsplit, hwait, hread, hid, hsays⟩
    rcases concat_eq_append_cons.mp hsplit with ⟨-, rfl, rfl⟩ | ⟨rest, rfl, rfl⟩
    · exact Or.inr ⟨text, f, method, rfl, hwait, hread, hid, hsays⟩
    · exact Or.inl ⟨before, text, f, rest, method, rfl, hwait, hread, hid, hsays⟩
  · rintro (⟨before, text, f, after, method, rfl, hwait, hread, hid, hsays⟩ |
      ⟨text, f, method, rfl, hwait, hread, hid, hsays⟩)
    · exact ⟨before, text, f, after ++ [x], method, by simp, hwait, hread, hid, hsays⟩
    · exact ⟨h, text, f, [], method, rfl, hwait, hread, hid, hsays⟩

theorem Says.unique {f : Frame} {method : String} {r r' : Except CoverageError Value}
    (h : Says f method r) (h' : Says f method r') : r = r' := by
  cases h <;> cases h' <;> simp_all

theorem says_outcome (f : Frame) (method : String) : Says f method (f.outcome method) := by
  cases he : f.error with
  | some e =>
    have : f.outcome method =
        .error (.command method (e.text ++ " (" ++ toString e.code.toInt ++ ")")) := by
      simp [Frame.outcome, he, RemoteError.message]
    exact this ▸ .error e he
  | none =>
    cases hr : f.result with
    | some v =>
      have : f.outcome method = .ok v := by simp [Frame.outcome, he, hr]
      exact this ▸ .result v he hr
    | none =>
      have : f.outcome method = .ok (.object []) := by simp [Frame.outcome, he, hr, Value.empty]
      exact this ▸ .empty he hr

theorem Waiting.mem_ids {h : List Traffic} {id : UInt64} {method : String} (w : Waiting h id method) :
    id ∈ ids h := by
  obtain ⟨before, c, after, rfl, -⟩ := w
  exact List.mem_filterMap.mpr ⟨.sent (.sent id) c, by simp, rfl⟩

theorem Answered.mem_ids {h : List Traffic} {id : UInt64} {r : Except CoverageError Value}
    (a : Answered h id r) : id ∈ ids h := by
  obtain ⟨before, text, f, after, method, rfl, hwait, -⟩ := a
  rw [ids, List.filterMap_append]
  exact List.mem_append_left _ hwait.mem_ids

theorem nodup_of_concat {h : List Traffic} {x : Traffic} (distinct : (ids (h ++ [x])).Nodup) :
    (ids h).Nodup := by
  rw [ids_concat] at distinct
  exact (List.nodup_append.mp distinct).1

/-- A number is not registered again. -/
theorem ne_sent_of_mem_ids {h : List Traffic} {x : Traffic} (distinct : (ids (h ++ [x])).Nodup)
    {id : UInt64} (hid : id ∈ ids h) (c : Command) : x ≠ .sent (.sent id) c := by
  rintro rfl
  rw [ids_concat] at distinct
  exact (List.nodup_append.mp distinct).2.2 id hid id (by simp [registered?]) rfl

/-- A call that waits has not been answered. -/
theorem Waiting.not_answered {h : List Traffic} (distinct : (ids h).Nodup) {id : UInt64}
    {method : String} (w : Waiting h id method) (r : Except CoverageError Value) : ¬Answered h id r := by
  induction h using List.reverseRecOn with
  | nil =>
    rintro ⟨before, text, f, after, _, hsplit, -⟩
    simp at hsplit
  | append_singleton h x ih =>
    intro a
    have hold := nodup_of_concat distinct
    rcases answered_concat.mp a with a | ⟨text, f, m, rfl, -, hread, hid, -⟩
    · rcases waiting_concat.mp w with ⟨c, hx, -⟩ | ⟨w, -⟩
      · exact ne_sent_of_mem_ids distinct a.mem_ids c hx
      · exact ih hold w a
    · rcases waiting_concat.mp w with ⟨c, hx, -⟩ | ⟨-, hbears, -⟩
      · simp at hx
      · exact hbears ⟨text, f, rfl, hread, hid⟩

/-- A call has one method. -/
theorem Waiting.unique {h : List Traffic} (distinct : (ids h).Nodup) {id : UInt64} {m m' : String}
    (w : Waiting h id m) (w' : Waiting h id m') : m = m' := by
  induction h using List.reverseRecOn with
  | nil =>
    obtain ⟨before, c, after, hsplit, -⟩ := w
    simp at hsplit
  | append_singleton h x ih =>
    rcases waiting_concat.mp w with ⟨c, hx, hc⟩ | ⟨w, -⟩ <;>
      rcases waiting_concat.mp w' with ⟨c', hx', hc'⟩ | ⟨w', -⟩
    · rw [hx] at hx'
      simp only [sent.injEq, true_and] at hx'
      rw [← hc, ← hc', hx']
    · exact absurd hx (ne_sent_of_mem_ids distinct w'.mem_ids c)
    · exact absurd hx' (ne_sent_of_mem_ids distinct w.mem_ids c')
    · exact ih (nodup_of_concat distinct) w w'

/-- A call has at most one outcome. -/
theorem Answered.unique {h : List Traffic} (distinct : (ids h).Nodup) {id : UInt64}
    {r r' : Except CoverageError Value} (a : Answered h id r) (a' : Answered h id r') : r = r' := by
  induction h using List.reverseRecOn with
  | nil =>
    obtain ⟨before, text, f, after, _, hsplit, -⟩ := a
    simp at hsplit
  | append_singleton h x ih =>
    have hold := nodup_of_concat distinct
    rcases answered_concat.mp a with a | ⟨text, f, m, rfl, w, hread, hid, hsays⟩ <;>
      rcases answered_concat.mp a' with a' | ⟨text', f', m', hx', w', hread', hid', hsays'⟩
    · exact ih hold a a'
    · exact absurd a (w'.not_answered hold r)
    · exact absurd a' (w.not_answered hold r')
    · obtain rfl : text = text' := by simpa using hx'
      obtain rfl := hread.unique hread'
      rw [w.unique hold w'] at hsays
      exact hsays.unique hsays'

/-- Every registered call waits, or has been answered, or has been given up. -/
theorem waiting_or_answered_or_dropped {h : List Traffic} {id : UInt64} (hid : id ∈ ids h) :
    (∃ method, Waiting h id method) ∨ (∃ r, Answered h id r) ∨ .dropped id ∈ h := by
  induction h using List.reverseRecOn with
  | nil => simp [ids] at hid
  | append_singleton h x ih =>
    by_cases hnew : ∃ c, x = .sent (.sent id) c
    · obtain ⟨c, rfl⟩ := hnew
      exact Or.inl ⟨c.method, waiting_concat.mpr (Or.inl ⟨c, rfl, rfl⟩)⟩
    have hold : id ∈ ids h := by
      rw [ids_concat, List.mem_append] at hid
      refine hid.resolve_right fun hx => hnew ?_
      match x with
      | .sent (.sent i) c =>
        obtain rfl : id = i := by simpa [registered?] using hx
        exact ⟨c, rfl⟩
      | .sent .refused _ | .dropped _ | .frame _ | .taken _ _ => simp [registered?] at hx
    rcases ih hold with ⟨method, w⟩ | ⟨r, a⟩ | hdrop
    · by_cases hb : x.Bears id
      · obtain ⟨text, f, rfl, hread, hfid⟩ := hb
        exact Or.inr (Or.inl ⟨_, answered_concat.mpr
          (Or.inr ⟨text, f, method, rfl, w, hread, hfid, says_outcome f method⟩)⟩)
      · by_cases hd : x = .dropped id
        · exact Or.inr (Or.inr (by simp [hd]))
        · exact Or.inl ⟨method, waiting_concat.mpr (Or.inr ⟨w, hb, hd⟩)⟩
    · exact Or.inr (Or.inl ⟨r, answered_concat.mpr (Or.inl a)⟩)
    · exact Or.inr (Or.inr (by simp [hdrop]))

theorem not_bears_of_ne_frame {x : Traffic} (hx : ∀ text, x ≠ .frame text) (id : UInt64) : ¬x.Bears id := by
  rintro ⟨text, f, heq, -⟩
  exact hx text heq

@[simp] theorem not_bears_sent (call : SocketCall) (c : Command) (id : UInt64) : ¬(Traffic.sent call c).Bears id :=
  not_bears_of_ne_frame (by simp) id

@[simp] theorem not_bears_dropped (i id : UInt64) : ¬(Traffic.dropped i).Bears id := not_bears_of_ne_frame (by simp) id

@[simp] theorem not_bears_taken (i id : UInt64) (r : Except CoverageError Value) : ¬(Traffic.taken i r).Bears id :=
  not_bears_of_ne_frame (by simp) id

/-- A frame bears the number that it spells and no other. -/
theorem not_bears_of_spells {text : String} {f : Frame} (spells : Frame.Spells text f) {id : UInt64}
    (other : f.id ≠ some id) : ¬(Traffic.frame text).Bears id := by
  rintro ⟨_, g, hx, hread, hid⟩
  cases hx
  exact other (spells.unique hread ▸ hid)

theorem not_bears_of_parse? {text : String} (none : Json.parse? text = none) (id : UInt64) :
    ¬(Traffic.frame text).Bears id := by
  rintro ⟨_, g, hx, ⟨w, hw, -⟩, -⟩
  cases hx
  cases none.symm.trans hw

theorem answered_concat_of_ne_frame {h : List Traffic} {x : Traffic} (hx : ∀ text, x ≠ .frame text)
    {id : UInt64} {r : Except CoverageError Value} : Answered (h ++ [x]) id r ↔ Answered h id r := by
  rw [answered_concat, or_iff_left]
  rintro ⟨text, -, -, heq, -⟩
  exact hx text heq

/-- What does not end an answered call leaves it to its caller. -/
theorem answered_and_alive_concat {h : List Traffic} {x : Traffic} (hx : ∀ text, x ≠ .frame text)
    {id : UInt64} (hends : ¬x.ends id = true) {r : Except CoverageError Value} :
    Answered (h ++ [x]) id r ∧ Alive (h ++ [x]) id ↔ Answered h id r ∧ Alive h id := by
  rw [answered_concat_of_ne_frame hx, alive_concat]
  constructor
  · rintro ⟨a, -, hall, -⟩
    exact ⟨a, a.mem_ids, hall⟩
  · rintro ⟨a, hid, hall⟩
    exact ⟨a, Or.inl hid, hall, hends⟩

/-- The numbers given so far, and the one that is next. -/
structure Numbered (h : List Traffic) (next : UInt64) : Prop where
  next : next.toNat = (sends h + 1) % UInt64.size
  bound : ∀ id ∈ ids h, id.toNat ≤ sends h
  distinct : (ids h).Nodup

theorem Numbered.not_mem_ids {h : List Traffic} {next : UInt64} (n : Numbered h next)
    (few : sends h + 1 < UInt64.size) : next ∉ ids h := by
  intro hid
  have hbound := n.bound _ hid
  have hnext := n.next
  rw [Nat.mod_eq_of_lt few] at hnext
  omega

/-- A command takes the next number, whether it is registered under it or refused. -/
theorem Numbered.concat_sent {h : List Traffic} {next : UInt64} (n : Numbered h next)
    (few : sends h + 1 < UInt64.size) (call : SocketCall) (hcall : ∀ id, call = .sent id → id = next)
    (c : Command) : Numbered (h ++ [.sent call c]) (next + 1) := by
  have hnext := n.next
  rw [Nat.mod_eq_of_lt few] at hnext
  have hsends : sends (h ++ [.sent call c]) = sends h + 1 := by simp [isSend]
  refine ⟨?_, ?_, ?_⟩
  · have hone : (1 : UInt64).toNat = 1 := rfl
    rw [UInt64.toNat_add, hsends, hone, hnext]
  · intro id hid
    rw [ids_concat, List.mem_append] at hid
    rcases hid with hid | hid
    · have := n.bound id hid
      omega
    · cases call with
      | refused => simp [registered?] at hid
      | sent i =>
        obtain rfl : id = i := by simpa [registered?] using hid
        obtain rfl := hcall id rfl
        omega
  · rw [ids_concat]
    cases call with
    | refused => simpa [registered?] using n.distinct
    | sent i =>
      obtain rfl := hcall i rfl
      simp only [registered?, Option.toList_some, List.nodup_append, List.mem_singleton]
      refine ⟨n.distinct, by simp, ?_⟩
      rintro a ha b rfl rfl
      exact n.not_mem_ids few ha

theorem Numbered.concat {h : List Traffic} {next : UInt64} (n : Numbered h next) {x : Traffic}
    (hx : x.isSend = false) : Numbered (h ++ [x]) next := by
  have hids : ids (h ++ [x]) = ids h := by cases x <;> simp_all [isSend, registered?]
  have hsends : sends (h ++ [x]) = sends h := by simp [hx]
  exact ⟨hsends ▸ n.next, hids ▸ hsends ▸ n.bound, hids ▸ n.distinct⟩

/-- Callers are through with a call once, and only with one that has been registered and does not wait. -/
structure Concluded (h : List Traffic) : Prop where
  ended : ∀ id, ∀ x ∈ h, x.ends id = true → id ∈ ids h ∧ ∀ method, ¬Waiting h id method
  once : ∀ id, h.countP (ends id) ≤ 1
  taken : ∀ id r, .taken id r ∈ h → Answered h id r

theorem Concluded.alive_of_waiting {h : List Traffic} (hc : Concluded h) {id : UInt64} {method : String}
    (w : Waiting h id method) : Alive h id :=
  ⟨w.mem_ids, fun x hx hends => (hc.ended id x hx hends).2 method w⟩

theorem Concluded.concat {h : List Traffic} {x : Traffic} (hc : Concluded h)
    (distinct : (ids (h ++ [x])).Nodup)
    (hends : ∀ id, x.ends id = true → Alive h id ∧ ∀ method, ¬Waiting (h ++ [x]) id method)
    (htaken : ∀ id r, x = .taken id r → Answered h id r) : Concluded (h ++ [x]) where
  ended id y hy hend := by
    rcases List.mem_append.mp hy with hy | hy
    · obtain ⟨hid, hnot⟩ := hc.ended id y hy hend
      refine ⟨by rw [ids_concat]; exact List.mem_append_left _ hid, fun method w => ?_⟩
      rcases waiting_concat.mp w with ⟨c, hx, -⟩ | ⟨w, -⟩
      · exact ne_sent_of_mem_ids distinct hid c hx
      · exact hnot method w
    · obtain rfl := List.mem_singleton.mp hy
      obtain ⟨halive, hnot⟩ := hends id hend
      exact ⟨by rw [ids_concat]; exact List.mem_append_left _ halive.1, hnot⟩
  once id := by
    rw [List.countP_append]
    by_cases hx : x.ends id = true
    · have hzero : h.countP (ends id) = 0 := List.countP_eq_zero.mpr (hends id hx).1.2
      simp [hzero, hx]
    · have := hc.once id
      simpa [hx] using this
  taken id r hr := by
    rw [answered_concat]
    rcases List.mem_append.mp hr with hr | hr
    · exact Or.inl (hc.taken id r hr)
    · exact Or.inl (htaken id r (List.mem_singleton.mp hr).symm)

end Traffic

end PageCoverage
