import PageCoverage.Session.StandIn
import Mathlib.Data.List.TakeWhile

namespace PageCoverage

namespace StandIn

/-- Something done on a stand-in. Gates and calls are known by the order in which they came. -/
inductive Act where
  | hold (method : String) (params : Option Value)
  | release (gate : Nat)
  /-- The owner of a gate drops it. -/
  | discard (gate : Nat)
  | send (c : Command)
  /-- The caller of a command looks for its answer. -/
  | look (call : Nat)
  /-- The caller of a command gives up. -/
  | cancel (call : Nat)
  | respond (method : String) (r : Reply)
  | addScript (id source : String)
  | addStylesheet (id text : String)

/-- A stand-in with how far each of its calls has come. One that was given up while it waited is gone. -/
structure Attended where
  target : StandIn := {}
  calls : List (Option (Progress HeldCall)) := []

/-- What a look does to a call. -/
def proceed (s : StandIn) : Option (Progress HeldCall) → Option (Progress HeldCall)
  | some (.waiting call) => some (s.poll call)
  | p => p

/-- Only a call that waits can be given up. -/
def giveUp : Option (Progress HeldCall) → Option (Progress HeldCall)
  | some (.waiting _) => none
  | p => p

/-- Neither a look nor a cancel changes the stand-in itself. -/
def Attended.perform (s : Attended) : Act → Attended
  | .hold method params => { s with target := (s.target.hold method params).2 }
  | .release gate | .discard gate => { s with target := s.target.openGate gate }
  | .send c => { target := (s.target.send c).2, calls := s.calls ++ [some (.waiting (s.target.send c).1)] }
  | .look n => { s with calls := s.calls.modify n (proceed s.target) }
  | .cancel n => { s with calls := s.calls.modify n giveUp }
  | .respond method r => { s with target := s.target.respond method r }
  | .addScript id source => { s with target := s.target.addScript id source }
  | .addStylesheet id text => { s with target := s.target.addStylesheet id text }

/-- All that can proceed has done so: no caller who looks brings anything about. -/
def Attended.Settled (s : Attended) : Prop := ∀ n, s.perform (.look n) = s

/-- A new stand-in after a history, which has the latest act first. -/
def run : List Act → Attended
  | [] => {}
  | a :: h => (run h).perform a

namespace Act

/-- The gates that have been made, in order. -/
def made : List Act → List (String × Option Value)
  | [] => []
  | .hold method params :: h => made h ++ [(method, params)]
  | _ :: h => made h

/-- The commands that have been sent, in order. -/
def sent : List Act → List Command
  | [] => []
  | .send c :: h => sent h ++ [c]
  | _ :: h => sent h

/-- Whether a gate has been released or dropped since it was made. -/
def isOpen (gate : Nat) : List Act → Bool
  | [] => false
  | .release g :: h | .discard g :: h => isOpen gate h || g == gate && decide (gate < (made h).length)
  | _ :: h => isOpen gate h

/-- A gate that has been made is of a command's method and, if it is for certain parameters, for exactly those of
the command. -/
def Matches (h : List Act) (c : Command) (gate : Nat) : Prop :=
  ∃ params, (made h)[gate]? = some (c.method, params) ∧ ∀ p ∈ params, (p == c.params) = true

def reply? : Act → Option (String × Reply)
  | .respond method r => some (method, r)
  | _ => none

def script? : Act → Option (String × String)
  | .addScript id source => some (id, source)
  | _ => none

def stylesheet? : Act → Option (String × String)
  | .addStylesheet id text => some (id, text)
  | _ => none

/-- A stand-in with nothing but the replies and sources that have been given, the latest first. -/
def inForce (h : List Act) : StandIn :=
  { replies := h.filterMap reply?, scriptSources := h.filterMap script?, sheetTexts := h.filterMap stylesheet? }

end Act

open Act

/-- A call passes the open gates in front of it. It is answered behind the last one, or waits at a closed one. -/
theorem poll_spec (s : StandIn) (call : HeldCall) :
    ((∀ g ∈ call.gates, s.isPassable g = true) ∧ s.poll call = .finished (s.answer call.command)) ∨
      ∃ passed gate gates, call.gates = passed ++ gate :: gates ∧ (∀ g ∈ passed, s.isPassable g = true) ∧
        s.isPassable gate = false ∧ s.poll call = .waiting ⟨call.command, gate :: gates⟩ := by
  rw [poll]
  cases hgates : call.gates.dropWhile s.isPassable with
  | nil => exact .inl ⟨List.dropWhile_eq_nil_iff.mp hgates, rfl⟩
  | cons gate gates =>
    have hsplit : call.gates.takeWhile s.isPassable ++ gate :: gates = call.gates := by
      rw [← hgates, List.takeWhile_append_dropWhile]
    have hclosed := List.head?_dropWhile_not s.isPassable call.gates
    rw [hgates] at hclosed
    exact .inr ⟨_, gate, gates, hsplit.symm, fun g hg => List.mem_takeWhile_imp hg, by simpa using hclosed, rfl⟩

/-- A call that waits goes on waiting for as long as its gates stay closed. -/
theorem poll_of_waiting {s : StandIn} {call next : HeldCall} (h : s.poll call = .waiting next) :
    s.poll next = .waiting next := by
  obtain ⟨-, hpoll⟩ | ⟨passed, gate, gates, -, -, hclosed, hpoll⟩ := s.poll_spec call
  · rw [hpoll] at h
    cases h
  · rw [hpoll] at h
    cases h
    simp only [poll, List.dropWhile_cons_of_neg (Bool.eq_false_iff.mp hclosed)]

theorem proceed_proceed (s : StandIn) (p : Option (Progress HeldCall)) :
    proceed s (proceed s p) = proceed s p := by
  match p with
  | none => rfl
  | some (.finished r) => rfl
  | some (.waiting call) =>
    cases hpoll : s.poll call with
    | finished r => simp only [proceed, hpoll]
    | waiting next => simp only [proceed, hpoll, poll_of_waiting hpoll]

namespace Attended

variable {s : Attended} {n : Nat} {p : Option (Progress HeldCall)}

/-- Only its own caller's look or cancel does anything to a call that is there. -/
theorem getElem?_calls_perform (hp : s.calls[n]? = some p) (a : Act) :
    a = .look n ∧ (s.perform a).calls[n]? = some (proceed s.target p) ∨
      a = .cancel n ∧ (s.perform a).calls[n]? = some (giveUp p) ∨ (s.perform a).calls[n]? = some p := by
  have hmodify (f : Option (Progress HeldCall) → Option (Progress HeldCall)) :
      (s.calls.modify n f)[n]? = some (f p) := by
    rw [List.getElem?_modify_eq, hp]
    rfl
  cases a with
  | send c => exact .inr (.inr ((List.getElem?_append_left (List.getElem?_eq_some_iff.mp hp).1).trans hp))
  | look m =>
    by_cases hm : m = n
    · subst hm
      exact .inl ⟨rfl, hmodify _⟩
    · exact .inr (.inr ((List.getElem?_modify_ne _ _ hm).trans hp))
  | cancel m =>
    by_cases hm : m = n
    · subst hm
      exact .inr (.inl ⟨rfl, hmodify _⟩)
    · exact .inr (.inr ((List.getElem?_modify_ne _ _ hm).trans hp))
  | _ => exact .inr (.inr hp)

theorem perform_look_eq_iff :
    s.perform (.look n) = s ↔ ∀ p, s.calls[n]? = some p → proceed s.target p = p := by
  constructor
  · intro h p hp
    have hcalls : (s.perform (.look n)).calls[n]? = s.calls[n]? := by rw [h]
    rw [perform, List.getElem?_modify_eq, hp] at hcalls
    exact Option.some.inj hcalls
  · intro h
    have hcalls : s.calls.modify n (proceed s.target) = s.calls := by
      refine List.ext_getElem? fun m => ?_
      by_cases hm : n = m
      · subst hm
        rw [List.getElem?_modify_eq]
        cases hp : s.calls[n]? with
        | none => rfl
        | some p => exact congrArg some (h p hp)
      · exact List.getElem?_modify_ne _ _ hm
    rw [perform, hcalls]

/-- A look leaves nothing to do for its own caller, and gives no other caller anything to do. -/
theorem perform_look_look {m : Nat} (h : n = m ∨ s.perform (.look n) = s) :
    (s.perform (.look m)).perform (.look n) = s.perform (.look m) := by
  rw [perform_look_eq_iff] at h ⊢
  intro p hp
  have htarget : (s.perform (.look m)).target = s.target := rfl
  rw [htarget]
  by_cases hm : m = n
  · subst hm
    rw [perform, List.getElem?_modify_eq] at hp
    obtain ⟨q, -, rfl⟩ := Option.map_eq_some_iff.mp hp
    exact proceed_proceed _ q
  · rw [perform, List.getElem?_modify_ne _ _ hm] at hp
    exact h.resolve_left (Ne.symm hm) p hp

end Attended

variable {h : List Act} {c : Command} {gate : Nat}

theorem lt_of_isOpen (hopen : isOpen gate h = true) : gate < (made h).length := by
  induction h with
  | nil => cases hopen
  | cons a h ih =>
    cases a with
    | hold method params =>
      rw [made, List.length_append]
      exact Nat.lt_add_right _ (ih hopen)
    | release g | discard g =>
      rw [isOpen, Bool.or_eq_true, Bool.and_eq_true, decide_eq_true_iff] at hopen
      exact hopen.elim ih And.right
    | _ => exact ih hopen

theorem isOpen_cons (hopen : isOpen gate h = true) (a : Act) : isOpen gate (a :: h) = true := by
  cases a with
  | release g | discard g => exact Bool.or_eq_true_iff.mpr (.inl hopen)
  | _ => exact hopen

theorem made_prefix (after h : List Act) : made h <+: made (after ++ h) := by
  induction after with
  | nil => exact List.prefix_refl _
  | cons a after ih =>
    cases a with
    | hold method params => exact ih.trans (List.prefix_append _ _)
    | _ => exact ih

/-- Opening a gate opens it for good and leaves the others. -/
theorem modify_mapIdx_made (h : List Act) (g : Nat) :
    ((made h).mapIdx fun i gate => (⟨gate.1, gate.2, isOpen i h⟩ : Gate)).modify g (fun k => { k with isOpen := true }) =
      (made h).mapIdx fun i gate => ⟨gate.1, gate.2, isOpen i h || g == i && decide (i < (made h).length)⟩ := by
  refine List.ext_getElem? fun i => ?_
  rw [List.getElem?_modify, List.getElem?_mapIdx, List.getElem?_mapIdx]
  cases hi : (made h)[i]? with
  | none => rfl
  | some gate =>
    have hlt := (List.getElem?_eq_some_iff.mp hi).1
    by_cases hg : g = i <;> simp [hg, hlt]

/-- The gates of a stand-in are those that have been made, each as open as its history says. -/
theorem gates_run (h : List Act) :
    (run h).target.gates = (made h).mapIdx fun i gate => ⟨gate.1, gate.2, isOpen i h⟩ := by
  induction h with
  | nil => rfl
  | cons a h ih =>
    cases a with
    | hold method params =>
      have hnew : isOpen (made h).length h = false :=
        Bool.eq_false_iff.mpr fun hopen => Nat.lt_irrefl _ (lt_of_isOpen hopen)
      show (run h).target.gates ++ [⟨method, params, false⟩] = _
      rw [ih, made, List.mapIdx_concat]
      simp only [isOpen, hnew]
    | release g | discard g => exact (congrArg _ ih).trans (modify_mapIdx_made h g)
    | _ => exact ih

theorem isPassable_run (hgate : gate < (made h).length) : (run h).target.isPassable gate = isOpen gate h := by
  rw [isPassable, gates_run, List.getElem?_mapIdx, List.getElem?_eq_getElem hgate]
  rfl

theorem matchesCommand_iff {k : Gate} :
    k.matchesCommand c = true ↔ k.method = c.method ∧ ∀ p ∈ k.params, (p == c.params) = true := by
  cases hparams : k.params <;> simp [Gate.matchesCommand, hparams]

theorem mem_gatesFor {s : StandIn} :
    gate ∈ s.gatesFor c ↔ ∃ k, s.gates[gate]? = some k ∧ k.matchesCommand c = true := by
  simp only [gatesFor, List.mem_filterMap, Prod.exists, List.mk_mem_zipIdx_iff_getElem?, Option.ite_none_right_eq_some,
    Option.some.injEq]
  constructor
  · rintro ⟨k, _, hk, hmatches, rfl⟩
    exact ⟨k, hk, hmatches⟩
  · rintro ⟨k, hk, hmatches⟩
    exact ⟨k, gate, hk, hmatches, rfl⟩

/-- A command is held behind the gates that match it when it is sent. -/
theorem mem_gatesFor_run : gate ∈ (run h).target.gatesFor c ↔ Matches h c gate := by
  rw [mem_gatesFor, gates_run, List.getElem?_mapIdx]
  constructor
  · rintro ⟨k, hk, hmatches⟩
    obtain ⟨⟨method, params⟩, hmade, rfl⟩ := Option.map_eq_some_iff.mp hk
    obtain ⟨rfl, hparams⟩ := matchesCommand_iff.mp hmatches
    exact ⟨params, hmade, hparams⟩
  · rintro ⟨params, hmade, hparams⟩
    exact ⟨⟨c.method, params, isOpen gate h⟩, by rw [hmade]; rfl, matchesCommand_iff.mpr ⟨rfl, hparams⟩⟩

theorem history_run (h : List Act) : (run h).target.history = sent h := by
  induction h with
  | nil => rfl
  | cons a h ih =>
    cases a with
    | send c => exact congrArg (· ++ [c]) ih
    | _ => exact ih

theorem length_calls_run (h : List Act) : (run h).calls.length = (sent h).length := by
  induction h with
  | nil => rfl
  | cons a h ih =>
    cases a with
    | send c =>
      show ((run h).calls ++ [_]).length = (sent h ++ [c]).length
      rw [List.length_append, List.length_append, ih]
      rfl
    | look m | cancel m => exact (List.length_modify ..).trans ih
    | _ => exact ih

/-- What a command is answered with depends on the replies and sources alone. -/
theorem answer_run (h : List Act) (c : Command) : (run h).target.answer c = (inForce h).answer c := by
  have hgiven : (run h).target.replies = h.filterMap reply? ∧
      (run h).target.scriptSources = h.filterMap script? ∧ (run h).target.sheetTexts = h.filterMap stylesheet? := by
    induction h with
    | nil => exact ⟨rfl, rfl, rfl⟩
    | cons a h ih =>
      obtain ⟨hreplies, hscripts, hsheets⟩ := ih
      cases a with
      | respond method r => exact ⟨congrArg ((method, r) :: ·) hreplies, hscripts, hsheets⟩
      | addScript id source => exact ⟨hreplies, congrArg ((id, source) :: ·) hscripts, hsheets⟩
      | addStylesheet id text => exact ⟨hreplies, hscripts, congrArg ((id, text) :: ·) hsheets⟩
      | _ => exact ⟨hreplies, hscripts, hsheets⟩
  obtain ⟨hreplies, hscripts, hsheets⟩ := hgiven
  simp only [answer, builtin, inForce, hreplies, hscripts, hsheets]

end StandIn

end PageCoverage
