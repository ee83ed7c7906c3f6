import PageCoverage.Proofs.Session.Attended

namespace PageCoverage

namespace StandIn

open Act

/-- A call that is neither answered nor given up. -/
def Waits (h : List Act) (n : Nat) : Prop := ∃ call, (run h).calls[n]? = some (some (.waiting call))

def Answered (h : List Act) (n : Nat) (r : Except CoverageError Value) : Prop :=
  (run h).calls[n]? = some (some (.finished r))

/-- With its next look a waiting call is through. -/
def Completes (h : List Act) (n : Nat) (r : Except CoverageError Value) : Prop :=
  Waits h n ∧ Answered (.look n :: h) n r

/-- A call was given up while it waited. -/
def GivenUp (h : List Act) (n : Nat) : Prop := ∃ later earlier, h = later ++ .cancel n :: earlier ∧ Waits earlier n

variable {h after before : List Act} {c : Command} {gate n : Nat} {p : Option (Progress HeldCall)}

theorem GivenUp.cons (given : GivenUp h n) (a : Act) : GivenUp (a :: h) n := by
  obtain ⟨later, earlier, rfl, waits⟩ := given
  exact ⟨a :: later, earlier, rfl, waits⟩

/-- How a call stands behind the acts since it was sent: it waits for what is left of its gates, it has passed them
all and got the answer of that moment, or it is gone. -/
inductive Stands (before : List Act) (c : Command) (after : List Act) : Option (Progress HeldCall) → Prop where
  | waiting (passed gates : List Nat) (split : (run before).target.gatesFor c = passed ++ gates)
    (opened : ∀ g ∈ passed, isOpen g (after ++ .send c :: before) = true) :
    Stands before c after (some (.waiting ⟨c, gates⟩))
  | finished (later earlier : List Act) (split : after = later ++ .look (sent before).length :: earlier)
    (completes : Completes (earlier ++ .send c :: before) (sent before).length
      ((inForce (earlier ++ .send c :: before)).answer c))
    (opened : ∀ g ∈ (run before).target.gatesFor c, isOpen g (after ++ .send c :: before) = true) :
    Stands before c after (some (.finished ((inForce (earlier ++ .send c :: before)).answer c)))
  | gone (given : GivenUp (after ++ .send c :: before) (sent before).length) : Stands before c after none

/-- An act that leaves a call alone leaves it as it stands. -/
theorem Stands.cons (stands : Stands before c after p) (a : Act) : Stands before c (a :: after) p := by
  cases stands with
  | waiting passed gates split opened => exact .waiting passed gates split fun g hg => isOpen_cons (opened g hg) a
  | finished later earlier split completes opened =>
    have hsplit : a :: after = (a :: later) ++ .look (sent before).length :: earlier := congrArg (a :: ·) split
    exact .finished (a :: later) earlier hsplit completes fun g hg => isOpen_cons (opened g hg) a
  | gone given => exact .gone (given.cons a)

/-- The gates in the way of a command are there from its sending on, and let calls pass once they are open. -/
theorem isPassable_of_mem_gatesFor (hgate : gate ∈ (run before).target.gatesFor c) (after : List Act) :
    (run (after ++ .send c :: before)).target.isPassable gate = isOpen gate (after ++ .send c :: before) := by
  obtain ⟨params, hmade, -⟩ := mem_gatesFor_run.mp hgate
  have hprefix : made before <+: made (after ++ .send c :: before) := made_prefix after (.send c :: before)
  exact isPassable_run (Nat.lt_of_lt_of_le (List.getElem?_eq_some_iff.mp hmade).1 hprefix.length_le)

/-- A call with some gates left passes those that have been opened. It gets the answer in force behind the last one, or
waits at one that is closed. -/
theorem poll_run {gates : List Nat} (left : gates ⊆ (run before).target.gatesFor c) (after : List Act) :
    let h := after ++ .send c :: before
    ((∀ g ∈ gates, isOpen g h = true) ∧ (run h).target.poll ⟨c, gates⟩ = .finished ((inForce h).answer c)) ∨
      ∃ passed gate rest, gates = passed ++ gate :: rest ∧ (∀ g ∈ passed, isOpen g h = true) ∧
        isOpen gate h = false ∧ (run h).target.poll ⟨c, gates⟩ = .waiting ⟨c, gate :: rest⟩ := by
  intro h
  have hpassable {g : Nat} (hg : g ∈ gates) : (run h).target.isPassable g = isOpen g h :=
    isPassable_of_mem_gatesFor (left hg) after
  obtain ⟨hall, hpoll⟩ | ⟨passed, gate, rest, hsplit, hpassed, hclosed, hpoll⟩ := (run h).target.poll_spec ⟨c, gates⟩
  · refine .inl ⟨fun g hg => hpassable hg ▸ hall g hg, ?_⟩
    rw [hpoll, answer_run]
  · have hsplit : gates = passed ++ gate :: rest := hsplit
    have hgate : gate ∈ gates := by simp [hsplit]
    refine .inr ⟨passed, gate, rest, hsplit, fun g hg => ?_, hpassable hgate ▸ hclosed, hpoll⟩
    have hmem : g ∈ gates := by simp [hsplit, hg]
    exact hpassable hmem ▸ hpassed g hg

/-- A look takes a call past the gates that are open, and to its answer if all are. -/
theorem Stands.look (stands : Stands before c after p)
    (hp : (run (after ++ .send c :: before)).calls[(sent before).length]? = some p) :
    Stands before c (.look (sent before).length :: after) (proceed (run (after ++ .send c :: before)).target p) := by
  cases stands with
  | waiting passed gates split opened =>
    have left : gates ⊆ (run before).target.gatesFor c := split ▸ List.subset_append_right passed gates
    -- What has been passed before stays open, so a call need not see all its gates open at one time.
    obtain ⟨hopen, hpoll⟩ | ⟨further, gate, rest, hgates, hfurther, -, hpoll⟩ := poll_run left after
    · have hanswered : Answered (.look (sent before).length :: (after ++ .send c :: before)) (sent before).length
          ((inForce (after ++ .send c :: before)).answer c) := by
        rw [Answered, run, Attended.perform, List.getElem?_modify_eq, hp, ← hpoll]
        rfl
      rw [proceed, hpoll]
      refine .finished [] after rfl ⟨⟨_, hp⟩, hanswered⟩ fun g hg => ?_
      rw [split] at hg
      exact (List.mem_append.mp hg).elim (opened g) (hopen g)
    · rw [proceed, hpoll]
      refine .waiting (passed ++ further) (gate :: rest) ?_ fun g hg => ?_
      · rw [split, hgates, List.append_assoc]
      · exact (List.mem_append.mp hg).elim (opened g) (hfurther g)
  | finished later earlier split completes opened =>
    exact (Stands.finished later earlier split completes opened).cons _
  | gone given => exact (Stands.gone given).cons _

theorem Stands.cancel (stands : Stands before c after p)
    (hp : (run (after ++ .send c :: before)).calls[(sent before).length]? = some p) :
    Stands before c (.cancel (sent before).length :: after) (giveUp p) := by
  cases stands with
  | waiting passed gates split opened => exact .gone ⟨[], _, rfl, ⟨_, hp⟩⟩
  | finished later earlier split completes opened =>
    exact (Stands.finished later earlier split completes opened).cons _
  | gone given => exact (Stands.gone given).cons _

theorem stands_run (before : List Act) (c : Command) (after : List Act) :
    ∃ p, (run (after ++ .send c :: before)).calls[(sent before).length]? = some p ∧ Stands before c after p := by
  -- By induction on the acts since the sending, of which only its caller's own ones move the call.
  induction after with
  | nil =>
    refine ⟨some (.waiting ⟨c, (run before).target.gatesFor c⟩), ?_, .waiting [] _ rfl nofun⟩
    rw [← length_calls_run]
    exact List.getElem?_concat_length
  | cons a after ih =>
    obtain ⟨p, hp, stands⟩ := ih
    obtain ⟨rfl, hnext⟩ | ⟨rfl, hnext⟩ | hnext := Attended.getElem?_calls_perform hp a
    · exact ⟨_, hnext, stands.look hp⟩
    · exact ⟨_, hnext, stands.cancel hp⟩
    · exact ⟨p, hnext, stands.cons a⟩

/-- A call that no look brings any further is answered exactly if its gates are open, unless it was given up. -/
theorem Stands.answered_iff (stands : Stands before c after p)
    (hp : (run (after ++ .send c :: before)).calls[(sent before).length]? = some p)
    (rests : proceed (run (after ++ .send c :: before)).target p = p)
    (kept : ¬GivenUp (after ++ .send c :: before) (sent before).length) :
    (∃ r, Answered (after ++ .send c :: before) (sent before).length r) ↔
      ∀ g, Matches before c g → isOpen g (after ++ .send c :: before) = true := by
  simp only [Answered, hp, Option.some.injEq, ← mem_gatesFor_run]
  cases stands with
  | waiting passed gates split opened =>
    have left : gates ⊆ (run before).target.gatesFor c := split ▸ List.subset_append_right passed gates
    refine iff_of_false nofun fun hopen => ?_
    obtain ⟨-, hpoll⟩ | ⟨further, gate, rest, hgates, -, hclosed, -⟩ := poll_run left after
    · rw [proceed, hpoll] at rests
      cases rests
    · have hgate : gate ∈ gates := by simp [hgates]
      rw [hopen gate (left hgate)] at hclosed
      cases hclosed
  | finished later earlier split completes opened => exact iff_of_true ⟨_, rfl⟩ opened
  | gone given => exact absurd given kept

/-- Once its caller has looked, a call has gone as far as it can, whoever else looks. -/
theorem rests_run_looks {looks : List Nat} (hn : n ∈ looks ∨ ¬Waits h n) :
    (run (looks.map .look ++ h)).perform (.look n) = run (looks.map .look ++ h) := by
  induction looks with
  | nil =>
    rw [Attended.perform_look_eq_iff]
    intro p hp
    match p with
    | none => rfl
    | some (.finished r) => rfl
    | some (.waiting call) => exact absurd ⟨call, hp⟩ (hn.resolve_left List.not_mem_nil)
  | cons m looks ih =>
    refine Attended.perform_look_look ?_
    rw [List.mem_cons, or_assoc] at hn
    exact hn.imp_right ih

end StandIn

end PageCoverage
