import PageCoverage.Session.Request

namespace PageCoverage

/-- A session with the commands that have been sent on it, in order. -/
structure Recorded (σ : Type) where
  session : σ
  sent : List Command := []

namespace Recorded

variable {σ κ : Type} [Session σ κ]

instance : Session (Recorded σ) κ where
  router r := Session.router r.session
  withRouter r t := { r with session := Session.withRouter r.session t }
  refusal? r name := Session.refusal? r.session name
  send r c := ((Session.send r.session c).1, ⟨(Session.send r.session c).2, r.sent ++ [c]⟩)
  poll r call := ((Session.poll r.session call).1, { r with session := (Session.poll r.session call).2 })
  cancel r call := { r with session := Session.cancel r.session call }

end Recorded

namespace Request

variable {σ κ : Type} [Session σ κ]

def isSent : Request κ → Bool
  | .unsent _ => false
  | _ => true

/-- The session after commands have been sent and polled once each, in order. -/
def issueAll (s : σ) (cs : List Command) : σ := cs.foldl (fun s c => (poll s (.unsent c)).2) s

/-- A command fails with its first poll when it is sent behind others. -/
def RejectedAtOnce (s : σ) (before : List Command) (c : Command) : Prop :=
  (poll (issueAll s before) (.unsent c)).1.failure?.isSome = true

/-- The commands of a batch that its first poll sends: those up to one that is rejected at once. -/
def issued (s : σ) : List Command → List Command
  | [] => []
  | c :: cs => c :: (if (poll s (.unsent c)).1.failure?.isSome then [] else issued (poll s (.unsent c)).2 cs)

theorem issued_prefix (s : σ) (cs : List Command) : issued s cs <+: cs := by
  induction cs generalizing s with
  | nil => exact List.prefix_refl _
  | cons c cs ih =>
    rw [issued]
    split
    · exact (List.prefix_cons_inj c).mpr List.nil_prefix
    · exact (List.prefix_cons_inj c).mpr (ih _)

/-- A batch goes out whole unless a command before its last one is rejected at once. -/
theorem issued_eq_iff {s : σ} {cs : List Command} :
    issued s cs = cs ↔
      ∀ before c next after, cs = before ++ c :: next :: after → ¬RejectedAtOnce s before c := by
  induction cs generalizing s with
  | nil => simp [issued]
  | cons c cs ih =>
    rw [issued, List.cons.injEq]
    by_cases hc : (poll s (.unsent c)).1.failure?.isSome = true
    · simp only [hc, if_true, true_and]
      cases cs with
      | nil => simp [List.cons_eq_append_iff]
      | cons next after =>
        simp only [List.nil_eq, reduceCtorEq, false_iff]
        exact fun h => h [] c next after rfl hc
    · simp only [hc, Bool.false_eq_true, if_false, true_and, ih]
      constructor
      · intro h before d next after hsplit
        cases before with
        | nil =>
          obtain ⟨rfl, -⟩ := List.cons.inj hsplit
          exact hc
        | cons b before =>
          obtain ⟨rfl, hrest⟩ := List.cons.inj hsplit
          exact h before d next after hrest
      · intro h before d next after hsplit
        exact h (c :: before) d next after (by rw [hsplit]; rfl)

theorem isSent_poll (s : σ) (r : Request κ) : (r.poll s).1.isSent = true := by
  cases r with
  | unsent c =>
    simp only [poll]
    cases (Session.poll (Session.send s c).2 (Session.send s c).1).1 <;> rfl
  | pending call =>
    simp only [poll]
    cases (Session.poll s call).1 <;> rfl
  | done result => rfl

/-- Polling one request records its command exactly if it had not been sent. -/
theorem sent_poll_of_isSent {r : Request κ} (h : r.isSent = true) (s : Recorded σ) :
    (r.poll s).2.sent = s.sent := by
  cases r with
  | unsent c => simp [isSent] at h
  | pending call => rfl
  | done result => rfl

theorem poll_unsent_recorded (s : Recorded σ) (c : Command) :
    (poll s (.unsent c : Request κ)).1 = (poll s.session (.unsent c : Request κ)).1 ∧
      (poll s (.unsent c : Request κ)).2 =
        ⟨(poll s.session (.unsent c : Request κ)).2, s.sent ++ [c]⟩ :=
  ⟨rfl, rfl⟩

theorem pollAll_cons (s : σ) (r : Request κ) (rest : List (Request κ)) :
    pollAll s (r :: rest) =
      if (r.poll s).1.failure?.isSome then ((r.poll s).1 :: rest, (r.poll s).2)
      else ((r.poll s).1 :: (pollAll (r.poll s).2 rest).1, (pollAll (r.poll s).2 rest).2) := by
  cases h : (r.poll s).1.failure? <;> simp [pollAll, h]

/-- The first poll of a batch records the commands that it issues. -/
theorem sent_pollAll_unsent (s : Recorded σ) (cs : List Command) :
    (pollAll s (cs.map Request.unsent : List (Request κ))).2.sent = s.sent ++ issued s.session cs := by
  induction cs generalizing s with
  | nil => simp [pollAll, issued]
  | cons c cs ih =>
    obtain ⟨hreq, hses⟩ := poll_unsent_recorded (κ := κ) s c
    rw [List.map_cons, pollAll_cons, hreq, issued]
    split
    · rw [hses]
    · rw [hses, ih, List.append_assoc]
      rfl

/-- A batch that has gone out whole sends nothing more. -/
theorem sent_pollAll_of_isSent {rs : List (Request κ)} (h : ∀ r ∈ rs, r.isSent = true)
    (s : Recorded σ) : (pollAll s rs).2.sent = s.sent := by
  induction rs generalizing s with
  | nil => rfl
  | cons r rs ih =>
    have hr := sent_poll_of_isSent (h r (by simp)) s
    rw [pollAll_cons]
    split
    · exact hr
    · exact (ih (fun x hx => h x (by simp [hx])) _).trans hr

/-- Where no request of a polled batch has failed, all of them have been sent. -/
theorem isSent_pollAll {rs : List (Request κ)} {s : σ} (h : firstFailure? (pollAll s rs).1 = none) :
    ∀ r ∈ (pollAll s rs).1, r.isSent = true := by
  induction rs generalizing s with
  | nil => simp [pollAll]
  | cons r rs ih =>
    have hsent := isSent_poll s r
    rw [pollAll_cons] at h ⊢
    split at h
    next hf =>
      rw [firstFailure?, List.findSome?_cons] at h
      cases he : (r.poll s).1.failure? with
      | none => simp [he] at hf
      | some e => simp [he] at h
    next hf =>
      rw [if_neg hf]
      have hrest : firstFailure? (pollAll (r.poll s).2 rs).1 = none := by
        rw [firstFailure?, List.findSome?_cons] at h
        cases he : (r.poll s).1.failure? with
        | none => simpa [he, firstFailure?] using h
        | some e => simp [he] at hf
      intro x hx
      rcases List.mem_cons.mp hx with rfl | hx
      · exact hsent
      · exact ih hrest x hx

end Request

end PageCoverage
