import Mathlib.Data.List.Forall2
import PageCoverage.Proofs.Session.Recorded

namespace PageCoverage

namespace Request

variable {σ κ : Type} [Session σ κ]

/-- A request that has come of a command, by sending it and polling for its answer. -/
inductive Of (σ : Type) {κ : Type} [Session σ κ] (c : Command) : Request κ → Prop where
  | unsent : Of σ c (.unsent c)
  | poll {r : Request κ} (s : σ) : Of σ c r → Of σ c (r.poll s).1

omit [Session σ κ] in
/-- The answer to a request is there, and it is no error. -/
def Succeeded (r : Request κ) : Prop := ∃ v, r = .done (.ok v)

theorem forall₂_unsent (cs : List Command) :
    List.Forall₂ (Of σ) cs (cs.map (Request.unsent : Command → Request κ)) := by
  induction cs with
  | nil => exact .nil
  | cons c cs ih => exact .cons .unsent ih

/-- Polling a batch leaves each request with its command. -/
theorem forall₂_pollAll {cs : List Command} {rs : List (Request κ)} (h : List.Forall₂ (Of σ) cs rs) (s : σ) :
    List.Forall₂ (Of σ) cs (pollAll s rs).1 := by
  induction h generalizing s with
  | nil => exact .nil
  | @cons c r cs rs hr hrs ih =>
    have hpolled : Of σ c (r.poll s).1 := .poll s hr
    rw [pollAll_cons]
    split
    · exact .cons hpolled hrs
    · exact .cons hpolled (ih _)

section

omit [Session σ κ]

variable {rs : List (Request κ)} {e : CoverageError} {vs : List Value}

theorem failure?_eq_some {r : Request κ} : r.failure? = some e ↔ r = .done (.error e) := by
  cases r with
  | done result => cases result <;> simp [failure?]
  | _ => simp [failure?]

theorem answer?_eq_some {r : Request κ} {v : Value} : r.answer? = some v ↔ r = .done (.ok v) := by
  cases r with
  | done result => cases result <;> simp [answer?]
  | _ => simp [answer?]

theorem mem_of_firstFailure? (h : firstFailure? rs = some e) : .done (.error e) ∈ rs := by
  obtain ⟨r, hr, hfailure⟩ := List.exists_of_findSome?_eq_some h
  rwa [failure?_eq_some.mp hfailure] at hr

theorem firstFailure?_eq_none_iff : firstFailure? rs = none ↔ ∀ e, .done (.error e) ∉ rs := by
  rw [firstFailure?, List.findSome?_eq_none_iff]
  constructor
  · intro h e he
    have hnone := h _ he
    cases hnone
  · intro h r hr
    cases hfailure : r.failure? with
    | none => rfl
    | some e =>
      rw [failure?_eq_some] at hfailure
      exact absurd (hfailure ▸ hr) (h e)

theorem answers?_cons (r : Request κ) (rs : List (Request κ)) :
    answers? (r :: rs) = r.answer?.bind fun v => (answers? rs).map (v :: ·) := by
  simp only [answers?, List.mapM_cons]
  cases r.answer? with
  | none => rfl
  | some v => cases List.mapM answer? rs <;> rfl

theorem answers?_eq_some_iff : answers? rs = some vs ↔ rs = vs.map fun v => .done (.ok v) := by
  induction rs generalizing vs with
  | nil => cases vs <;> simp [answers?]
  | cons r rs ih =>
    rw [answers?_cons, Option.bind_eq_some_iff]
    cases vs with
    | nil => simp
    | cons v vs => simp [answer?_eq_some, ih]

theorem succeeded_iff : (∀ r ∈ rs, r.Succeeded) ↔ ∃ vs, answers? rs = some vs := by
  simp only [answers?_eq_some_iff]
  induction rs with
  | nil => exact ⟨fun _ => ⟨[], rfl⟩, fun _ => nofun⟩
  | cons r rs ih =>
    rw [List.forall_mem_cons, ih]
    constructor
    · rintro ⟨⟨v, rfl⟩, vs, rfl⟩
      exact ⟨v :: vs, rfl⟩
    · rintro ⟨_ | ⟨v, vs⟩, h⟩
      · cases h
      · obtain ⟨rfl, rfl⟩ := List.cons.inj h
        exact ⟨⟨v, rfl⟩, vs, rfl⟩

theorem not_mem_of_succeeded (h : ∀ r ∈ rs, r.Succeeded) (e : CoverageError) : .done (.error e) ∉ rs := by
  intro he
  obtain ⟨v, hv⟩ := h _ he
  cases hv

/-- What a batch has come to. -/
inductive Verdict (rs : List (Request κ)) : Prop where
  | failed (e : CoverageError) (first : firstFailure? rs = some e) (mem : .done (.error e) ∈ rs)
  | succeeded (vs : List Value) (first : firstFailure? rs = none) (answers : answers? rs = some vs)
    (all : ∀ r ∈ rs, r.Succeeded)
  | waiting (first : firstFailure? rs = none) (answers : answers? rs = none)
    (unfailed : ∀ e, .done (.error e) ∉ rs) (unsettled : ∃ r ∈ rs, ¬r.Succeeded)

theorem verdict (rs : List (Request κ)) : Verdict rs := by
  cases hfirst : firstFailure? rs with
  | some e => exact .failed e hfirst (mem_of_firstFailure? hfirst)
  | none =>
    cases hanswers : answers? rs with
    | some vs => exact .succeeded vs hfirst hanswers (succeeded_iff.mpr ⟨vs, hanswers⟩)
    | none =>
      -- Were all of them through, the answers would be complete.
      refine .waiting hfirst hanswers (firstFailure?_eq_none_iff.mp hfirst) ?_
      by_contra hall
      push Not at hall
      obtain ⟨vs, hsome⟩ := succeeded_iff.mp hall
      rw [hanswers] at hsome
      cases hsome

end

end Request

end PageCoverage
