import PageCoverage.Proofs.Cache.Ordered
import PageCoverage.Proofs.Router.Delivery

namespace PageCoverage

namespace Cache

/-- The acts that begin a new generation. A reset does so if its answer is true. -/
def renews (c : Cache) : Act → Bool
  | .beginSession | .close => true
  | .reset => c.reset.1
  | _ => false

/-- The acts that have begun a new generation since a history, the latest first. -/
def renewals (h : List Act) : List Act → List Act
  | [] => []
  | a :: later => if (run (later ++ h)).renews a then a :: renewals h later else renewals h later

variable {c : Cache} {h later : List Act} {generation : UInt64}

theorem acceptingGeneration_eq_some :
    c.acceptingGeneration = some generation ↔ c.accepting = true ∧ c.generation = generation := by
  rw [acceptingGeneration]
  split
  next accepting => simp [accepting]
  next closed => simp [closed]

theorem insert_fst_iff {r : Record} :
    (c.insert generation r).1 = true ↔ c.accepting = true ∧ generation = c.generation := by
  rw [insert]
  split
  next holds => exact iff_of_true rfl holds
  next fails => exact iff_of_false Bool.false_ne_true fails

theorem generation_perform (c : Cache) (a : Act) :
    (c.perform a).generation = if c.renews a then c.generation + 1 else c.generation := by
  cases a with
  | reset =>
    obtain hreset | hreset := c.reset_cases
    · have hrenews : c.renews .reset = true := congrArg Prod.fst hreset
      rw [if_pos hrenews, perform, hreset]
      rfl
    · have hrenews : c.renews .reset = false := congrArg Prod.fst hreset
      rw [if_neg (Bool.eq_false_iff.mp hrenews), perform, hreset]
  | insert generation r => exact c.generation_insert generation r
  | _ => rfl

/-- A cache goes on accepting as long as its generation goes on. -/
theorem accepting_perform {a : Act} (accepting : c.accepting = true) (same : c.renews a = false) :
    (c.perform a).accepting = true := by
  cases a with
  | beginSession => cases same
  | openUp => rfl
  | close => cases same
  | reset =>
    obtain hreset | hreset := c.reset_cases <;> rw [perform, hreset] <;> exact accepting
  | insert generation r => exact (c.accepting_insert generation r).trans accepting
  | acceptingGeneration => exact accepting
  | takeRecords => exact accepting

theorem generation_run (h later : List Act) :
    (run (later ++ h)).generation = (run h).generation + UInt64.ofNat (renewals h later).length := by
  induction later with
  | nil => exact (UInt64.add_zero _).symm
  | cons a later ih =>
    rw [List.cons_append, run, generation_perform, renewals]
    split
    · rw [ih, List.length_cons, UInt64.ofNat_add, UInt64.add_assoc]
      rfl
    · exact ih

theorem accepting_run (accepting : (run h).accepting = true) (same : renewals h later = []) :
    (run (later ++ h)).accepting = true := by
  induction later with
  | nil => exact accepting
  | cons a later ih =>
    rw [renewals] at same
    split at same
    · cases same
    next hrenews => exact accepting_perform (ih same) (Bool.eq_false_iff.mpr hrenews)

/-- Fewer generations than there are numbers come back to the first one only if there are none. -/
theorem generation_run_eq_iff (few : (renewals h later).length < UInt64.size) :
    (run (later ++ h)).generation = (run h).generation ↔ renewals h later = [] := by
  rw [generation_run, UInt64.add_eq_left, ← List.length_eq_zero_iff]
  exact Router.ofNat_eq_iff few (by decide)

theorem renewals_append (h before after : List Act) :
    renewals h (after ++ before) = renewals (before ++ h) after ++ renewals h before := by
  induction after with
  | nil => rfl
  | cons a after ih =>
    rw [List.cons_append, renewals, renewals, ih, List.append_assoc]
    split <;> rfl

/-- An insert under a stamp is accepted exactly if no session has begun since the stamp was handed out, no close has
come and no reset has taken effect; fewer than 2⁶⁴ of these are to have happened since then. Where the cache did not
accept at some moment in between, it refuses the stamp, whatever it accepts now. -/
theorem stamp_holds_until_renewal (handed : (run h).acceptingGeneration = some generation)
    (few : (renewals h later).length < UInt64.size) (r : Record) :
    (((run (later ++ h)).insert generation r).1 = true ↔ renewals h later = []) ∧
      ∀ before after, later = after ++ before → (run (before ++ h)).accepting = false →
        ((run (later ++ h)).insert generation r).1 = false := by
  obtain ⟨accepting, rfl⟩ := acceptingGeneration_eq_some.mp handed
  have same_iff := generation_run_eq_iff few
  have holds : ((run (later ++ h)).insert (run h).generation r).1 = true ↔ renewals h later = [] := by
    rw [insert_fst_iff]
    constructor
    · rintro ⟨-, same⟩
      exact same_iff.mp same.symm
    · intro unrenewed
      exact ⟨accepting_run accepting unrenewed, (same_iff.mpr unrenewed).symm⟩
  refine ⟨holds, fun before after hlater closed => ?_⟩
  rw [Bool.eq_false_iff, Ne, holds, hlater, renewals_append, List.append_eq_nil_iff]
  rintro ⟨-, unrenewed⟩
  -- Without a renewal up to that moment the cache would still accept there.
  rw [accepting_run accepting unrenewed] at closed
  cases closed

/-- A stamp from before a close is refused by the cache that has been opened again. -/
theorem stamp_holds_until_renewal_reopened :
    let r : Record := ⟨⟨"a"⟩, "a.js", "1"⟩
    let h : List Act := [.openUp, .beginSession]
    let early : List Act := [.takeRecords, .insert 1 r]
    let late : List Act := [.openUp, .close] ++ early
    ((run h).acceptingGeneration = some 1 ∧ (renewals h late).length < UInt64.size) ∧
      ((run (early ++ h)).insert 1 r).1 = true ∧ ((run (late ++ h)).insert 1 r).1 = false := by
  intro r h early late
  have handed : (run h).acceptingGeneration = some 1 := rfl
  have few : (renewals h late).length < UInt64.size := by decide
  have accepted : ((run (early ++ h)).insert 1 r).1 = true ↔ renewals h early = [] :=
    (stamp_holds_until_renewal handed (by decide) r).1
  have refused := (stamp_holds_until_renewal handed few r).2 (.close :: early) [.openUp] rfl rfl
  exact ⟨⟨handed, few⟩, accepted.mpr (by decide), refused⟩

end Cache

end PageCoverage
