import PageCoverage.Proofs.Text.Encoding
import PageCoverage.Resource.Report
import Mathlib.Algebra.Order.Field.Basic
import Mathlib.Algebra.Order.Field.Rat
import Mathlib.Tactic.FieldSimp
import Mathlib.Tactic.Linarith
import Mathlib.Tactic.NormNum

namespace PageCoverage

/-- The formula of `percent` over any kind of numbers. -/
def percentBy {K : Type} [Mul K] [Div K] [OfNat K 100] (ofNat : Nat → K) (covered total : Nat) : K :=
  if total = 0 then 100 else ofNat covered / ofNat total * 100

theorem percent_eq_percentBy (covered total : Nat) : percent covered total = percentBy Float.ofNat covered total :=
  rfl

namespace Entry

def exactPercent (e : Entry) : ℚ := percentBy Nat.cast (min e.covered e.total) e.total

theorem total_mul_exactPercent (e : Entry) :
    (e.total : ℚ) * e.exactPercent = (min e.covered e.total : Nat) * 100 := by
  rw [exactPercent, percentBy]
  split
  next hzero =>
    -- Nothing is covered of an empty text, whatever its share.
    simp [hzero]
  next htotal =>
    have htotal : (e.total : ℚ) ≠ 0 := Nat.cast_ne_zero.mpr htotal
    field_simp

theorem total_pos {e : Entry} (h : e.text ≠ "") : 0 < e.total := by
  refine Nat.pos_of_ne_zero fun hzero => h ?_
  exact String.toList_eq_nil_iff.mp (Text.eq_nil_of_units hzero)

end Entry

namespace Report

def exactPercent (r : Report) : ℚ := percentBy Nat.cast r.covered r.total

/-- The covered length, of each entry no more than its text. -/
def coveredInside (r : Report) : Nat := r.entries.foldr (fun e n => min e.covered e.total + n) 0

/-- The mean of the entries' shares, each weighted by the length of its text. -/
def meanPercent (r : Report) : ℚ :=
  r.entries.foldr (fun e x => (e.total : ℚ) * e.exactPercent + x) 0 / (r.total : ℚ)

variable {es : List Entry}

theorem covered_cons (e : Entry) (es : List Entry) :
    (Report.mk (e :: es)).covered = e.covered + (Report.mk es).covered := rfl

theorem total_cons (e : Entry) (es : List Entry) :
    (Report.mk (e :: es)).total = e.total + (Report.mk es).total := rfl

theorem coveredInside_cons (e : Entry) (es : List Entry) :
    (Report.mk (e :: es)).coveredInside = min e.covered e.total + (Report.mk es).coveredInside := rfl

theorem total_pos (written : ∃ e ∈ es, e.text ≠ "") : 0 < (Report.mk es).total := by
  obtain ⟨e, he, htext⟩ := written
  have hpos := e.total_pos htext
  induction es with
  | nil => cases he
  | cons e' es ih =>
    rw [total_cons]
    rcases List.mem_cons.mp he with rfl | hmem
    · omega
    · have hrest := ih hmem
      omega

theorem coveredInside_le_total (es : List Entry) : (Report.mk es).coveredInside ≤ (Report.mk es).total := by
  induction es with
  | nil => exact Nat.le_refl 0
  | cons e es ih =>
    rw [coveredInside_cons, total_cons]
    exact Nat.add_le_add (Nat.min_le_right e.covered e.total) ih

theorem coveredInside_le_covered (es : List Entry) : (Report.mk es).coveredInside ≤ (Report.mk es).covered := by
  induction es with
  | nil => exact Nat.le_refl 0
  | cons e es ih =>
    rw [coveredInside_cons, covered_cons]
    exact Nat.add_le_add (Nat.min_le_left e.covered e.total) ih

theorem covered_eq_coveredInside_iff :
    (Report.mk es).covered = (Report.mk es).coveredInside ↔ ∀ e ∈ es, e.covered ≤ e.total := by
  induction es with
  | nil => simp [covered, coveredInside]
  | cons e es ih =>
    -- What is cut off one entry cannot come back with another one.
    have hle := coveredInside_le_covered es
    rw [covered_cons, coveredInside_cons, List.forall_mem_cons, ← ih]
    omega

theorem weighted_shares (es : List Entry) :
    es.foldr (fun e x => (e.total : ℚ) * e.exactPercent + x) 0 = ((Report.mk es).coveredInside : ℚ) * 100 := by
  induction es with
  | nil => simp [coveredInside]
  | cons e es ih =>
    rw [List.foldr_cons, ih, e.total_mul_exactPercent, coveredInside_cons, Nat.cast_add, add_mul]

theorem meanPercent_eq (r : Report) : r.meanPercent = (r.coveredInside : ℚ) / (r.total : ℚ) * 100 := by
  rw [meanPercent, weighted_shares, div_mul_eq_mul_div]

/-- The share of a report is the mean of its entries' shares exactly if no entry has more covered than its text;
the mean is at most a hundred. -/
theorem share_is_mean_iff (r : Report) (written : ∃ e ∈ r.entries, e.text ≠ "") :
    r.meanPercent = (r.coveredInside : ℚ) / (r.total : ℚ) * 100 ∧ r.meanPercent ≤ 100 ∧
      (r.exactPercent = r.meanPercent ↔ ∀ e ∈ r.entries, e.covered ≤ e.total) ∧
      ((∀ e ∈ r.entries, e.covered ≤ e.total) → r.percent = percentBy Float.ofNat r.coveredInside r.total) := by
  have hpos : 0 < r.total := total_pos written
  have htotal : (0 : ℚ) < r.total := Nat.cast_pos.mpr hpos
  refine ⟨r.meanPercent_eq, ?_, ?_, fun within => ?_⟩
  · have hle : (r.coveredInside : ℚ) ≤ r.total := Nat.cast_le.mpr (coveredInside_le_total r.entries)
    have hshare : (r.coveredInside : ℚ) / r.total ≤ 1 := (div_le_one htotal).mpr hle
    rw [meanPercent_eq]
    linarith
  · rw [exactPercent, percentBy, if_neg (Nat.ne_of_gt hpos), meanPercent_eq, ← covered_eq_coveredInside_iff]
    constructor
    · intro heq
      have hratio := mul_right_cancel₀ (by norm_num) heq
      exact Nat.cast_inj.mp ((div_left_inj' htotal.ne').mp hratio)
    · intro heq
      rw [show r.covered = r.coveredInside from heq]
  · rw [show r.coveredInside = r.covered from (covered_eq_coveredInside_iff.mpr within).symm]
    exact percent_eq_percentBy r.covered r.total

/-- A report in which a text is covered to its end and another one not at all. -/
def halfCovered : Report := ⟨[⟨"a.js", "ab", [⟨0, 2⟩], none⟩, ⟨"b.js", "cd", [], none⟩]⟩

theorem share_is_mean_iff_half :
    (∃ e ∈ halfCovered.entries, e.text ≠ "") ∧ (∀ e ∈ halfCovered.entries, e.covered ≤ e.total) ∧
      halfCovered.exactPercent = halfCovered.meanPercent ∧ halfCovered.meanPercent ≤ 100 ∧
      halfCovered.percent = percentBy Float.ofNat 2 4 := by
  have written : ∃ e ∈ halfCovered.entries, e.text ≠ "" := ⟨_, List.mem_cons_self, by decide⟩
  have within : ∀ e ∈ halfCovered.entries, e.covered ≤ e.total := by decide
  obtain ⟨-, hle, heq, hpercent⟩ := share_is_mean_iff halfCovered written
  exact ⟨written, within, heq.mpr within, hle, hpercent within⟩

/-- The same texts, with a range that ends far behind the first of them. -/
def overrun : Report := ⟨[⟨"a.js", "ab", [⟨0, 6⟩], none⟩, ⟨"b.js", "cd", [], none⟩]⟩

/-- Its share is 150 percent, where its entries have 100 and 0 percent of texts of one length. -/
theorem not_share_is_mean :
    ¬∀ r : Report, (∃ e ∈ r.entries, e.text ≠ "") →
      r.exactPercent = (r.coveredInside : ℚ) / (r.total : ℚ) * 100 := by
  intro h
  have hcovered : overrun.covered = 6 := by decide
  have hinside : overrun.coveredInside = 2 := by decide
  have htotal : overrun.total = 4 := by decide
  have heq := h overrun ⟨_, List.mem_cons_self, by decide⟩
  rw [exactPercent, hcovered, hinside, htotal] at heq
  norm_num [percentBy] at heq

end Report

end PageCoverage
