import PageCoverage.Proofs.Text.Encoding
import PageCoverage.Resource.Entry
import Mathlib.Data.List.Forall2

namespace PageCoverage.Entry

/-- Whether the ends of a range stand in order, lie inside the text, and split no surrogate pair. -/
def fits (e : Entry) (r : CoveredRange) : Bool :=
  r.start ≤ r.stop && r.stop.toNat ≤ e.total &&
    !Text.splitsPair (Text.utf16 e.text.toList) r.start.toNat &&
    !Text.splitsPair (Text.utf16 e.text.toList) r.stop.toNat

/-- The piece of a text in a range is encoded by the code units from the start of the range up to its end. -/
structure IsPiece (e : Entry) (r : CoveredRange) (piece : String) : Prop where
  encoded : Text.utf16 piece.toList = (Text.utf16 e.text.toList).extract r.start.toNat r.stop.toNat
  length : (Text.utf16 piece.toList).length = r.length.toNat

theorem fits_iff {e : Entry} {r : CoveredRange} :
    e.fits r = true ↔ ∃ cs, Text.slice e.text.toList r.start.toNat r.stop.toNat = some cs := by
  simp only [fits, Bool.and_eq_true, decide_eq_true_eq, Bool.not_eq_true', Text.exists_slice_iff, and_assoc,
    UInt32.le_iff_toNat_le]
  rfl

theorem length_of_le {r : CoveredRange} (h : r.start.toNat ≤ r.stop.toNat) :
    r.start.toNat + r.length.toNat = r.stop.toNat := by
  have hle : r.start ≤ r.stop := UInt32.le_iff_toNat_le.mpr h
  rw [CoveredRange.length, spanLength, if_pos hle, UInt32.toNat_sub_of_le _ _ hle]
  omega

theorem isPiece_of_slice {e : Entry} {r : CoveredRange} {cs : List Char}
    (h : Text.slice e.text.toList r.start.toNat r.stop.toNat = some cs) : e.IsPiece r (String.ofList cs) := by
  obtain ⟨front, back, -, -, hstop⟩ := Text.slice_eq_some_iff.mp h
  have hlength := length_of_le (r := r) (by omega)
  constructor
  · rw [String.toList_ofList]
    exact Text.utf16_of_slice h
  · rw [String.toList_ofList, ← Text.units_eq_length]
    omega

/-- The ranges that fit have their pieces, in order, and no other range has one. -/
theorem isPiece_filterMap (e : Entry) (rs : List CoveredRange) :
    List.Forall₂ e.IsPiece (rs.filter e.fits) (rs.filterMap fun r =>
      (Text.slice e.text.toList r.start.toNat r.stop.toNat).map String.ofList) := by
  induction rs with
  | nil => exact .nil
  | cons r rs ih =>
    rw [List.filter_cons, List.filterMap_cons]
    cases hslice : Text.slice e.text.toList r.start.toNat r.stop.toNat with
    | none =>
      have hfits : ¬e.fits r = true := by simp [fits_iff, hslice]
      rw [if_neg hfits]
      exact ih
    | some cs =>
      rw [if_pos (fits_iff.mpr ⟨cs, hslice⟩)]
      exact .cons (isPiece_of_slice hslice) ih

theorem units_pieces {e : Entry} {rs : List CoveredRange} {pieces : List String}
    (h : List.Forall₂ e.IsPiece rs pieces) :
    pieces.foldr (fun piece n => (Text.utf16 piece.toList).length + n) 0 =
      rs.foldr (fun r n => r.length.toNat + n) 0 := by
  induction h with
  | nil => rfl
  | cons hpiece _ ih => rw [List.foldr_cons, List.foldr_cons, hpiece.length, ih]

/-- Of each range that fits, and of no other, the covered text has exactly the code units that lie in it; if all
ranges fit, the pieces add up to the covered length. -/
theorem coveredText_exact (e : Entry) :
    List.Forall₂ e.IsPiece (e.ranges.filter e.fits) e.coveredText ∧
      ((∀ r ∈ e.ranges, e.fits r = true) →
        e.coveredText.foldr (fun piece n => (Text.utf16 piece.toList).length + n) 0 = e.covered) := by
  have pieces : List.Forall₂ e.IsPiece (e.ranges.filter e.fits) e.coveredText := isPiece_filterMap e e.ranges
  refine ⟨pieces, fun fits => ?_⟩
  rw [units_pieces pieces, List.filter_eq_self.mpr fits]
  rfl

/-- A text with a surrogate pair, cut on both sides of the pair and at its end. -/
def paired : Entry := { url := "a.css", text := "😀x;", ranges := [⟨0, 2⟩, ⟨2, 3⟩, ⟨4, 4⟩] }

theorem coveredText_exact_paired :
    (∀ r ∈ paired.ranges, paired.fits r = true) ∧
      paired.coveredText.foldr (fun piece n => (Text.utf16 piece.toList).length + n) 0 = paired.covered ∧
      paired.coveredText = ["😀", "x", ""] := by
  have fits : ∀ r ∈ paired.ranges, paired.fits r = true := by decide
  exact ⟨fits, (coveredText_exact paired).2 fits, by decide⟩

/-- Ranges that split the pair, end past the text or are inverted have no piece. -/
example : ({ paired with ranges := [⟨1, 3⟩, ⟨3, 5⟩, ⟨3, 2⟩, ⟨0, 4⟩] } : Entry).coveredText = ["😀x;"] := by decide

end PageCoverage.Entry
