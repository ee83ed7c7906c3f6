import PageCoverage.Text.Units

namespace PageCoverage.Text

/-- The first half of a surrogate pair. -/
def isHigh (u : Nat) : Bool := 0xD800 ≤ u && u < 0xDC00

/-- The second half of a surrogate pair. -/
def isLow (u : Nat) : Bool := 0xDC00 ≤ u && u < 0xE000

/-- Whether an offset into code units lies between the halves of a surrogate pair. -/
def splitsPair (us : List Nat) : Nat → Bool
  | 0 => false
  | n + 1 => us[n]?.any isHigh && us[n + 1]?.any isLow

/-- A character is one unit that is no half of a pair, or a pair. -/
theorem unitsOf_cases (c : Char) :
    (unitsOf c = [c.toNat] ∧ isHigh c.toNat = false) ∨
      ∃ high low, unitsOf c = [high, low] ∧ isHigh high = true ∧ isLow low = true ∧ isHigh low = false := by
  have hvalid : c.toNat < 0xD800 ∨ (0xDFFF < c.toNat ∧ c.toNat < 0x110000) := c.valid
  by_cases hc : c.toNat < 0x10000
  · refine .inl ⟨if_pos hc, ?_⟩
    simp only [isHigh, Bool.and_eq_false_iff, decide_eq_false_iff_not]
    omega
  · refine .inr ⟨_, _, if_neg hc, ?_, ?_, ?_⟩ <;>
      simp only [isHigh, isLow, Bool.and_eq_true, Bool.and_eq_false_iff, decide_eq_true_eq,
        decide_eq_false_iff_not] <;>
      omega

theorem width_pos (c : Char) : 0 < width c := by
  obtain ⟨h, -⟩ | ⟨_, _, h, -⟩ := unitsOf_cases c <;> simp [width, h]

theorem utf16_cons (c : Char) (cs : List Char) : utf16 (c :: cs) = unitsOf c ++ utf16 cs := rfl

theorem units_cons (c : Char) (cs : List Char) : units (c :: cs) = width c + units cs := rfl

theorem utf16_append (front back : List Char) : utf16 (front ++ back) = utf16 front ++ utf16 back :=
  List.flatMap_append

theorem units_eq_length (cs : List Char) : units cs = (utf16 cs).length := by
  induction cs with
  | nil => rfl
  | cons c cs ih =>
    rw [units_cons, utf16_cons, ih, List.length_append, width]

theorem units_append (front back : List Char) : units (front ++ back) = units front + units back := by
  rw [units_eq_length, units_eq_length, units_eq_length, utf16_append, List.length_append]

theorem eq_nil_of_units {cs : List Char} (h : units cs = 0) : cs = [] := by
  cases cs with
  | nil => rfl
  | cons c cs =>
    have hpos := width_pos c
    rw [units_cons] at h
    omega

/-- Behind a character the pairs are those of the rest. -/
theorem splitsPair_unitsOf (c : Char) (us : List Nat) (n : Nat) :
    splitsPair (unitsOf c ++ us) (width c + n) = splitsPair us n := by
  obtain ⟨hunits, hhigh⟩ | ⟨high, low, hunits, -, -, hlow⟩ := unitsOf_cases c
  · rw [width, hunits, List.length_singleton, Nat.add_comm]
    cases n with
    | zero => simp [splitsPair, hhigh]
    | succ n => simp [splitsPair]
  · rw [width, hunits, List.length_cons, List.length_singleton, Nat.add_comm]
    cases n with
    | zero => simp [splitsPair, hlow]
    | succ n => simp [splitsPair]

theorem splitsPair_of_lt_width {c : Char} {n : Nat} (us : List Nat) (hpos : 0 < n) (hlt : n < width c) :
    splitsPair (unitsOf c ++ us) n = true := by
  obtain ⟨hunits, -⟩ | ⟨high, low, hunits, hhigh, hlow, -⟩ := unitsOf_cases c
  · rw [width, hunits, List.length_singleton] at hlt
    omega
  · rw [width, hunits, List.length_cons, List.length_singleton] at hlt
    obtain rfl : n = 1 := by omega
    simp [hunits, splitsPair, hhigh, hlow]

theorem splitsPair_append (front : List Char) (us : List Nat) (n : Nat) :
    splitsPair (utf16 front ++ us) (units front + n) = splitsPair us n := by
  induction front with
  | nil => exact congrArg (splitsPair us) (Nat.zero_add n)
  | cons c front ih =>
    rw [utf16_cons, units_cons, List.append_assoc, Nat.add_assoc, splitsPair_unitsOf, ih]

/-- The offsets at which a text falls into two. -/
theorem exists_front_iff {cs : List Char} {n : Nat} :
    (∃ front back, cs = front ++ back ∧ units front = n) ↔
      n ≤ units cs ∧ splitsPair (utf16 cs) n = false := by
  constructor
  · rintro ⟨front, back, rfl, rfl⟩
    refine ⟨by rw [units_append]; omega, ?_⟩
    rw [utf16_append]
    exact splitsPair_append front (utf16 back) 0
  · rintro ⟨hle, hsplits⟩
    induction cs generalizing n with
    | nil =>
      have hzero : n = 0 := Nat.le_zero.mp hle
      exact ⟨[], [], rfl, hzero.symm⟩
    | cons c cs ih =>
      rw [units_cons] at hle
      by_cases hwidth : width c ≤ n
      · obtain ⟨m, rfl⟩ := Nat.exists_eq_add_of_le hwidth
        rw [utf16_cons, splitsPair_unitsOf] at hsplits
        obtain ⟨front, back, rfl, rfl⟩ := ih (by omega) hsplits
        exact ⟨c :: front, back, rfl, rfl⟩
      · have hlt : n < width c := Nat.lt_of_not_le hwidth
        rcases Nat.eq_zero_or_pos n with rfl | hpos
        · exact ⟨[], c :: cs, rfl, rfl⟩
        · have hpair := splitsPair_of_lt_width (utf16 cs) hpos hlt
          rw [utf16_cons, hpair] at hsplits
          cases hsplits

theorem exists_of_cons_eq_append {c : Char} {cs front back : List Char} (happend : c :: cs = front ++ back)
    (hpos : 0 < units front) : ∃ rest, front = c :: rest ∧ cs = rest ++ back := by
  obtain ⟨rfl, -⟩ | hrest := List.cons_eq_append_iff.mp happend
  · cases hpos
  · exact hrest

theorem splitAt_eq_some_iff {n : Nat} {cs front back : List Char} :
    splitAt n cs = some (front, back) ↔ cs = front ++ back ∧ units front = n := by
  fun_induction splitAt n cs generalizing front back with
  | case1 cs =>
    simp only [Option.some.injEq, Prod.mk.injEq]
    constructor
    · rintro ⟨rfl, rfl⟩
      exact ⟨rfl, rfl⟩
    · rintro ⟨happend, hunits⟩
      obtain rfl := eq_nil_of_units hunits
      exact ⟨rfl, happend⟩
  | case2 n =>
    simp only [reduceCtorEq, false_iff]
    rintro ⟨happend, hunits⟩
    obtain ⟨rfl, -⟩ := List.nil_eq_append_iff.mp happend
    cases hunits
  | case3 n c cs hwidth ih =>
    simp only [Option.map_eq_some_iff, Prod.exists, Prod.mk.injEq, ih]
    constructor
    · rintro ⟨rest, back', ⟨rfl, hunits⟩, rfl, rfl⟩
      exact ⟨rfl, by rw [units_cons]; omega⟩
    · rintro ⟨happend, hunits⟩
      obtain ⟨rest, rfl, rfl⟩ := exists_of_cons_eq_append happend (by omega)
      rw [units_cons] at hunits
      exact ⟨rest, back, ⟨rfl, by omega⟩, rfl, rfl⟩
  | case4 n c cs hwidth =>
    simp only [reduceCtorEq, false_iff]
    rintro ⟨happend, hunits⟩
    obtain ⟨rest, rfl, rfl⟩ := exists_of_cons_eq_append happend (by omega)
    rw [units_cons] at hunits
    omega

theorem slice_eq_some_iff {cs piece : List Char} {start stop : Nat} :
    slice cs start stop = some piece ↔
      ∃ front back, cs = front ++ (piece ++ back) ∧ units front = start ∧ start + units piece = stop := by
  rw [slice]
  split
  next hle =>
    simp only [Option.bind_eq_bind, Option.bind_eq_some_iff, Prod.exists, splitAt_eq_some_iff, Option.some.injEq]
    constructor
    · rintro ⟨front, tail, ⟨rfl, rfl⟩, piece', back, ⟨rfl, hunits⟩, rfl⟩
      exact ⟨front, back, rfl, rfl, by omega⟩
    · rintro ⟨front, back, rfl, rfl, hstop⟩
      exact ⟨front, piece ++ back, ⟨rfl, rfl⟩, piece, back, ⟨rfl, by omega⟩, rfl⟩
  next hle =>
    simp only [reduceCtorEq, false_iff]
    rintro ⟨front, back, -, -, hstop⟩
    omega

/-- A text has a slice between two offsets that stand in order, inside it, and split no pair. -/
theorem exists_slice_iff {cs : List Char} {start stop : Nat} :
    (∃ piece, slice cs start stop = some piece) ↔
      start ≤ stop ∧ stop ≤ units cs ∧ splitsPair (utf16 cs) start = false ∧
        splitsPair (utf16 cs) stop = false := by
  simp only [slice_eq_some_iff]
  constructor
  · rintro ⟨piece, front, back, rfl, rfl, rfl⟩
    have hstart := exists_front_iff.mp ⟨front, piece ++ back, rfl, rfl⟩
    have hstop := exists_front_iff.mp ⟨front ++ piece, back, (List.append_assoc ..).symm, units_append ..⟩
    exact ⟨by omega, hstop.1, hstart.2, hstop.2⟩
  · rintro ⟨hle, hinside, hstart, hstop⟩
    obtain ⟨front, tail, rfl, rfl⟩ := exists_front_iff.mpr ⟨by omega, hstart⟩
    obtain ⟨n, rfl⟩ := Nat.exists_eq_add_of_le hle
    rw [utf16_append, splitsPair_append] at hstop
    rw [units_append] at hinside
    obtain ⟨piece, back, rfl, rfl⟩ := exists_front_iff.mpr ⟨by omega, hstop⟩
    exact ⟨piece, front, back, rfl, rfl, rfl⟩

theorem utf16_of_slice {cs piece : List Char} {start stop : Nat} (h : slice cs start stop = some piece) :
    utf16 piece = (utf16 cs).extract start stop := by
  obtain ⟨front, back, rfl, rfl, rfl⟩ := slice_eq_some_iff.mp h
  rw [utf16_append, utf16_append, units_eq_length front, units_eq_length piece, List.extract_eq_take_drop,
    List.drop_left, Nat.add_sub_cancel_left, List.take_left]

end PageCoverage.Text
