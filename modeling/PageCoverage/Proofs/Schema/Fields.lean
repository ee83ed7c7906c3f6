import PageCoverage.Schema.Decode

namespace PageCoverage

namespace Reading

variable {α β : Type}

theorem and_eq_done {x : Reading α} {y : Reading β} {a : α} {b : β} :
    x.and y = .done (a, b) ↔ x = .done a ∧ y = .done b := by
  cases x with
  | done a' => cases y <;> simp [and]
  | bad k e =>
    cases y with
    | bad l f =>
      simp only [and]
      split <;> simp
    | done b' => simp [and]
    | missing name => simp [and]
  | missing name => cases y <;> simp [and]

theorem toExcept_eq_ok {x : Reading α} {a : α} : x.toExcept = .ok a ↔ x = .done a := by
  cases x <;> simp [toExcept]

variable {name : String} {read : Value → Except DecodeError α} {a : α}

theorem ofField_some {fallback : Fallback} {v : Value} :
    ofField name fallback read (some v) = .done a ↔ read v = .ok a := by
  simp only [ofField]
  cases read v <;> simp

theorem ofField_required {found : Option Value} :
    ofField name .required read found = .done a ↔ ∃ v, found = some v ∧ read v = .ok a := by
  cases found with
  | none => simp [ofField]
  | some v => simp [ofField_some]

/-- A field that may be missing is read from what stands in for it. -/
theorem ofField_fallback {fallback : Fallback} {v : Value} (h : fallback = .value v ∨ fallback = .member v)
    {found : Option Value} :
    ofField name fallback read found = .done a ↔ read (found.getD v) = .ok a := by
  cases found with
  | none =>
    obtain rfl | rfl := h <;> simp only [ofField, Option.getD_none] <;> cases read v <;> simp
  | some w => exact ofField_some

end Reading

theorem decodeInt_eq_ok {low high : Int} {expected : String} {v : Value} {n : Int} :
    decodeInt low high expected v = .ok n ↔ v = .int n ∧ low ≤ n ∧ n ≤ high := by
  cases v with
  | int k =>
    rw [decodeInt]
    split
    next h =>
      rw [Except.ok.injEq, Value.int.injEq]
      constructor
      · rintro rfl
        exact ⟨rfl, h⟩
      · exact And.left
    next h =>
      rw [Value.int.injEq]
      constructor
      · intro hn
        cases hn
      · rintro ⟨rfl, hn⟩
        exact absurd hn h
  | _ => simp [decodeInt]

/-- A word is read from the integer that it stands for. -/
theorem decodeInt_map_eq_ok {α : Type} {low high : Int} {expected : String} {ofInt : Int → α} {toInt : α → Int}
    (range : ∀ a, low ≤ toInt a ∧ toInt a ≤ high) (ofInt_toInt : ∀ a, ofInt (toInt a) = a)
    (toInt_ofInt : ∀ k, low ≤ k → k ≤ high → toInt (ofInt k) = k) {v : Value} {a : α} :
    (decodeInt low high expected v).map ofInt = .ok a ↔ v = .int (toInt a) := by
  constructor
  · intro h
    cases hk : decodeInt low high expected v with
    | error e =>
      rw [hk] at h
      cases h
    | ok k =>
      rw [hk] at h
      obtain rfl := Except.ok.inj h
      obtain ⟨rfl, hlow, hhigh⟩ := decodeInt_eq_ok.mp hk
      rw [toInt_ofInt k hlow hhigh]
  · rintro rfl
    rw [decodeInt_eq_ok.mpr ⟨rfl, range a⟩]
    exact congrArg Except.ok (ofInt_toInt a)

namespace Schema

variable {v : Value}

theorem decode_text {s : Schema.text.Data} : Schema.text.decode v = .ok s ↔ v = .text s := by
  cases v <;> simp [decode]

example : Schema.text.decode (.int 1) = .error (.wrongType (.int 1) "a string") := by cbv

theorem decode_u32 {n : Schema.u32.Data} : Schema.u32.decode v = .ok n ↔ v = .int (UInt32.toNat n) := by
  have range (n : UInt32) : 0 ≤ (n.toNat : Int) ∧ (n.toNat : Int) ≤ 0xFFFFFFFF := by
    have hn := n.toNat_lt
    omega
  have back (k : Int) (hlow : 0 ≤ k) (hhigh : k ≤ 0xFFFFFFFF) : ((UInt32.ofNat k.toNat).toNat : Int) = k := by
    rw [UInt32.toNat_ofNat_of_lt' (by rw [UInt32.size]; omega)]
    omega
  rw [decode]
  exact decodeInt_map_eq_ok range (fun n => UInt32.ofNat_toNat) back

theorem decode_u64 {n : Schema.u64.Data} : Schema.u64.decode v = .ok n ↔ v = .int (UInt64.toNat n) := by
  have range (n : UInt64) : 0 ≤ (n.toNat : Int) ∧ (n.toNat : Int) ≤ 0xFFFFFFFFFFFFFFFF := by
    have hn := n.toNat_lt
    omega
  have back (k : Int) (hlow : 0 ≤ k) (hhigh : k ≤ 0xFFFFFFFFFFFFFFFF) : ((UInt64.ofNat k.toNat).toNat : Int) = k := by
    rw [UInt64.toNat_ofNat_of_lt' (by rw [UInt64.size]; omega)]
    omega
  rw [decode]
  exact decodeInt_map_eq_ok range (fun n => UInt64.ofNat_toNat) back

theorem decode_i64 {n : Schema.i64.Data} : Schema.i64.decode v = .ok n ↔ v = .int (Int64.toInt n) := by
  have range (n : Int64) : -0x8000000000000000 ≤ n.toInt ∧ n.toInt ≤ 0x7FFFFFFFFFFFFFFF := by
    have hlow := n.le_toInt
    have hhigh := n.toInt_lt
    omega
  have back (k : Int) (hlow : -0x8000000000000000 ≤ k) (hhigh : k ≤ 0x7FFFFFFFFFFFFFFF) : (Int64.ofInt k).toInt = k :=
    Int64.toInt_ofInt_of_le (by omega) (by omega)
  rw [decode]
  exact decodeInt_map_eq_ok range Int64.ofInt_toInt back

/-- A value of an optional field is null or fits. -/
theorem decode_optional {inner : Schema} {a : Option inner.Data} :
    (Schema.optional inner).decode v = .ok a ↔
      (v = .null ∧ a = none) ∨ (v ≠ .null ∧ ∃ b, inner.decode v = .ok b ∧ a = some b) := by
  by_cases hv : v = .null
  · subst hv
    simp [decode, eq_comm]
  · have hdecode : (Schema.optional inner).decode v = (inner.decode v).map some := by
      rw [decode]
      exact hv
    rw [hdecode]
    cases inner.decode v <;> simp [hv, Except.map, eq_comm]

theorem decode_object {name : String} {fields : Fields} {ms : Members} {a : fields.Data} :
    (Schema.record name fields).decode (.object ms) = .ok a ↔ fields.ofMembers ms = .done a :=
  Reading.toExcept_eq_ok

end Schema

namespace Fields

variable {name record : String} {schema : Schema} {fallback : Fallback} {rest : Fields} {a : schema.Data}
  {b : rest.Data}

theorem ofMembers_cons {ms : Members} :
    (cons name schema fallback rest).ofMembers ms = .done (a, b) ↔
      Reading.ofField name fallback schema.decode (Members.get? ms name) = .done a ∧
        rest.ofMembers ms = .done b := by
  rw [ofMembers, Reading.and_eq_done]

theorem ofItems_cons {count length index : Nat} {items : List Value} :
    (cons name schema fallback rest).ofItems record count length index items = .ok (a, b) ↔
      readElement record count index fallback schema.decode items = .ok a ∧
        rest.ofItems record count length (index + 1) items.tail = .ok b := by
  rw [ofItems]
  cases readElement record count index fallback schema.decode items with
  | error e => simp
  | ok a' =>
    cases rest.ofItems record count length (index + 1) items.tail <;> simp [Except.map]

end Fields

end PageCoverage
