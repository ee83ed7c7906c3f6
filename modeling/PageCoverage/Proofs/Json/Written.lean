import PageCoverage.Json.Written
import Mathlib.Data.List.Count

namespace PageCoverage

namespace Json

/-- What an object holds under a key, as often as it does. -/
def Written.under (key : String) (ms : List (List Letter × Written)) : List Written :=
  ms.filterMap fun m => if spelled? m.1 = some key then some m.2 else none

/-- The letters of a text. -/
def letters (t : String) : List Letter := t.toList.map .char

theorem characters?_eq_some {s : List Letter} {cs : List Char} : characters? s = some cs ↔ s = cs.map .char := by
  induction s generalizing cs with
  | nil => cases cs <;> simp [characters?]
  | cons l s ih =>
    cases l with
    | half n => cases cs <;> simp [characters?]
    | char c =>
      cases cs with
      | nil => simp [characters?]
      | cons d cs => simp [characters?, ih, and_comm]

/-- Only its own letters spell a text. -/
theorem spelled?_eq_some {s : List Letter} {t : String} : spelled? s = some t ↔ s = letters t := by
  rw [spelled?, letters, ← characters?_eq_some, Option.map_eq_some_iff]
  constructor
  · rintro ⟨cs, hcs, rfl⟩
    rw [hcs, String.toList_ofList]
  · exact fun h => ⟨_, h, String.ofList_toList⟩

theorem Numeral.value?_cases {n : Numeral} {v : Value} (h : n.value? = some v) :
    (∃ k, v = .int k) ∨ ∃ x, v = .float x := by
  rw [Numeral.value?] at h
  split at h
  · exact .inl ⟨_, (Option.some.inj h).symm⟩
  · split at h
    · exact .inl ⟨_, (Option.some.inj h).symm⟩
    · obtain ⟨x, -, hv⟩ := Option.map_eq_some_iff.mp h
      exact .inr ⟨_, hv.symm⟩

namespace Written

theorem mem_under {key : String} {ms : List (List Letter × Written)} {w : Written} :
    w ∈ under key ms ↔ (letters key, w) ∈ ms := by
  simp only [under, List.mem_filterMap, Option.ite_none_right_eq_some, spelled?_eq_some, Option.some.injEq]
  constructor
  · rintro ⟨⟨k, _⟩, hm, rfl, rfl⟩
    exact hm
  · exact fun h => ⟨_, h, rfl, rfl⟩

/-- Where no key is repeated, at most one thing stands under each. -/
theorem length_under {ms : List (List Letter × Written)} (once : (ms.map Prod.fst).Nodup) (key : String) :
    (under key ms).length ≤ 1 := by
  have hcount : (under key ms).length = (ms.map Prod.fst).count (letters key) := by
    rw [under, List.length_filterMap_eq_countP, List.count, List.countP_map]
    refine List.countP_congr fun m _ => ?_
    simp [spelled?_eq_some]
  rw [hcount]
  exact List.nodup_iff_count.mp once _

variable {w : Written}

theorem value?_eq_null (depth : Nat) : w.value? depth = some .null ↔ w = .null := by
  constructor
  · intro h
    cases w with
    | null => rfl
    | number n =>
      obtain ⟨k, hk⟩ | ⟨x, hx⟩ := Numeral.value?_cases h
      · cases hk
      · cases hx
    | list items => cases depth <;> simp [value?] at h
    | object members => cases depth <;> simp [value?] at h
    | _ => simp [value?] at h
  · rintro rfl
    rfl

theorem value?_eq_text (depth : Nat) {t : String} :
    w.value? depth = some (.text t) ↔ ∃ s, w = .text s ∧ spelled? s = some t := by
  constructor
  · intro h
    cases w with
    | text s => exact ⟨s, rfl, by simpa [value?] using h⟩
    | number n =>
      obtain ⟨k, hk⟩ | ⟨x, hx⟩ := Numeral.value?_cases h
      · cases hk
      · cases hx
    | list items => cases depth <;> simp [value?] at h
    | object members => cases depth <;> simp [value?] at h
    | _ => simp [value?] at h
  · rintro ⟨s, rfl, hs⟩
    simp [value?, hs]

theorem value?_eq_int (depth : Nat) {k : Int} :
    w.value? depth = some (.int k) ↔ ∃ n, w = .number n ∧ n.value? = some (.int k) := by
  constructor
  · intro h
    cases w with
    | number n => exact ⟨n, rfl, h⟩
    | list items => cases depth <;> simp [value?] at h
    | object members => cases depth <;> simp [value?] at h
    | _ => simp [value?] at h
  · rintro ⟨n, rfl, hn⟩
    exact hn

/-- Something that a value can be read of: its numbers are within the range of a double, its strings and keys spell
texts, and its containers are in at most `depth` levels. -/
inductive Held : Nat → Written → Prop where
  | null {depth : Nat} : Held depth .null
  | bool {depth : Nat} (b : Bool) : Held depth (.bool b)
  | number {depth : Nat} {n : Numeral} (range : n.value?.isSome = true) : Held depth (.number n)
  | text {depth : Nat} {s : List Letter} (spells : (spelled? s).isSome = true) : Held depth (.text s)
  | list {depth : Nat} {items : List Written} (items_held : ∀ w ∈ items, Held depth w) : Held (depth + 1) (.list items)
  | object {depth : Nat} {ms : List (List Letter × Written)} (keys : ∀ m ∈ ms, (spelled? m.1).isSome = true)
    (members_held : ∀ m ∈ ms, Held depth m.2) : Held (depth + 1) (.object ms)

theorem isSome_itemValues? (depth : Nat) (items : List Written) :
    (itemValues? depth items).isSome = true ↔ ∀ w ∈ items, (w.value? depth).isSome = true := by
  induction items with
  | nil => simp [itemValues?]
  | cons w items ih =>
    rw [itemValues?, List.forall_mem_cons, ← ih]
    cases w.value? depth <;> cases itemValues? depth items <;> simp

theorem isSome_memberValues? (depth : Nat) (ms : List (List Letter × Written)) :
    (memberValues? depth ms).isSome = true ↔
      (∀ m ∈ ms, (spelled? m.1).isSome = true) ∧ ∀ m ∈ ms, (m.2.value? depth).isSome = true := by
  induction ms with
  | nil => simp [memberValues?]
  | cons m ms ih =>
    obtain ⟨k, w⟩ := m
    rw [memberValues?, List.forall_mem_cons, List.forall_mem_cons, and_and_and_comm, ← ih]
    cases spelled? k <;> cases w.value? depth <;> cases memberValues? depth ms <;> simp

theorem isSome_value? {depth : Nat} {w : Written} : (w.value? depth).isSome = true ↔ Held depth w := by
  match depth, w with
  | _, .null => exact iff_of_true rfl .null
  | _, .bool b => exact iff_of_true rfl (.bool b)
  | _, .number n => exact ⟨.number, fun | .number range => range⟩
  | _, .text s =>
    rw [value?, Option.isSome_map]
    exact ⟨.text, fun | .text spells => spells⟩
  | 0, .list items => exact iff_of_false nofun nofun
  | 0, .object ms => exact iff_of_false nofun nofun
  | depth + 1, .list items =>
    rw [value?, Option.isSome_map, isSome_itemValues?]
    simp only [@isSome_value? depth]
    exact ⟨.list, fun | .list items_held => items_held⟩
  | depth + 1, .object ms =>
    rw [value?, Option.isSome_map, isSome_memberValues?]
    simp only [@isSome_value? depth]
    exact ⟨fun ⟨keys, members_held⟩ => .object keys members_held,
      fun | .object keys members_held => ⟨keys, members_held⟩⟩

end Written

end Json

end PageCoverage
