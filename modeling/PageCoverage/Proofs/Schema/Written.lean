import PageCoverage.Proofs.Json.Members
import PageCoverage.Proofs.Json.Written
import PageCoverage.Proofs.Schema.Fields
import Mathlib.Data.List.Forall2
import PageCoverage.Schema.Distinct
import PageCoverage.Schema.Written

namespace PageCoverage

open Json (Letter Numeral Written spelled?)

open Json.Written

/-- A schema reads data of what is written. -/
def Schema.Reads (s : Schema) (depth : Nat) (w : Written) (a : s.Data) : Prop :=
  ∃ v, s.read? depth w = some v ∧ s.distinct v = true ∧ s.decode v = .ok a

/-- A field of an object is read of what stands under its name, or else of its fallback. It does not stand there
twice. -/
def Schema.ReadsField (s : Schema) (fallback : Fallback) (depth : Nat) (a : s.Data) : List Written → Prop
  | [] =>
    match fallback with
    | .required => False
    | .value v | .member v => s.decode v = .ok a
  | [w] => s.Reads depth w a
  | _ :: _ :: _ => False

/-- A field of an array is read of the element in its place. Only some fallbacks stand in for an element. -/
def Schema.ReadsElement (s : Schema) (fallback : Fallback) (depth : Nat) (a : s.Data) : Option Written → Prop
  | none =>
    match fallback with
    | .value v => s.decode v = .ok a
    | .required | .member _ => False
  | some w => s.Reads depth w a

def Fields.ReadsMembers : (fs : Fields) → Nat → List (List Letter × Written) → fs.Data → Prop
  | .nil, _, _, _ => True
  | .cons name schema fallback rest, depth, ms, a =>
    schema.ReadsField fallback depth a.1 (under name ms) ∧ rest.ReadsMembers depth ms a.2

def Fields.ReadsItems : (fs : Fields) → Nat → List Written → fs.Data → Prop
  | .nil, _, items, _ => items = []
  | .cons _ schema fallback rest, depth, items, a =>
    schema.ReadsElement fallback depth a.1 items.head? ∧ rest.ReadsItems depth items.tail a.2

namespace Schema

variable {depth : Nat} {w : Written}

theorem reads_any {v : Value} : Schema.any.Reads depth w v ↔ w.value? depth = some v := by
  constructor
  · rintro ⟨u, hu, -, hv⟩
    cases hv
    exact hu
  · exact fun h => ⟨v, h, rfl, rfl⟩

theorem reads_text {t : String} : Schema.text.Reads depth w t ↔ ∃ s, w = .text s ∧ spelled? s = some t := by
  rw [← value?_eq_text depth]
  constructor
  · rintro ⟨v, hv, -, ht⟩
    rw [← decode_text.mp ht]
    exact hv
  · exact fun h => ⟨_, h, rfl, decode_text.mpr rfl⟩

theorem reads_u64 {n : UInt64} :
    Schema.u64.Reads depth w n ↔ ∃ k, w = .number k ∧ k.value? = some (.int n.toNat) := by
  rw [← value?_eq_int depth]
  constructor
  · rintro ⟨v, hv, -, hn⟩
    rw [← decode_u64.mp hn]
    exact hv
  · exact fun h => ⟨_, h, rfl, decode_u64.mpr rfl⟩

theorem reads_i64 {n : Int64} :
    Schema.i64.Reads depth w n ↔ ∃ k, w = .number k ∧ k.value? = some (.int n.toInt) := by
  rw [← value?_eq_int depth]
  constructor
  · rintro ⟨v, hv, -, hn⟩
    rw [← decode_i64.mp hn]
    exact hv
  · exact fun h => ⟨_, h, rfl, decode_i64.mpr rfl⟩

theorem distinct_null : (s : Schema) → s.distinct .null = true
  | .optional inner => distinct_null inner
  | .bool | .u32 | .u64 | .i64 | .f64 | .text | .any | .list _ | .record _ _ => rfl

theorem read?_null : (s : Schema) → s.read? depth .null = some .null
  | .optional inner => read?_null inner
  | .bool | .u32 | .u64 | .i64 | .f64 | .text | .any | .list _ | .record _ _ => rfl

/-- Nothing but null is read as null. -/
theorem eq_null_of_read? {s : Schema} (h : s.read? depth w = some .null) : w = .null := by
  cases s with
  | optional inner => exact eq_null_of_read? (s := inner) h
  | list _ | record _ _ =>
    cases w with
    | null => rfl
    | list _ | object _ => cases depth <;> simp [read?, value?] at h
    | _ => exact (value?_eq_null depth).mp h
  | _ => exact (value?_eq_null depth).mp h

/-- A place that may be null is read as that, or it holds what the schema inside reads. -/
theorem reads_optional {inner : Schema} {a : Option inner.Data} :
    (Schema.optional inner).Reads depth w a ↔
      (w = .null ∧ a = none) ∨ (w ≠ .null ∧ ∃ b, inner.Reads depth w b ∧ a = some b) := by
  constructor
  · rintro ⟨v, hv, hdistinct, ha⟩
    obtain ⟨rfl, rfl⟩ | ⟨hnull, b, hb, rfl⟩ := decode_optional.mp ha
    · exact .inl ⟨eq_null_of_read? hv, rfl⟩
    · refine .inr ⟨?_, b, ⟨v, hv, hdistinct, hb⟩, rfl⟩
      rintro rfl
      exact hnull (Option.some.inj (hv.symm.trans (read?_null _)))
  · rintro (⟨rfl, rfl⟩ | ⟨hnull, b, ⟨v, hv, hdistinct, hb⟩, rfl⟩)
    · refine ⟨.null, read?_null _, ?_, decode_optional.mpr (.inl ⟨rfl, rfl⟩)⟩
      exact distinct_null inner
    · refine ⟨v, hv, hdistinct, decode_optional.mpr (.inr ⟨?_, b, hb, rfl⟩)⟩
      rintro rfl
      exact hnull (eq_null_of_read? hv)

/-- A record is read of an object or an array. -/
theorem reads_record_cases {name : String} {fields : Fields} {a : fields.Data}
    (h : (Schema.record name fields).Reads depth w a) : (∃ ms, w = .object ms) ∨ ∃ items, w = .list items := by
  obtain ⟨v, hv, -, ha⟩ := h
  cases w with
  | object ms => exact .inl ⟨ms, rfl⟩
  | list items => exact .inr ⟨items, rfl⟩
  | number n =>
    obtain ⟨k, rfl⟩ | ⟨x, rfl⟩ := Numeral.value?_cases hv
    · cases ha
    · cases ha
  | text s =>
    obtain ⟨t, -, rfl⟩ := Option.map_eq_some_iff.mp hv
    cases ha
  | _ =>
    cases hv
    cases ha

end Schema

section Members

variable {read : String → Written → Option (Option Value)} {key : String} {ms : List (List Letter × Written)}
  {vs : Members}

/-- The values of an object under a key, as often as it has one. -/
def Members.named (key : String) (vs : Members) : List Value :=
  vs.filterMap fun m => if m.1 = key then some m.2 else none

theorem Members.get?_eq_head? (key : String) (vs : Members) : vs.get? key = (named key vs).head? := by
  induction vs with
  | nil => rfl
  | cons m vs ih =>
    rw [get?_cons, named, List.filterMap_cons]
    split <;> simp_all [named]

theorem Members.occurrences_eq_length (key : String) (vs : Members) : occurrences key vs = (named key vs).length := by
  induction vs with
  | nil => rfl
  | cons m vs ih =>
    rw [occurrences_cons, named, List.filterMap_cons]
    split <;> simp_all [named]

/-- What stands under the key of a field is read, each time that it stands there. -/
theorem forall₂_named {see : Written → Option Value} (h : readMembers? read ms = some vs)
    (field : ∀ w, read key w = (see w).map some) :
    List.Forall₂ (fun w v => see w = some v) (under key ms) (Members.named key vs) := by
  induction ms generalizing vs with
  | nil =>
    cases h
    exact .nil
  | cons m ms ih =>
    obtain ⟨k, w⟩ := m
    simp only [readMembers?, bind, Option.bind_eq_some_iff] at h
    obtain ⟨name, hname, v, hv, us, hus, hvs⟩ := h
    obtain rfl := Option.some.inj hvs
    have hrest := ih hus
    by_cases hkey : name = key
    · subst hkey
      rw [field, Option.map_eq_some_iff] at hv
      obtain ⟨u, hu, rfl⟩ := hv
      have hall : List.Forall₂ (fun w v => see w = some v) (w :: under name ms) (u :: Members.named name us) :=
        .cons hu hrest
      simpa [under, Members.named, hname] using hall
    · cases v <;> simpa [under, Members.named, hname, hkey] using hrest

theorem exists_readMembers? (h : ∀ m ∈ ms, ∃ name v, spelled? m.1 = some name ∧ read name m.2 = some v) :
    ∃ vs, readMembers? read ms = some vs := by
  induction ms with
  | nil => exact ⟨[], rfl⟩
  | cons m ms ih =>
    obtain ⟨⟨name, v, hname, hv⟩, hrest⟩ := List.forall_mem_cons.mp h
    obtain ⟨vs, hvs⟩ := ih hrest
    simp only [readMembers?, hname, hv, hvs, bind, Option.bind]
    exact ⟨_, rfl⟩

theorem spelled_of_readMembers? (h : readMembers? read ms = some vs) : ∀ m ∈ ms, (spelled? m.1).isSome = true := by
  induction ms generalizing vs with
  | nil => exact nofun
  | cons m ms ih =>
    simp only [readMembers?, bind, Option.bind_eq_some_iff] at h
    obtain ⟨name, hname, v, hv, us, hus, -⟩ := h
    exact List.forall_mem_cons.mpr ⟨Option.isSome_of_eq_some hname, ih hus⟩

/-- What is read of the members is data of a field exactly if the field is read of what stands under its name. -/
theorem Schema.readsField_iff {s : Schema} {fallback : Fallback} {depth : Nat} {a : s.Data}
    (h : readMembers? read ms = some vs) (field : ∀ w, read key w = (s.read? depth w).map some) :
    ((Members.occurrences key vs ≤ 1 ∧ (vs.get? key).all s.distinct = true) ∧
        Reading.ofField key fallback s.decode (vs.get? key) = .done a) ↔
      s.ReadsField fallback depth a (under key ms) := by
  have hread := forall₂_named h field
  rw [Members.occurrences_eq_length, Members.get?_eq_head?]
  generalize under key ms = ws, Members.named key vs = us at hread ⊢
  cases hread with
  | nil => cases fallback <;> simp [ReadsField, Reading.ofField_required, Reading.ofField_fallback]
  | @cons w v ws us hv hrest =>
    cases hrest with
    | nil => simp [ReadsField, Reads, hv, Reading.ofField_some]
    | cons => simp [ReadsField]

namespace Fields

/-- Members are read as fields where their keys name them. -/
def Govern (read : String → Written → Option (Option Value)) (depth : Nat) : Fields → Prop
  | .nil => True
  | .cons name schema _ rest => (∀ w, read name w = (schema.read? depth w).map some) ∧ rest.Govern read depth

variable {depth : Nat}

theorem govern_of_eq {fs : Fields} (nodup : fs.names.Nodup)
    (same : ∀ name ∈ fs.names, ∀ w, read name w = fs.readMember? depth name w) : fs.Govern read depth := by
  match fs with
  | .nil => trivial
  | .cons name schema fallback rest =>
    obtain ⟨hname, hrest⟩ := List.nodup_cons.mp nodup
    obtain ⟨hsame, hothers⟩ := List.forall_mem_cons.mp same
    refine ⟨fun w => ?_, govern_of_eq hrest fun other hother w => ?_⟩
    · rw [hsame, readMember?, if_pos rfl]
    · have hne : other ≠ name := fun heq => hname (heq ▸ hother)
      rw [hothers other hother, readMember?, if_neg hne]

theorem readsMembers_iff {fs : Fields} {a : fs.Data} (govern : fs.Govern read depth)
    (h : readMembers? read ms = some vs) :
    (fs.distinct vs = true ∧ fs.ofMembers vs = .done a) ↔ fs.ReadsMembers depth ms a := by
  match fs, a with
  | .nil, _ => exact iff_of_true ⟨rfl, rfl⟩ trivial
  | .cons name schema fallback rest, (b, c) =>
    rw [ofMembers_cons, ReadsMembers, ← readsMembers_iff govern.2 h, ← Schema.readsField_iff h govern.1]
    simp only [distinct, Bool.and_eq_true, decide_eq_true_eq]
    tauto

/-- Where fields are read of an object, each of its members is read or passed over. -/
theorem exists_readMember? {fs : Fields} {a : fs.Data} (h : fs.ReadsMembers depth ms a) {m : List Letter × Written}
    (hm : m ∈ ms) {name : String} (hname : spelled? m.1 = some name) : ∃ v, fs.readMember? depth name m.2 = some v := by
  match fs, a with
  | .nil, _ => exact ⟨none, rfl⟩
  | .cons field schema fallback rest, (b, c) =>
    obtain ⟨hfield, hrest⟩ := h
    rw [readMember?]
    split
    next heq =>
      subst heq
      have hunder : m.2 ∈ under name ms := List.mem_filterMap.mpr ⟨m, hm, if_pos hname⟩
      match hws : under name ms with
      | [] =>
        rw [hws] at hunder
        cases hunder
      | [w] =>
        rw [hws] at hfield hunder
        obtain ⟨v, hv, -⟩ := hfield
        rw [List.mem_singleton.mp hunder, hv]
        exact ⟨some v, rfl⟩
      | _ :: _ :: _ =>
        rw [hws] at hfield
        cases hfield
    · exact exists_readMember? hrest hm hname

end Fields

/-- A record is read of an object field by field. The keys of all members have to spell something, but what stands
under those that name no field does not matter. -/
theorem Schema.reads_object {name : String} {fields : Fields} (nodup : fields.names.Nodup) {depth : Nat}
    {a : fields.Data} :
    (Schema.record name fields).Reads (depth + 1) (.object ms) a ↔
      (∀ m ∈ ms, (spelled? m.1).isSome = true) ∧ fields.ReadsMembers depth ms a := by
  have govern : fields.Govern (fields.readMember? depth) depth := Fields.govern_of_eq nodup fun _ _ _ => rfl
  constructor
  · rintro ⟨v, hv, hdistinct, ha⟩
    obtain ⟨vs, hvs, rfl⟩ := Option.map_eq_some_iff.mp hv
    exact ⟨spelled_of_readMembers? hvs,
      (Fields.readsMembers_iff govern hvs).mp ⟨hdistinct, decode_object.mp ha⟩⟩
  · rintro ⟨hkeys, hfields⟩
    have hall (m : List Letter × Written) (hm : m ∈ ms) :
        ∃ name v, spelled? m.1 = some name ∧ fields.readMember? depth name m.2 = some v := by
      obtain ⟨name, hname⟩ := Option.isSome_iff_exists.mp (hkeys m hm)
      obtain ⟨v, hv⟩ := Fields.exists_readMember? hfields hm hname
      exact ⟨name, v, hname, hv⟩
    obtain ⟨vs, hvs⟩ := exists_readMembers? hall
    obtain ⟨hdistinct, ha⟩ := (Fields.readsMembers_iff govern hvs).mpr hfields
    exact ⟨.object vs, Option.map_eq_some_iff.mpr ⟨vs, hvs, rfl⟩, hdistinct, decode_object.mpr ha⟩

end Members

section Items

variable {depth : Nat}

theorem Fields.readItems?_nil : (fs : Fields) → fs.readItems? depth [] = some []
  | .nil | .cons _ _ _ _ => rfl

theorem Schema.readsElement_none {s : Schema} {fallback : Fallback} {a : s.Data} (record : String)
    (count index : Nat) :
    s.ReadsElement fallback depth a none ↔ readElement record count index fallback s.decode [] = .ok a := by
  cases fallback <;> simp [ReadsElement, readElement]

theorem Fields.readsItems_iff {fs : Fields} (record : String) (count length index : Nat) {items : List Written}
    {a : fs.Data} :
    (∃ vs, fs.readItems? depth items = some vs ∧ fs.distinctItems vs = true ∧
        fs.ofItems record count length index vs = .ok a) ↔ fs.ReadsItems depth items a := by
  match fs, a with
  | .nil, _ =>
    cases items with
    | nil => exact iff_of_true ⟨[], rfl, rfl, rfl⟩ rfl
    | cons w items => simp [readItems?, ReadsItems]
  | .cons name schema fallback rest, (b, c) =>
    rw [ReadsItems, ← readsItems_iff record count length (index + 1)]
    cases items with
    | nil =>
      simp only [List.head?_nil, List.tail_nil, readItems?_nil, Option.some.injEq, exists_eq_left', distinctItems,
        Option.all_none, Bool.true_and, Schema.readsElement_none record count index]
      rw [ofItems_cons, List.tail_nil]
      tauto
    | cons w items =>
      constructor
      · rintro ⟨us, hus, hdistinct, ha⟩
        simp only [readItems?, bind, Option.bind_eq_some_iff] at hus
        obtain ⟨v, hv, vs, hvs, hus⟩ := hus
        obtain rfl := Option.some.inj hus
        obtain ⟨hv', hvs'⟩ := Bool.and_eq_true_iff.mp hdistinct
        obtain ⟨hb, hc⟩ := ofItems_cons.mp ha
        exact ⟨⟨v, hv, hv', hb⟩, vs, hvs, hvs', hc⟩
      · rintro ⟨⟨v, hv, hv', hb⟩, vs, hvs, hvs', hc⟩
        refine ⟨v :: vs, ?_, Bool.and_eq_true_iff.mpr ⟨hv', hvs'⟩, ofItems_cons.mpr ⟨hb, hc⟩⟩
        simp only [List.tail_cons] at hvs
        simp only [readItems?, hv, hvs, bind, Option.bind]

/-- A record is read of an array place by place. -/
theorem Schema.reads_list {name : String} {fields : Fields} {items : List Written} {a : fields.Data} :
    (Schema.record name fields).Reads (depth + 1) (.list items) a ↔ fields.ReadsItems depth items a := by
  constructor
  · rintro ⟨v, hv, hdistinct, ha⟩
    obtain ⟨vs, hvs, rfl⟩ := Option.map_eq_some_iff.mp hv
    exact (Fields.readsItems_iff name fields.count vs.length 0).mp ⟨vs, hvs, hdistinct, ha⟩
  · intro h
    obtain ⟨vs, hvs, -⟩ := (Fields.readsItems_iff name fields.count 0 0).mpr h
    obtain ⟨us, hus, hdistinct, ha⟩ := (Fields.readsItems_iff name fields.count vs.length 0).mpr h
    obtain rfl := Option.some.inj (hvs.symm.trans hus)
    exact ⟨.list vs, Option.map_eq_some_iff.mpr ⟨vs, hvs, rfl⟩, hdistinct, ha⟩

end Items

end PageCoverage
