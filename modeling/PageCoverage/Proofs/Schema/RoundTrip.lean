import PageCoverage.Proofs.Json.Members
import PageCoverage.Proofs.Schema.Fields
import PageCoverage.Resource.Report
import PageCoverage.Schema.Encode
import PageCoverage.Settings

namespace PageCoverage

/-- A change of values that keeps what they are and rearranges members at most. -/
structure Value.Rearranges (f : Value → Value) : Prop where
  null : ∀ v, f v = .null ↔ v = .null
  bool : ∀ b, f (.bool b) = .bool b
  int : ∀ n, f (.int n) = .int n
  float : ∀ x, f (.float x) = .float x
  text : ∀ s, f (.text s) = .text s
  list : ∀ vs, f (.list vs) = .list (vs.map f)
  object : ∀ ms, (ms.map Prod.fst).Nodup →
    ∃ ns, f (.object ms) = .object ns ∧ ∀ key, Members.get? ns key = (Members.get? ms key).map f

namespace Value

theorem rearranges_id : Rearranges id where
  null _ := Iff.rfl
  bool _ := rfl
  int _ := rfl
  float _ := rfl
  text _ := rfl
  list vs := by rw [List.map_id]; rfl
  object ms _ := ⟨ms, rfl, fun key => by rw [Option.map_id]; rfl⟩

theorem rearranges_canonical : Rearranges canonical where
  null _ := canonical_eq_null
  bool _ := rfl
  int _ := rfl
  float _ := rfl
  text _ := rfl
  list vs := by rw [canonical, canonicalItems_eq]
  object ms nodup :=
    ⟨_, rfl, fun key => Members.get?_canonical (Members.occurrences_le_one nodup key)⟩

end Value

/-- Whether a missing field reads as null. -/
def Fallback.isNull : Fallback → Bool
  | .value .null | .member .null => true
  | _ => false

theorem Fallback.isNull_iff {fallback : Fallback} :
    fallback.isNull = true ↔ fallback = .value .null ∨ fallback = .member .null := by
  rw [isNull.eq_def]
  split <;> simp_all

mutual

/-- Whether a schema tells apart all that it writes: its fields have different names, an optional field reads as
null where it is left out, and nothing but the absence of an optional value is written as null. -/
def Schema.isFaithful : Schema → Bool
  | .any => false
  | .optional inner => !inner.isOptional && inner.isFaithful
  | .list item => item.isFaithful
  | .record _ fields => fields.isFaithful
  | _ => true
termination_by structural s => s

def Fields.isFaithful : Fields → Bool
  | .nil => true
  | .cons name schema fallback rest =>
    !rest.names.contains name && schema.isFaithful && (!schema.isOptional || fallback.isNull) && rest.isFaithful
termination_by structural fs => fs

end

mutual

/-- All floats in data are finite. -/
def Schema.Finite : (s : Schema) → s.Data → Prop
  | .f64, x => x.isFinite = true
  | .optional inner, a => ∀ b, a = some b → inner.Finite b
  | .list item, as => ∀ a ∈ as, item.Finite a
  | .record _ fields, a => fields.Finite a
  | .bool, _ | .u32, _ | .u64, _ | .i64, _ | .text, _ | .any, _ => True
termination_by structural s => s

def Fields.Finite : (fs : Fields) → fs.Data → Prop
  | .nil, _ => True
  | .cons _ schema _ rest, (a, as) => schema.Finite a ∧ rest.Finite as
termination_by structural fs => fs

end

mutual

/-- Whether a schema describes data with floats in it. -/
def Schema.hasFloat : Schema → Bool
  | .f64 => true
  | .optional inner => inner.hasFloat
  | .list item => item.hasFloat
  | .record _ fields => fields.hasFloat
  | _ => false
termination_by structural s => s

def Fields.hasFloat : Fields → Bool
  | .nil => false
  | .cons _ schema _ rest => schema.hasFloat || rest.hasFloat
termination_by structural fs => fs

end

mutual

theorem Schema.finite_of_hasFloat : ∀ (s : Schema), s.hasFloat = false → ∀ a : s.Data, s.Finite a
  | .bool, _, _ | .u32, _, _ | .u64, _, _ | .i64, _, _ | .text, _, _ | .any, _, _ => trivial
  | .f64, h, _ => by cases h
  | .optional inner, h, _ => fun b _ => Schema.finite_of_hasFloat inner h b
  | .list item, h, _ => fun a _ => Schema.finite_of_hasFloat item h a
  | .record _ fields, h, a => Fields.finite_of_hasFloat fields h a

theorem Fields.finite_of_hasFloat : ∀ (fs : Fields), fs.hasFloat = false → ∀ as : fs.Data, fs.Finite as
  | .nil, _, _ => trivial
  | .cons _ schema _ rest, h, (a, as) =>
    have ⟨hschema, hrest⟩ : schema.hasFloat = false ∧ rest.hasFloat = false := Bool.or_eq_false_iff.mp h
    ⟨Schema.finite_of_hasFloat schema hschema a, Fields.finite_of_hasFloat rest hrest as⟩

end

namespace Schema

theorem encode_ne_null {s : Schema} (faithful : s.isFaithful = true) (required : s.isOptional = false)
    {a : s.Data} (finite : s.Finite a) : s.encode a ≠ .null := by
  cases s with
  | any => cases faithful
  | optional inner => cases required
  | f64 => simp [encode, show Float.isFinite a = true from finite]
  | _ => simp [encode]

/-- Of data only the absence of an optional value is written as null, and null reads as that. -/
theorem decode_null_of_encode {s : Schema} (faithful : s.isFaithful = true) {a : s.Data} (finite : s.Finite a)
    (h : s.encode a = .null) : s.isOptional = true ∧ s.decode .null = .ok a := by
  cases hoptional : s.isOptional with
  | false => exact absurd h (encode_ne_null faithful hoptional finite)
  | true =>
    cases s with
    | optional inner =>
      have hinner : inner.isOptional = false ∧ inner.isFaithful = true := by
        simpa [isFaithful] using faithful
      cases a with
      | none => exact ⟨rfl, rfl⟩
      | some b => exact absurd h (encode_ne_null hinner.2 hinner.1 (finite b rfl))
    | _ => cases hoptional

end Schema

namespace Fields

variable {name : String} {schema : Schema} {fallback : Fallback} {rest : Fields} {a : schema.Data} {as : rest.Data}

/-- A field is left out if it is optional and written as null, and stands first otherwise. -/
theorem encode_cases (name : String) (schema : Schema) (fallback : Fallback) (rest : Fields) (a : schema.Data)
    (as : rest.Data) :
    (schema.isOptional = true ∧ schema.encode a = .null ∧
        (cons name schema fallback rest).encode (a, as) = rest.encode as) ∨
      (cons name schema fallback rest).encode (a, as) = (name, schema.encode a) :: rest.encode as := by
  rw [encode]
  split
  next hoptional hnull => exact .inl ⟨hoptional, hnull, rfl⟩
  · exact .inr rfl

/-- Fields are written under their names, each once at most. -/
theorem names_encode_sublist : ∀ (fs : Fields) (as : fs.Data), ((fs.encode as).map Prod.fst).Sublist fs.names
  | .nil, _ => .slnil
  | .cons name schema fallback rest, (a, as) => by
    have ih := names_encode_sublist rest as
    obtain ⟨-, -, hencode⟩ | hencode := encode_cases name schema fallback rest a as
    · rw [hencode]
      exact ih.cons name
    · rw [hencode]
      exact ih.cons_cons name

theorem faithful_cons (faithful : (cons name schema fallback rest).isFaithful = true) :
    name ∉ rest.names ∧ schema.isFaithful = true ∧ (schema.isOptional = true → fallback.isNull = true) ∧
      rest.isFaithful = true := by
  have h : name ∉ rest.names ∧ schema.isFaithful = true ∧
      (schema.isOptional = false ∨ fallback.isNull = true) ∧ rest.isFaithful = true := by
    simpa [isFaithful, and_assoc] using faithful
  obtain ⟨hname, hschema, hfallback, hrest⟩ := h
  refine ⟨hname, hschema, fun hoptional => hfallback.resolve_left ?_, hrest⟩
  simp [hoptional]

theorem nodup_names : ∀ {fs : Fields}, fs.isFaithful = true → fs.names.Nodup
  | .nil, _ => .nil
  | .cons _ _ _ _, faithful =>
    have ⟨hname, _, _, hrest⟩ := faithful_cons faithful
    List.nodup_cons.mpr ⟨hname, nodup_names hrest⟩

end Fields

theorem decodeItems_map {α : Type} {item : Value → Except DecodeError α} {write : α → Value} {as : List α}
    (h : ∀ a ∈ as, item (write a) = .ok a) : decodeItems item (as.map write) = .ok as := by
  induction as with
  | nil => rfl
  | cons a as ih =>
    obtain ⟨ha, has⟩ := List.forall_mem_cons.mp h
    rw [List.map_cons, decodeItems, ha, ih has]
    rfl

mutual

/-- Data is read from what has been written of it, with members in any order. -/
theorem Schema.decode_encode {f : Value → Value} (hf : Value.Rearranges f) :
    ∀ (s : Schema), s.isFaithful = true → ∀ (a : s.Data), s.Finite a → s.decode (f (s.encode a)) = .ok a
  | .bool, _, b, _ => by rw [Schema.encode, hf.bool, Schema.decode]
  | .u32, _, n, _ => by
    rw [Schema.encode, hf.int]
    exact Schema.decode_u32.mpr rfl
  | .u64, _, n, _ => by
    rw [Schema.encode, hf.int]
    exact Schema.decode_u64.mpr rfl
  | .i64, _, n, _ => by
    rw [Schema.encode, hf.int]
    exact Schema.decode_i64.mpr rfl
  | .f64, _, x, finite => by
    have hx : Float.isFinite x = true := finite
    rw [Schema.encode, if_pos hx, hf.float, Schema.decode]
  | .text, _, t, _ => by rw [Schema.encode, hf.text, Schema.decode]
  | .any, faithful, _, _ => by cases faithful
  | .optional inner, faithful, none, finite => by
    rw [Schema.encode, (hf.null _).mpr rfl, Schema.decode]
  | .optional inner, faithful, some b, finite => by
    obtain ⟨hoptional, hinner⟩ : inner.isOptional = false ∧ inner.isFaithful = true := by
      simpa [Schema.isFaithful] using faithful
    have ih := Schema.decode_encode hf inner hinner b (finite b rfl)
    have hencode := Schema.encode_ne_null hinner hoptional (finite b rfl)
    exact Schema.decode_optional.mpr (.inr ⟨mt (hf.null _).mp hencode, b, ih, rfl⟩)
  | .list item, faithful, as, finite => by
    have ih (a : item.Data) (ha : a ∈ as) := Schema.decode_encode hf item faithful a (finite a ha)
    rw [Schema.encode, hf.list, List.map_map]
    exact decodeItems_map ih
  | .record name fields, faithful, a, finite => by
    have nodup := (Fields.names_encode_sublist fields a).nodup (Fields.nodup_names faithful)
    obtain ⟨ms, hms, hget⟩ := hf.object _ nodup
    rw [Schema.encode, hms]
    exact Schema.decode_object.mpr (Fields.ofMembers_encode hf fields faithful a finite ms fun name _ => hget name)

theorem Fields.ofMembers_encode {f : Value → Value} (hf : Value.Rearranges f) :
    ∀ (fs : Fields), fs.isFaithful = true → ∀ (as : fs.Data), fs.Finite as → ∀ ms : Members,
      (∀ name ∈ fs.names, Members.get? ms name = (Members.get? (fs.encode as) name).map f) →
      fs.ofMembers ms = .done as
  | .nil, _, _, _, _, _ => rfl
  | .cons name schema fallback rest, faithful, (a, as), finite, ms, found => by
    obtain ⟨hname, hschema, hfallback, hrest⟩ := Fields.faithful_cons faithful
    have hlater : ∀ key ∈ rest.names,
        Members.get? ((Fields.cons name schema fallback rest).encode (a, as)) key =
          Members.get? (rest.encode as) key := by
      intro key hkey
      have hne : name ≠ key := fun heq => hname (heq ▸ hkey)
      obtain ⟨-, -, hencode⟩ | hencode := Fields.encode_cases name schema fallback rest a as
      · rw [hencode]
      · rw [hencode, Members.get?_cons, if_neg hne]
    refine Fields.ofMembers_cons.mpr ⟨?_, ?_⟩
    · have hfound := found name List.mem_cons_self
      obtain ⟨hoptional, hnull, hencode⟩ | hencode := Fields.encode_cases name schema fallback rest a as
      · have hnone : Members.get? (rest.encode as) name = none :=
          Members.get?_eq_none fun hmem => hname ((Fields.names_encode_sublist rest as).subset hmem)
        rw [hfound, hencode, hnone, Option.map_none]
        refine (Reading.ofField_fallback (Fallback.isNull_iff.mp (hfallback hoptional))).mpr ?_
        exact (Schema.decode_null_of_encode hschema finite.1 hnull).2
      · rw [hfound, hencode, Members.get?_cons, if_pos rfl, Option.map_some]
        exact Reading.ofField_some.mpr (Schema.decode_encode hf schema hschema a finite.1)
    · refine Fields.ofMembers_encode hf rest hrest as finite.2 ms fun key hkey => ?_
      rw [found key (List.mem_cons_of_mem name hkey), hlater key hkey]

end

/-- The types whose values are the data of a faithful schema. -/
class LawfulCoded (α : Type) [Coded α] : Prop where
  faithful : (Coded.schema α).isFaithful = true
  ofData_toData (a : α) : Coded.ofData (Coded.toData a) = a

/-- A value is read back from what is written of it, as its members are declared and in key order. -/
structure RoundTrips {α : Type} [Coded α] (a : α) : Prop where
  declared : decode α (encode a) = .ok a
  ordered : decode α (encode a).canonical = .ok a

section

variable {α : Type} [Coded α] [LawfulCoded α]

theorem roundTrips_of_finite (a : α) (finite : (Coded.schema α).Finite (Coded.toData a)) : RoundTrips a := by
  have reads {f : Value → Value} (hf : Value.Rearranges f) : decode α (f (encode a)) = .ok a := by
    rw [decode, encode, Schema.decode_encode hf _ LawfulCoded.faithful _ finite]
    exact congrArg Except.ok (LawfulCoded.ofData_toData a)
  exact ⟨reads Value.rearranges_id, reads Value.rearranges_canonical⟩

theorem roundTrips_of_hasFloat (h : (Coded.schema α).hasFloat = false) (a : α) : RoundTrips a :=
  roundTrips_of_finite a (Schema.finite_of_hasFloat _ h _)

instance : LawfulCoded (List α) where
  faithful := LawfulCoded.faithful (α := α)
  ofData_toData as := by
    show (as.map Coded.toData).map Coded.ofData = as
    rw [List.map_map]
    exact List.map_id'' LawfulCoded.ofData_toData as

end

instance : LawfulCoded UsageRange := ⟨rfl, fun _ => rfl⟩

instance : LawfulCoded CoveredRange := ⟨rfl, fun _ => rfl⟩

instance : LawfulCoded CountedRange := ⟨rfl, fun _ => rfl⟩

instance : LawfulCoded FunctionCoverage where
  faithful := rfl
  ofData_toData f := congrArg (FunctionCoverage.mk f.name · f.isBlock) (LawfulCoded.ofData_toData f.ranges)

instance : LawfulCoded ScriptCoverage where
  faithful := rfl
  ofData_toData s := congrArg (ScriptCoverage.mk s.id s.url ·) (LawfulCoded.ofData_toData s.functions)

instance : LawfulCoded ScriptSnapshot where
  faithful := rfl
  ofData_toData s := congrArg (ScriptSnapshot.mk · s.timestamp) (LawfulCoded.ofData_toData s.scripts)

instance : LawfulCoded RuleUsage := ⟨rfl, fun _ => rfl⟩

instance : LawfulCoded RuleSnapshot where
  faithful := rfl
  ofData_toData s := congrArg RuleSnapshot.mk (LawfulCoded.ofData_toData s.rules)

instance : LawfulCoded (Option ScriptCoverage) where
  faithful := rfl
  ofData_toData a := by
    cases a with
    | none => rfl
    | some s => exact congrArg some (LawfulCoded.ofData_toData s)

instance : LawfulCoded Entry where
  faithful := rfl
  ofData_toData e := by
    show Entry.mk e.url e.text (Coded.ofData (Coded.toData e.ranges)) (Coded.ofData (Coded.toData e.raw)) = e
    rw [LawfulCoded.ofData_toData, LawfulCoded.ofData_toData]

instance : LawfulCoded Report where
  faithful := rfl
  ofData_toData r := congrArg Report.mk (LawfulCoded.ofData_toData r.entries)

instance : LawfulCoded ScriptOptions := ⟨rfl, fun _ => rfl⟩

instance : LawfulCoded StylesheetOptions := ⟨rfl, fun _ => rfl⟩

instance : LawfulCoded Settings := ⟨rfl, fun _ => rfl⟩

instance : LawfulCoded ResourceId := ⟨rfl, fun _ => rfl⟩

/-- The offsets of a rule are finite. -/
def RuleUsage.Finite (r : RuleUsage) : Prop := r.startOffset.isFinite = true ∧ r.endOffset.isFinite = true

instance (r : RuleUsage) : Decidable r.Finite := inferInstanceAs (Decidable (_ ∧ _))

/-- Every value with finite floats, of whatever type that is written as JSON, is read back from what is
written of it. -/
theorem written_reads_back :
    (∀ r : UsageRange, RoundTrips r) ∧ (∀ r : CoveredRange, RoundTrips r) ∧
      (∀ r : CountedRange, RoundTrips r) ∧ (∀ f : FunctionCoverage, RoundTrips f) ∧
      (∀ s : ScriptCoverage, RoundTrips s) ∧
      (∀ s : ScriptSnapshot, s.timestamp.isFinite = true → RoundTrips s) ∧
      (∀ r : RuleUsage, r.Finite → RoundTrips r) ∧
      (∀ s : RuleSnapshot, (∀ r ∈ s.rules, r.Finite) → RoundTrips s) ∧
      (∀ e : Entry, RoundTrips e) ∧ (∀ r : Report, RoundTrips r) ∧ (∀ o : ScriptOptions, RoundTrips o) ∧
      (∀ o : StylesheetOptions, RoundTrips o) ∧ (∀ s : Settings, RoundTrips s) ∧
      ∀ id : ResourceId, RoundTrips id := by
  have rule (r : RuleUsage) (finite : r.Finite) : (Coded.schema RuleUsage).Finite (Coded.toData r) :=
    ⟨trivial, finite.1, finite.2, trivial, trivial⟩
  have snapshot (s : ScriptSnapshot) (finite : s.timestamp.isFinite = true) :
      (Coded.schema ScriptSnapshot).Finite (Coded.toData s) :=
    ⟨Schema.finite_of_hasFloat (Coded.schema (List ScriptCoverage)) rfl _, finite, trivial⟩
  have rules (s : RuleSnapshot) (finite : ∀ r ∈ s.rules, r.Finite) :
      (Coded.schema RuleSnapshot).Finite (Coded.toData s) := by
    refine ⟨fun a ha => ?_, trivial⟩
    obtain ⟨r, hr, rfl⟩ := List.mem_map.mp ha
    exact rule r (finite r hr)
  exact ⟨roundTrips_of_hasFloat rfl, roundTrips_of_hasFloat rfl, roundTrips_of_hasFloat rfl,
    roundTrips_of_hasFloat rfl, roundTrips_of_hasFloat rfl, fun s h => roundTrips_of_finite s (snapshot s h),
    fun r h => roundTrips_of_finite r (rule r h), fun s h => roundTrips_of_finite s (rules s h),
    roundTrips_of_hasFloat rfl, roundTrips_of_hasFloat rfl, roundTrips_of_hasFloat rfl,
    roundTrips_of_hasFloat rfl, roundTrips_of_hasFloat rfl, roundTrips_of_hasFloat rfl⟩

/-- Usage of two rules, one of which lies in front of its stylesheet. -/
def someRules : RuleSnapshot := ⟨[⟨"1", 0, 12.5, true⟩, ⟨"2", -0.5, 7, false⟩]⟩

theorem written_reads_back_of_rules :
    (⟨[], 0.25⟩ : ScriptSnapshot).timestamp.isFinite = true ∧ RoundTrips (⟨[], 0.25⟩ : ScriptSnapshot) ∧
      (⟨"1", 0, 12.5, true⟩ : RuleUsage).Finite ∧ RoundTrips (⟨"1", 0, 12.5, true⟩ : RuleUsage) ∧
      (∀ r ∈ someRules.rules, r.Finite) ∧ RoundTrips someRules := by
  obtain ⟨-, -, -, -, -, snapshot, rule, rules, -⟩ := written_reads_back
  have first : (⟨"1", 0, 12.5, true⟩ : RuleUsage).Finite := by decide
  have all : ∀ r ∈ someRules.rules, r.Finite := by decide
  exact ⟨by decide, snapshot _ (by decide), first, rule _ first, all, rules _ all⟩

end PageCoverage
