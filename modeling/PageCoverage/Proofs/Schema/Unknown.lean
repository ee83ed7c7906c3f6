import PageCoverage.Proofs.Json.Members
import PageCoverage.Resource.Payload
import PageCoverage.Strategy.Basic
import Mathlib.Data.List.Forall2

namespace PageCoverage

/-- Members with others added between them, under names that are not known. The value of a known name may change by the
relation of that name; all other members stay. -/
inductive Members.Widens (known : List String) (rel : String → Value → Value → Prop) : Members → Members → Prop where
  | nil : Widens known rel [] []
  | added (key : String) (value : Value) {ms ns : Members} (unknown : key ∉ known) (rest : Widens known rel ms ns) :
      Widens known rel ms ((key, value) :: ns)
  | kept (key : String) (value : Value) {ms ns : Members} (unknown : key ∉ known) (rest : Widens known rel ms ns) :
      Widens known rel ((key, value) :: ms) ((key, value) :: ns)
  | field {key : String} {v w : Value} {ms ns : Members} (hkey : key ∈ known) (value : rel key v w)
      (rest : Widens known rel ms ns) : Widens known rel ((key, v) :: ms) ((key, w) :: ns)

/-- A value as a list whose items may change by a relation. -/
inductive Value.WidensList (rel : Value → Value → Prop) : Value → Value → Prop where
  | same (v : Value) : WidensList rel v v
  | list {vs ws : List Value} (items : List.Forall₂ rel vs ws) : WidensList rel (.list vs) (.list ws)

/-- A value as a record, which is an object of members or an array of elements. -/
inductive Value.WidensRecord (members : Members → Members → Prop) (elements : List Value → List Value → Prop) :
    Value → Value → Prop where
  | same (v : Value) : WidensRecord members elements v v
  | object {ms ns : Members} (h : members ms ns) : WidensRecord members elements (.object ms) (.object ns)
  | array {vs ws : List Value} (h : elements vs ws) : WidensRecord members elements (.list vs) (.list ws)

mutual

/-- Whether a value is another one with members added in objects that a schema reads as records, at any depth, under
names that are no fields of these. -/
def Schema.Widens : Schema → Value → Value → Prop
  | .optional inner, v, w => inner.Widens v w
  | .list item, v, w => Value.WidensList item.Widens v w
  | .record _ fields, v, w =>
    Value.WidensRecord (Members.Widens fields.names fields.WidensField) fields.WidensElements v w
  | .bool, v, w | .u32, v, w | .u64, v, w | .i64, v, w | .f64, v, w | .text, v, w | .any, v, w => v = w
termination_by structural s => s

/-- The value of a member, by the schema of the field with its name. -/
def Fields.WidensField : Fields → String → Value → Value → Prop
  | .nil, _, _, _ => True
  | .cons name schema _ rest, key, v, w => (key = name → schema.Widens v w) ∧ rest.WidensField key v w
termination_by structural fs => fs

/-- The elements of an array, by the schemas of the fields at their places. -/
def Fields.WidensElements : Fields → List Value → List Value → Prop
  | .cons _ schema _ rest, v :: vs, w :: ws => schema.Widens v w ∧ rest.WidensElements vs ws
  | _, vs, ws => vs = ws
termination_by structural fs => fs

end

theorem Members.Widens.get? {known : List String} {rel : String → Value → Value → Prop} {ms ns : Members}
    (h : Widens known rel ms ns) {key : String} (hkey : key ∈ known) :
    Option.Rel (rel key) (Members.get? ms key) (Members.get? ns key) := by
  induction h with
  | nil => exact .none
  | added k v unknown _ ih =>
    have hne : k ≠ key := fun heq => unknown (heq ▸ hkey)
    rwa [get?_cons, if_neg hne]
  | kept k v unknown _ ih =>
    have hne : k ≠ key := fun heq => unknown (heq ▸ hkey)
    rwa [get?_cons, get?_cons, if_neg hne, if_neg hne]
  | @field k v w _ _ _ value _ ih =>
    rw [get?_cons, get?_cons]
    by_cases heq : k = key
    · rw [if_pos heq, if_pos heq]
      exact .some (heq ▸ value)
    · rwa [if_neg heq, if_neg heq]

theorem optionRel_mono {α β : Type} {r s : α → β → Prop} (hrs : ∀ a b, r a b → s a b) {x : Option α} {y : Option β}
    (h : Option.Rel r x y) : Option.Rel s x y := by
  cases h with
  | none => exact .none
  | some hab => exact .some (hrs _ _ hab)

/-- Nothing is added to null. -/
theorem Schema.eq_null_iff_of_widens {v w : Value} : ∀ {s : Schema}, s.Widens v w → (w = .null ↔ v = .null)
  | .optional inner, h => eq_null_iff_of_widens (s := inner) h
  | .list item, h => by
    have hlist : Value.WidensList item.Widens v w := h
    cases hlist <;> simp
  | .record _ fields, h => by
    have hrecord : Value.WidensRecord (Members.Widens fields.names fields.WidensField) fields.WidensElements v w := h
    cases hrecord <;> simp
  | .bool, h | .u32, h | .u64, h | .i64, h | .f64, h | .text, h | .any, h => by
    rw [show v = w from h]

theorem Fields.length_of_widensElements : ∀ (fs : Fields) {vs ws : List Value}, fs.WidensElements vs ws →
    ws.length = vs.length
  | .nil, _, _, h | .cons _ _ _ _, [], _, h | .cons _ _ _ _, _ :: _, [], h => congrArg List.length (Eq.symm h)
  | .cons _ _ _ rest, _ :: _, _ :: _, ⟨_, h⟩ => congrArg (· + 1) (rest.length_of_widensElements h)

theorem decodeItems_congr {α : Type} {item : Value → Except DecodeError α} {rel : Value → Value → Prop}
    (hitem : ∀ v w, rel v w → item w = item v) {vs ws : List Value} (h : List.Forall₂ rel vs ws) :
    decodeItems item ws = decodeItems item vs := by
  induction h with
  | nil => rfl
  | cons hvw _ ih => rw [decodeItems, decodeItems, hitem _ _ hvw, ih]

theorem Reading.ofField_congr {α : Type} (name : String) (fallback : Fallback) {read : Value → Except DecodeError α}
    {rel : Value → Value → Prop} (hread : ∀ v w, rel v w → read w = read v) {found found' : Option Value}
    (h : Option.Rel rel found found') : ofField name fallback read found' = ofField name fallback read found := by
  cases h with
  | none => rfl
  | some hvw => rw [ofField, ofField, hread _ _ hvw]

mutual

-- By recursion on the schema. Members are found by name, so that of an object only what its known names find is carried
-- into the recursion over the fields; the elements of an array keep their places.

theorem Schema.decode_widens : ∀ (s : Schema) (v w : Value), s.Widens v w → s.decode w = s.decode v
  | .bool, v, w, h | .u32, v, w, h | .u64, v, w, h | .i64, v, w, h | .f64, v, w, h | .text, v, w, h
  | .any, v, w, h => by rw [show v = w from h]
  | .optional inner, v, w, h => by
    have hinner : inner.Widens v w := h
    by_cases hnull : v = .null
    · rw [hnull, (Schema.eq_null_iff_of_widens hinner).mpr hnull]
    · have hw : w ≠ .null := mt (Schema.eq_null_iff_of_widens hinner).mp hnull
      rw [Schema.decode, Schema.decode, Schema.decode_widens inner v w hinner]
      · exact hnull
      · exact hw
  | .list item, v, w, h => by
    have hlist : Value.WidensList item.Widens v w := h
    cases hlist with
    | same => rfl
    | list items => exact decodeItems_congr (fun v w hvw => Schema.decode_widens item v w hvw) items
  | .record name fields, v, w, h => by
    have hrecord : Value.WidensRecord (Members.Widens fields.names fields.WidensField) fields.WidensElements v w := h
    cases hrecord with
    | same => rfl
    | @object ms ns members =>
      rw [Schema.decode, Schema.decode, Fields.ofMembers_widens fields ms ns fun key hkey => members.get? hkey]
    | @array vs ws elements =>
      rw [Schema.decode, Schema.decode, fields.length_of_widensElements elements,
        Fields.ofItems_widens fields vs ws elements]

theorem Fields.ofMembers_widens : ∀ (fs : Fields) (ms ns : Members),
    (∀ key ∈ fs.names, Option.Rel (fs.WidensField key) (Members.get? ms key) (Members.get? ns key)) →
      fs.ofMembers ns = fs.ofMembers ms
  | .nil, _, _, _ => rfl
  | .cons name schema fallback rest, ms, ns, found => by
    have hfield := Reading.ofField_congr name fallback
      (fun v w (hvw : (Fields.cons name schema fallback rest).WidensField name v w) =>
        Schema.decode_widens schema v w (hvw.1 rfl))
      (found name List.mem_cons_self)
    have hrest := Fields.ofMembers_widens rest ms ns fun key hkey =>
      optionRel_mono (fun _ _ hvw => hvw.2) (found key (List.mem_cons_of_mem name hkey))
    rw [Fields.ofMembers, Fields.ofMembers, hfield, hrest]

theorem Fields.ofItems_widens : ∀ (fs : Fields) (vs ws : List Value), fs.WidensElements vs ws →
    ∀ name count length index, fs.ofItems name count length index ws = fs.ofItems name count length index vs
  | .nil, vs, ws, h, _, _, _, _ => by rw [show vs = ws from h]
  | .cons _ _ _ _, [], ws, h, _, _, _, _ => by rw [← show [] = ws from h]
  | .cons _ schema fallback rest, v :: vs, w :: ws, h, name, count, length, index => by
    have hread := Schema.decode_widens schema v w h.1
    have hrest := Fields.ofItems_widens rest vs ws h.2 name count length (index + 1)
    rw [Fields.ofItems, Fields.ofItems, readElement, readElement, hread, List.tail_cons, List.tail_cons, hrest]

end

/-- What is exchanged with a target is read as it is read with unknown members added, and where it cannot be read, the
error says the same. -/
theorem decode_ignores_unknown {α : Type} [Coded α] {v w : Value} (widens : (Coded.schema α).Widens v w) :
    decode α w = decode α v ∧ ∀ context, decodePayload α context w = decodePayload α context v := by
  have hdecode : decode α w = decode α v := by
    rw [decode, decode, Schema.decode_widens (Coded.schema α) v w widens]
  refine ⟨hdecode, fun context => ?_⟩
  rw [decodePayload, decodePayload, hdecode]

/-- A snapshot with one range, as a target may send it. -/
def ofOneRange (range : Value) : Value :=
  .object [("result",
    .list [.object [("functions", .list [.object [("ranges", .list [range])]]), ("scriptId", .text "1")]])]

/-- The same snapshot from a target that tells more. -/
def annotated (range : Value) : Value :=
  .object [("aborted", .bool false),
    ("result", .list [.object [("functions", .list [.object [("kind", .null), ("ranges", .list [range])]]),
      ("hash", .text "f"), ("scriptId", .text "1")]])]

theorem widens_annotated {v w : Value} (h : (Coded.schema CountedRange).Widens v w) :
    (Coded.schema ScriptSnapshot).Widens (ofOneRange v) (annotated w) := by
  have hfunction : (Coded.schema FunctionCoverage).Widens (.object [("ranges", .list [v])])
      (.object [("kind", .null), ("ranges", .list [w])]) :=
    .object (.added "kind" .null (by decide)
      (.field (by decide) ⟨by simp, fun _ => .list (.cons h .nil), by simp, trivial⟩ .nil))
  have hscript : (Coded.schema ScriptCoverage).Widens
      (.object [("functions", .list [.object [("ranges", .list [v])]]), ("scriptId", .text "1")])
      (.object [("functions", .list [.object [("kind", .null), ("ranges", .list [w])]]), ("hash", .text "f"),
        ("scriptId", .text "1")]) :=
    .object (.field (by decide) ⟨by simp, by simp, fun _ => .list (.cons hfunction .nil), trivial⟩
      (.added "hash" (.text "f") (by decide)
        (.field (by decide) ⟨fun _ => rfl, by simp, by simp, trivial⟩ .nil)))
  exact .object (.added "aborted" (.bool false) (by decide)
    (.field (by decide) ⟨fun _ => .list (.cons hscript .nil), by simp, trivial⟩ .nil))

/-- Of a bad range the same member is found at fault, also where it is no longer the first one. -/
theorem decode_ignores_unknown_annotated :
    let bare : Value := .object [("count", .bool true), ("startOffset", .text "0")]
    let full : Value := .object [("blockId", .int 7), ("count", .bool true), ("line", .null), ("startOffset", .text "0")]
    (Coded.schema ScriptSnapshot).Widens (ofOneRange bare) (annotated full) ∧
      decode ScriptSnapshot (annotated full) = decode ScriptSnapshot (ofOneRange bare) ∧
      decode ScriptSnapshot (ofOneRange bare) = .error (.wrongType (.bool true) "u32") := by
  intro bare full
  have hrange : (Coded.schema CountedRange).Widens bare full :=
    .object (.added "blockId" (.int 7) (by decide) (.field (by decide) ⟨by simp, by simp, fun _ => rfl, trivial⟩
      (.added "line" .null (by decide) (.field (by decide) ⟨fun _ => rfl, by simp, by simp, trivial⟩ .nil))))
  have widens := widens_annotated hrange
  exact ⟨widens, (decode_ignores_unknown widens).1, rfl⟩

end PageCoverage
