import PageCoverage.Proofs.Schema.Written
import PageCoverage.Session.Frame

namespace PageCoverage

open Json (Written spelled?)
open Json.Written (under)

namespace Json.Written

def IsInt (w : Written) (k : Int) : Prop := ∃ n, w = .number n ∧ n.value? = some (.int k)

def IsText (w : Written) (t : String) : Prop := ∃ s, w = .text s ∧ spelled? s = some t

/-- Something that may be left out or be null. -/
inductive Optional {α : Type} (reads : Written → α → Prop) : List Written → Option α → Prop where
  | absent : Optional reads [] none
  | null : Optional reads [.null] none
  | present {w : Written} {a : α} (there : w ≠ .null) (holds : reads w a) : Optional reads [w] (some a)

theorem Optional.map_iff {α β : Type} {reads : Written → α → Prop} {reads' : Written → β → Prop} {f : α → β}
    (h : ∀ w a, reads' w (f a) ↔ reads w a) {ws : List Written} {a : Option α} :
    Optional reads' ws (a.map f) ↔ Optional reads ws a := by
  cases a with
  | none =>
    constructor
    · rintro (- | -)
      · exact .absent
      · exact .null
    · rintro (- | -)
      · exact .absent
      · exact .null
  | some a =>
    constructor
    · rintro (- | - | ⟨there, holds⟩)
      exact .present there ((h _ _).mp holds)
    · rintro (- | - | ⟨there, holds⟩)
      exact .present there ((h _ _).mpr holds)

theorem Optional.iff {α : Type} {reads reads' : Written → α → Prop} (h : ∀ w a, reads' w a ↔ reads w a)
    {ws : List Written} {a : Option α} : Optional reads' ws a ↔ Optional reads ws a := by
  rw [← map_iff (f := id) h, Option.map_id, id]

end Json.Written

open Json.Written (Optional)

namespace Schema

variable {depth : Nat} {ws : List Written}

/-- An optional member is left out, null, or read by the schema inside. -/
theorem readsField_optional {inner : Schema} {a : Option inner.Data} :
    (Schema.optional inner).ReadsField (.member .null) depth a ws ↔ Optional (inner.Reads depth) ws a := by
  match ws with
  | [] =>
    constructor
    · intro h
      obtain rfl : none = a := Except.ok.inj h
      exact .absent
    · intro h
      cases h
      rfl
  | [w] =>
    refine reads_optional.trans ?_
    constructor
    · rintro (⟨rfl, rfl⟩ | ⟨there, b, hb, rfl⟩)
      · exact .null
      · exact .present there hb
    · rintro (- | - | ⟨there, hb⟩)
      · exact .inl ⟨rfl, rfl⟩
      · exact .inr ⟨there, _, hb, rfl⟩
  | _ :: _ :: _ =>
    constructor
    · exact False.elim
    · exact nofun

theorem readsField_any {a : Value} :
    Schema.any.ReadsField (.value .null) depth a ws ↔
      (ws = [] ∧ a = .null) ∨ ∃ w, ws = [w] ∧ w.value? depth = some a := by
  match ws with
  | [] => simp [ReadsField, decode, eq_comm]
  | [w] => simp [ReadsField, reads_any]
  | _ :: _ :: _ => simp [ReadsField]

theorem readsField_text {t : String} :
    Schema.text.ReadsField .required depth t ws ↔ ∃ w, ws = [w] ∧ w.IsText t := by
  match ws with
  | [] => simp [ReadsField]
  | [w] => simp [ReadsField, reads_text, Written.IsText]
  | _ :: _ :: _ => simp [ReadsField]

theorem readsField_i64 {n : Int64} :
    Schema.i64.ReadsField (.value (.int 0)) depth n ws ↔
      (ws = [] ∧ n = 0) ∨ ∃ w, ws = [w] ∧ w.IsInt n.toInt := by
  match ws with
  | [] =>
    have hzero : Schema.i64.decode (.int 0) = .ok n ↔ n = 0 := by
      rw [decode_i64, Value.int.injEq, ← Int64.toInt_inj, Int64.toInt_zero, eq_comm]
    simp [ReadsField, hzero]
  | [w] => simp [ReadsField, reads_i64, Written.IsInt]
  | _ :: _ :: _ => simp [ReadsField]

end Schema

namespace RemoteError

/-- The parts of an error: its code, which is 0 if there is none, and its message. -/
structure HasParts (e : RemoteError) (code message : List Written) : Prop where
  code : (code = [] ∧ e.code = 0) ∨ ∃ w, code = [w] ∧ w.IsInt e.code.toInt
  message : ∃ w, message = [w] ∧ w.IsText e.text

/-- An error is written as an object, which may have other members, or as an array. -/
inductive Conveys : Written → RemoteError → Prop where
  | object {ms : List (List Json.Letter × Written)} {e : RemoteError} (keys : ∀ m ∈ ms, (spelled? m.1).isSome = true)
    (parts : e.HasParts (under "code" ms) (under "message" ms)) : Conveys (.object ms) e
  | list {code message : Written} {e : RemoteError} (parts : e.HasParts [code] [message]) :
    Conveys (.list [code, message]) e

theorem hasParts_iff {depth : Nat} {e : RemoteError} {code message : List Written} :
    e.HasParts code message ↔
      Schema.i64.ReadsField (.value (.int 0)) depth e.code code ∧
        Schema.text.ReadsField .required depth e.text message := by
  rw [Schema.readsField_i64, Schema.readsField_text]
  exact ⟨fun ⟨hcode, hmessage⟩ => ⟨hcode, hmessage⟩, fun ⟨hcode, hmessage⟩ => ⟨hcode, hmessage⟩⟩

theorem reads_iff {depth : Nat} {w : Written} {e : RemoteError} :
    (Coded.schema RemoteError).Reads (depth + 1) w (e.code, e.text, ()) ↔ Conveys w e := by
  match w with
  | .object ms =>
    refine (Schema.reads_object (by decide)).trans ?_
    constructor
    · rintro ⟨hkeys, hcode, hmessage, -⟩
      exact .object hkeys (hasParts_iff.mpr ⟨hcode, hmessage⟩)
    · rintro (@⟨_, _, hkeys, parts⟩ | _)
      obtain ⟨hcode, hmessage⟩ := hasParts_iff.mp parts
      exact ⟨hkeys, hcode, hmessage, trivial⟩
  | .list items =>
    refine Schema.reads_list.trans ?_
    constructor
    · rintro ⟨hcode, hmessage, hend⟩
      match items with
      | [] | [_] => cases hmessage
      | [code, message] => exact .list (hasParts_iff.mpr ⟨hcode, hmessage⟩)
      | _ :: _ :: _ :: _ => cases hend
    · rintro (_ | parts)
      obtain ⟨hcode, hmessage⟩ := hasParts_iff.mp parts
      exact ⟨hcode, hmessage, rfl⟩
  | .null | .bool _ | .number _ | .text _ =>
    refine iff_of_false (fun h => ?_) nofun
    obtain ⟨ms, hms⟩ | ⟨items, hitems⟩ := Schema.reads_record_cases h
    · cases hms
    · cases hitems

end RemoteError

namespace Frame

/-- The parts of a frame. All but its parameters may be null, and none has to be there. -/
structure HasParts (f : Frame) (id method params result error : List Written) : Prop where
  id : Optional (fun w n => w.IsInt (UInt64.toNat n)) id f.id
  method : Optional Written.IsText method f.method
  params : (params = [] ∧ f.params = .null) ∨ ∃ w, params = [w] ∧ w.value? 126 = some f.params
  result : Optional (fun w v => w.value? 126 = some v) result f.result
  error : Optional RemoteError.Conveys error f.error

/-- A frame is written as an object, which may have other members, or as an array of all its parts. -/
inductive Conveys : Written → Frame → Prop where
  | object {ms : List (List Json.Letter × Written)} {f : Frame} (keys : ∀ m ∈ ms, (spelled? m.1).isSome = true)
    (parts : f.HasParts (under "id" ms) (under "method" ms) (under "params" ms) (under "result" ms)
      (under "error" ms)) : Conveys (.object ms) f
  | list {id method params result error : Written} {f : Frame}
    (parts : f.HasParts [id] [method] [params] [result] [error]) : Conveys (.list [id, method, params, result, error]) f

variable {w : Written} {f : Frame} {text : String}

theorem hasParts_iff {id method params result error : List Written} :
    f.HasParts id method params result error ↔
      (Schema.optional .u64).ReadsField (.member .null) 126 f.id id ∧
      (Schema.optional .text).ReadsField (.member .null) 126 f.method method ∧
      Schema.any.ReadsField (.value .null) 126 f.params params ∧
      (Schema.optional .any).ReadsField (.member .null) 126 f.result result ∧
      (Schema.optional (Coded.schema RemoteError)).ReadsField (.member .null) 126 (f.error.map Coded.toData) error := by
  have herror : Optional ((Coded.schema RemoteError).Reads 126) error (f.error.map Coded.toData) ↔
      Optional RemoteError.Conveys error f.error := Written.Optional.map_iff fun w e => RemoteError.reads_iff
  rw [Schema.readsField_optional, Schema.readsField_optional, Schema.readsField_any, Schema.readsField_optional,
    Schema.readsField_optional, Written.Optional.iff fun w n => Schema.reads_u64,
    Written.Optional.iff fun w t => Schema.reads_text, Written.Optional.iff fun w v => Schema.reads_any, herror]
  exact ⟨fun ⟨hid, hmethod, hparams, hresult, herror⟩ => ⟨hid, hmethod, hparams, hresult, herror⟩,
    fun ⟨hid, hmethod, hparams, hresult, herror⟩ => ⟨hid, hmethod, hparams, hresult, herror⟩⟩

theorem reads_iff : (Coded.schema Frame).Reads maxDepth w (Coded.toData f) ↔ Conveys w f := by
  match w with
  | .object ms =>
    refine (Schema.reads_object (by decide)).trans ?_
    constructor
    · rintro ⟨hkeys, hid, hmethod, hparams, hresult, herror, -⟩
      exact .object hkeys (hasParts_iff.mpr ⟨hid, hmethod, hparams, hresult, herror⟩)
    · rintro (@⟨_, _, hkeys, parts⟩ | _)
      obtain ⟨hid, hmethod, hparams, hresult, herror⟩ := hasParts_iff.mp parts
      exact ⟨hkeys, hid, hmethod, hparams, hresult, herror, trivial⟩
  | .list items =>
    refine Schema.reads_list.trans ?_
    constructor
    · rintro ⟨hid, hmethod, hparams, hresult, herror, hend⟩
      match items with
      | [] => cases hid
      | [_] => cases hmethod
      | [_, _] | [_, _, _] => cases hresult
      | [_, _, _, _] => cases herror
      | [id, method, params, result, error] =>
        exact .list (hasParts_iff.mpr ⟨hid, hmethod, hparams, hresult, herror⟩)
      | _ :: _ :: _ :: _ :: _ :: _ :: _ => cases hend
    · rintro (_ | parts)
      obtain ⟨hid, hmethod, hparams, hresult, herror⟩ := hasParts_iff.mp parts
      exact ⟨hid, hmethod, hparams, hresult, herror, rfl⟩
  | .null | .bool _ | .number _ | .text _ =>
    refine iff_of_false (fun h => ?_) nofun
    obtain ⟨ms, hms⟩ | ⟨items, hitems⟩ := Schema.reads_record_cases h
    · cases hms
    · cases hitems

/-- A text is JSON that conveys a frame. -/
def Spells (text : String) (f : Frame) : Prop := ∃ w, Json.parse? text = some w ∧ Conveys w f

theorem decode_eq_ok {v : Value} :
    decode Frame v = .ok f ↔ (Coded.schema Frame).decode v = .ok (Coded.toData f) := by
  rw [decode]
  cases (Coded.schema Frame).decode v with
  | error e => simp [Except.map]
  | ok d =>
    obtain ⟨id, method, params, result, error, ⟨⟩⟩ := d
    simp only [Except.map, Except.ok.injEq]
    constructor
    · rintro rfl
      cases error <;> rfl
    · intro hd
      obtain ⟨_, _, _, _, e⟩ := f
      rw [hd]
      cases e <;> rfl

/-- A frame is read of the texts that spell it, and of no others. -/
theorem read_eq_ok : Frame.read text = .ok f ↔ Spells text f := by
  rw [Frame.read, Spells]
  cases Json.parse? text with
  | none => simp
  | some w =>
    simp only [Option.some.injEq, exists_eq_left', ← reads_iff, Schema.Reads, ← decode_eq_ok]
    cases (Coded.schema Frame).read? maxDepth w with
    | none => simp
    | some v =>
      by_cases hdistinct : (Coded.schema Frame).distinct v = true
      · cases hd : decode Frame v <;> simp [hdistinct, hd, Except.mapError]
      · simp [hdistinct]

theorem Spells.unique {g : Frame} (h : Spells text f) (h' : Spells text g) : f = g := by
  rw [← read_eq_ok] at h h'
  exact Except.ok.inj (h.symm.trans h')

end Frame

end PageCoverage
