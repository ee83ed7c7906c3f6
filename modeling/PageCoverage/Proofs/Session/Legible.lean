import PageCoverage.Proofs.Session.Correlation

namespace PageCoverage

open Json (Letter Written letters spelled?)
open Json.Written (Held Optional mem_under length_under under)

namespace Json.Written

/-- An integer that a signed word can hold. -/
def IsCode (w : Written) : Prop :=
  ∃ k : Int, (-0x8000000000000000 ≤ k ∧ k ≤ 0x7FFFFFFFFFFFFFFF) ∧ w.IsInt k

theorem isCode_iff {w : Written} : w.IsCode ↔ ∃ n : Int64, w.IsInt n.toInt := by
  constructor
  · rintro ⟨k, hrange, hk⟩
    have hint : (Int64.ofInt k).toInt = k := Int64.toInt_ofInt_of_le (by omega) (by omega)
    exact ⟨.ofInt k, by rwa [hint]⟩
  · rintro ⟨n, hn⟩
    exact ⟨n.toInt, ⟨n.le_toInt, Int.le_of_lt_add_one n.toInt_lt⟩, hn⟩

theorem eq_nil_or_singleton {ws : List Written} (once : ws.length ≤ 1) : ws = [] ∨ ∃ w, ws = [w] := by
  obtain hzero | hone := Nat.le_one_iff_eq_zero_or_eq_one.mp once
  · exact .inl (List.length_eq_zero_iff.mp hzero)
  · exact .inr (List.length_eq_one_iff.mp hone)

section Optional

variable {α : Type} {reads : Written → α → Prop} {ws : List Written}

theorem Optional.null_or {a : Option α} (h : Optional reads ws a) : ∀ w ∈ ws, w = .null ∨ ∃ a, reads w a := by
  cases h with
  | absent => exact nofun
  | null => simp
  | present there holds =>
    intro w hw
    obtain rfl := List.mem_singleton.mp hw
    exact .inr ⟨_, holds⟩

theorem exists_optional (once : ws.length ≤ 1) (h : ∀ w ∈ ws, w = .null ∨ ∃ a, reads w a) :
    ∃ a, Optional reads ws a := by
  obtain rfl | ⟨w, rfl⟩ := eq_nil_or_singleton once
  · exact ⟨none, .absent⟩
  · by_cases hnull : w = .null
    · subst hnull
      exact ⟨none, .null⟩
    · obtain ⟨a, ha⟩ := (h w List.mem_cons_self).resolve_left hnull
      exact ⟨some a, .present hnull ha⟩

end Optional

theorem under_eq_singleton {key : String} {ms : List (List Letter × Written)} {w : Written}
    (once : (ms.map Prod.fst).Nodup) (h : (letters key, w) ∈ ms) : under key ms = [w] := by
  have hmem : w ∈ under key ms := mem_under.mpr h
  obtain hnone | ⟨u, hu⟩ := eq_nil_or_singleton (length_under once key)
  · rw [hnone] at hmem
    cases hmem
  · rw [hu] at hmem ⊢
    rw [List.mem_singleton.mp hmem]

end Json.Written

namespace RemoteError

/-- What an error can be read from: an object with a message and perhaps a code, or an array of the two. -/
inductive Legible : Written → Prop where
  | object {ms : List (List Letter × Written)} {message : Written} {t : String}
    (keys : ∀ m ∈ ms, (spelled? m.1).isSome = true) (code_once : (under "code" ms).length ≤ 1)
    (code : ∀ w, (letters "code", w) ∈ ms → w.IsCode) (message_once : under "message" ms = [message])
    (text : message.IsText t) : Legible (.object ms)
  | list {w message : Written} {t : String} (code : w.IsCode) (text : message.IsText t) : Legible (.list [w, message])

theorem legible_iff {w : Written} : Legible w ↔ ∃ e, Conveys w e := by
  constructor
  · rintro (@⟨ms, message, t, keys, code_once, code, message_once, text⟩ | ⟨hcode, text⟩)
    · -- A missing code stands for 0.
      have hcode : ∃ n : Int64, (under "code" ms = [] ∧ n = 0) ∨ ∃ w, under "code" ms = [w] ∧ w.IsInt n.toInt := by
        obtain hnone | ⟨w, hw⟩ := Json.Written.eq_nil_or_singleton code_once
        · exact ⟨0, .inl ⟨hnone, rfl⟩⟩
        · obtain ⟨n, hn⟩ := Json.Written.isCode_iff.mp (code w (mem_under.mp (hw ▸ List.mem_singleton_self w)))
          exact ⟨n, .inr ⟨w, hw, hn⟩⟩
      obtain ⟨n, hn⟩ := hcode
      exact ⟨⟨n, t⟩, .object keys ⟨hn, message, message_once, text⟩⟩
    · obtain ⟨n, hn⟩ := Json.Written.isCode_iff.mp hcode
      exact ⟨⟨n, _⟩, .list ⟨.inr ⟨_, rfl, hn⟩, _, rfl, text⟩⟩
  · rintro ⟨e, @⟨ms, _, keys, hcode, message, message_once, text⟩ | ⟨hcode, message, hmessage, text⟩⟩
    · obtain ⟨hnone, -⟩ | ⟨w, hw, hn⟩ := hcode
      · refine .object keys (by simp [hnone]) (fun w hw => ?_) message_once text
        rw [← mem_under, hnone] at hw
        cases hw
      · refine .object keys (by simp [hw]) (fun u hu => ?_) message_once text
        rw [← mem_under, hw] at hu
        rw [List.mem_singleton.mp hu]
        exact Json.Written.isCode_iff.mpr ⟨_, hn⟩
    · obtain ⟨hnone, -⟩ | ⟨w, hw, hn⟩ := hcode
      · cases hnone
      · cases hw
        cases hmessage
        exact .list (Json.Written.isCode_iff.mpr ⟨_, hn⟩) text

end RemoteError

namespace Frame

/-- What the members of an answer besides its number have to be like for it to be read. Those with other keys may
hold anything. -/
structure Legible (ms : List (List Letter × Written)) : Prop where
  keys : ∀ m ∈ ms, (spelled? m.1).isSome = true
  method : ∀ w, (letters "method", w) ∈ ms → w = .null ∨ ∃ t, w.IsText t
  params : ∀ w, (letters "params", w) ∈ ms → Held 126 w
  result : ∀ w, (letters "result", w) ∈ ms → Held 126 w
  error : ∀ w, (letters "error", w) ∈ ms → w = .null ∨ RemoteError.Legible w

variable {ms : List (List Letter × Written)} {f : Frame} {id : UInt64} {w : Written}

/-- What a frame is read from is legible. -/
theorem Conveys.legible (h : Conveys (.object ms) f) : Legible ms := by
  obtain ⟨keys, parts⟩ | -:= h
  refine ⟨keys, fun w hw => parts.method.null_or w (mem_under.mpr hw), fun w hw => ?_, fun w hw => ?_, fun w hw => ?_⟩
  · obtain ⟨hnone, -⟩ | ⟨u, hu, hv⟩ := parts.params
    · rw [← mem_under, hnone] at hw
      cases hw
    · rw [← mem_under, hu] at hw
      rw [List.mem_singleton.mp hw, ← Json.Written.isSome_value?, hv]
      rfl
  · obtain rfl | ⟨v, hv⟩ := parts.result.null_or w (mem_under.mpr hw)
    · exact .null
    · exact Json.Written.isSome_value?.mp (Option.isSome_of_eq_some hv)
  · exact (parts.error.null_or w (mem_under.mpr hw)).imp_right RemoteError.legible_iff.mpr

/-- From a legible object a frame is read, under its number. -/
theorem Legible.conveys (legible : Legible ms) (once : (ms.map Prod.fst).Nodup) (holds : (letters "id", w) ∈ ms)
    (number : w.IsInt id.toNat) : ∃ f, Conveys (.object ms) f ∧ f.id = some id := by
  have hid : Optional (fun w n => w.IsInt (UInt64.toNat n)) (under "id" ms) (some id) := by
    rw [Json.Written.under_eq_singleton once holds]
    refine .present ?_ number
    rintro rfl
    obtain ⟨_, h, -⟩ := number
    cases h
  obtain ⟨method, hmethod⟩ := Json.Written.exists_optional (length_under once "method") fun w hw =>
    legible.method w (mem_under.mp hw)
  have hparams : ∃ v : Value,
      (under "params" ms = [] ∧ v = .null) ∨ ∃ w, under "params" ms = [w] ∧ w.value? 126 = some v := by
    obtain hnone | ⟨w, hw⟩ := Json.Written.eq_nil_or_singleton (length_under once "params")
    · exact ⟨.null, .inl ⟨hnone, rfl⟩⟩
    · have hheld := legible.params w (mem_under.mp (hw ▸ List.mem_singleton_self w))
      obtain ⟨v, hv⟩ := Option.isSome_iff_exists.mp (Json.Written.isSome_value?.mpr hheld)
      exact ⟨v, .inr ⟨w, hw, hv⟩⟩
  obtain ⟨params, hparams⟩ := hparams
  have hresult : ∃ v, Optional (fun w v => w.value? 126 = some v) (under "result" ms) v :=
    Json.Written.exists_optional (length_under once "result") fun w hw =>
      .inr (Option.isSome_iff_exists.mp (Json.Written.isSome_value?.mpr (legible.result w (mem_under.mp hw))))
  obtain ⟨result, hresult⟩ := hresult
  obtain ⟨error, herror⟩ := Json.Written.exists_optional (length_under once "error") fun w hw =>
    (legible.error w (mem_under.mp hw)).imp_right RemoteError.legible_iff.mp
  exact ⟨⟨some id, method, params, result, error⟩, .object legible.keys ⟨hid, hmethod, hparams, hresult, herror⟩, rfl⟩

end Frame

namespace Socket

variable {s : Socket} {id : UInt64} {method text : String} {ms : List (List Letter × Written)} {w : Written}

/-- A pending call that is answered waits no longer, and its caller finds what the frame says. -/
theorem receive_of_pending (pending : s.pending.lookup id = some method) {f : Frame}
    (spells : Frame.Spells text f) (number : f.id = some id) :
    s.receive text = { s with
      pending := withoutKey id s.pending, answers := (id, f.outcome method) :: s.answers } := by
  rw [receive_of_id spells number, resolve, pending]

theorem outcome_cases (f : Frame) (method : String) :
    (∃ v, f.outcome method = .ok v) ∨ ∃ m, f.outcome method = .error (.command method m) := by
  rw [Frame.outcome]
  cases f.error with
  | none => exact .inl ⟨_, rfl⟩
  | some e => exact .inr ⟨_, rfl⟩

theorem receive_of_illegible (object : Json.parse? text = some (.object ms)) (illegible : ¬Frame.Legible ms) :
    ∃ e, s.receive text = s.note (.malformedFrame e) := by
  cases hread : Frame.read text with
  | ok f =>
    obtain ⟨w, hw, conveys⟩ := Frame.read_eq_ok.mp hread
    obtain rfl := Option.some.inj (hw.symm.trans object)
    exact absurd conveys.legible illegible
  | error e => exact ⟨e.message, by rw [receive, hread]⟩

/-- A socket with one call. -/
def asked : Socket := (({} : Socket).send { method := Method.profilerEnable }).2

def first : Written := .number ⟨false, ['1'], none, none⟩

/-- An answer whose error has a message and no code, beside members that no value can be read of. -/
def codeless : String := "\x7b\"id\":1,\"error\":\x7b\"message\":\"gone\",\"data\":\"\\ud800\"\x7d,\"took\":1e999\x7d"

def codelessError : List (List Letter × Written) :=
  [(letters "message", .text (letters "gone")), (letters "data", .text [.half 0xD800])]

def codelessMembers : List (List Letter × Written) :=
  [(letters "id", first), (letters "error", .object codelessError),
    (letters "took", .number ⟨false, ['1'], none, some 999⟩)]

/-- An answer whose result is half a surrogate pair. -/
def halved : String := "\x7b\"id\":1,\"result\":\"\\ud800\"\x7d"

def halvedMembers : List (List Letter × Written) := [(letters "id", first), (letters "result", .text [.half 0xD800])]

/-- An answer with a result beside a method that is no text. -/
def illTyped : String := "\x7b\"id\":1,\"method\":7,\"result\":\x7b\"x\":1\x7d\x7d"

def illTypedMembers : List (List Letter × Written) :=
  [(letters "id", first), (letters "method", .number ⟨false, ['7'], none, none⟩),
    (letters "result", .object [(letters "x", first)])]

end Socket

end PageCoverage
