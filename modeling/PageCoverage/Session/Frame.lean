import PageCoverage.Error
import PageCoverage.Json.Print
import PageCoverage.Json.Read
import PageCoverage.Protocol
import PageCoverage.Schema.Decode
import PageCoverage.Schema.Distinct
import PageCoverage.Schema.Written

namespace PageCoverage

/-- An error that the target answers with. -/
structure RemoteError where
  code : Int64
  text : String
  deriving DecidableEq, Repr

/-- The error as part of an error message. -/
def RemoteError.message (e : RemoteError) : String := e.text ++ " (" ++ toString e.code.toInt ++ ")"

/-- A frame from the target. It answers the command with its id, and without an id it is an event. -/
structure Frame where
  id : Option UInt64
  method : Option String
  params : Value
  result : Option Value
  error : Option RemoteError

instance : Coded RemoteError where
  schema := .record "RemoteError" (.cons "code" .i64 (.value (.int 0)) (.cons "message" .text .required .nil))
  toData e := (e.code, e.text, ())
  ofData := fun (code, text, _) => ⟨code, text⟩

instance : Coded Frame where
  schema := .record "IncomingFrame"
    (.cons "id" (.optional .u64) (.member .null)
      (.cons "method" (.optional .text) (.member .null)
        (.cons "params" .any (.value .null)
          (.cons "result" (.optional .any) (.member .null)
            (.cons "error" (.optional (Coded.schema RemoteError)) (.member .null) .nil)))))
  toData f := (f.id, f.method, f.params, f.result, f.error.map Coded.toData, ())
  ofData := fun (id, method, params, result, error, _) => ⟨id, method, params, result, error.map Coded.ofData⟩

/-- Why a text is no frame. -/
inductive FrameError where
  | notJson
  /-- What it says about itself has no value or is nested too deeply. -/
  | unreadable
  /-- It names a member of the frame twice. -/
  | repeatedMember
  | decode (e : DecodeError)

def FrameError.message : FrameError → String
  | notJson => "not JSON"
  | unreadable => "no value"
  | repeatedMember => "duplicate member"
  | decode e => e.message

namespace Frame

def maxDepth : Nat := 127

/-- The frame that a text denotes. Members that no frame has are passed over, in the frame and in its error. -/
def read (text : String) : Except FrameError Frame :=
  match Json.parse? text with
  | none => .error .notJson
  | some w =>
    match (Coded.schema Frame).read? maxDepth w with
    | none => .error .unreadable
    | some v =>
      if (Coded.schema Frame).distinct v then (decode Frame v).mapError .decode else .error .repeatedMember

/-- What a frame says about the command that it answers. An error counts more than a result, and no
result means an empty one. -/
def outcome (f : Frame) (method : String) : Except CoverageError Value :=
  match f.error with
  | some e => .error (.command method e.message)
  | none => .ok (f.result.getD .empty)

end Frame

/-- The value of the frame that sends a command. -/
def Command.frame (c : Command) (id : UInt64) : Value :=
  .object [("id", .int id.toNat), ("method", .text c.method), ("params", c.params)]

end PageCoverage
