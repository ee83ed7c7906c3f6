import PageCoverage.Range.Basic
import PageCoverage.Schema.Basic

namespace PageCoverage

/-- A range of a script and how often it ran. -/
structure CountedRange where
  startOffset : UInt32
  endOffset : UInt32
  count : UInt32
  deriving DecidableEq, Repr

/-- The counts inside one function; the first range spans the whole function. -/
structure FunctionCoverage where
  name : String
  ranges : List CountedRange
  isBlock : Bool
  deriving DecidableEq, Repr

/-- The counts inside one script. -/
structure ScriptCoverage where
  id : String
  url : String
  functions : List FunctionCoverage
  deriving DecidableEq, Repr

/-- The counts of every script at one moment. -/
structure ScriptSnapshot where
  scripts : List ScriptCoverage
  timestamp : Float

/-- Whether one stylesheet rule matched anything. -/
structure RuleUsage where
  sheet : String
  startOffset : Float
  endOffset : Float
  used : Bool

/-- The usage of every tracked rule. -/
structure RuleSnapshot where
  rules : List RuleUsage

instance : Coded CountedRange where
  schema := .record "CoverageRange"
    (.cons "startOffset" .u32 .required (.cons "endOffset" .u32 .required (.cons "count" .u32 .required .nil)))
  toData r := (r.startOffset, r.endOffset, r.count, ())
  ofData := fun (start, stop, count, _) => ⟨start, stop, count⟩

instance : Coded FunctionCoverage where
  schema := .record "FunctionCoverage"
    (.cons "functionName" .text (.value (.text ""))
      (.cons "ranges" (Coded.schema (List CountedRange)) .required
        (.cons "isBlockCoverage" .bool (.value (.bool false)) .nil)))
  toData f := (f.name, Coded.toData f.ranges, f.isBlock, ())
  ofData := fun (name, ranges, isBlock, _) => ⟨name, Coded.ofData ranges, isBlock⟩

instance : Coded ScriptCoverage where
  schema := .record "ScriptCoverage"
    (.cons "scriptId" .text .required
      (.cons "url" .text (.value (.text ""))
        (.cons "functions" (Coded.schema (List FunctionCoverage)) .required .nil)))
  toData s := (s.id, s.url, Coded.toData s.functions, ())
  ofData := fun (id, url, functions, _) => ⟨id, url, Coded.ofData functions⟩

instance : Coded ScriptSnapshot where
  schema := .record "PreciseCoverageSnapshot"
    (.cons "result" (Coded.schema (List ScriptCoverage)) (.value (.list []))
      (.cons "timestamp" .f64 (.value (.float 0)) .nil))
  toData s := (Coded.toData s.scripts, s.timestamp, ())
  ofData := fun (scripts, timestamp, _) => ⟨Coded.ofData scripts, timestamp⟩

instance : Coded RuleUsage where
  schema := .record "RuleUsage"
    (.cons "styleSheetId" .text .required
      (.cons "startOffset" .f64 .required
        (.cons "endOffset" .f64 .required (.cons "used" .bool .required .nil))))
  toData r := (r.sheet, r.startOffset, r.endOffset, r.used, ())
  ofData := fun (sheet, start, stop, used, _) => ⟨sheet, start, stop, used⟩

instance : Coded RuleSnapshot where
  schema := .record "RuleUsageSnapshot"
    (.cons "ruleUsage" (Coded.schema (List RuleUsage)) (.value (.list [])) .nil)
  toData s := (Coded.toData s.rules, ())
  ofData := fun (rules, _) => ⟨Coded.ofData rules⟩

def CountedRange.toUsage (r : CountedRange) : UsageRange := ⟨r.startOffset, r.endOffset, r.count⟩

def FunctionCoverage.wasExecuted (f : FunctionCoverage) : Bool :=
  f.ranges.head?.any fun r => 0 < r.count

namespace ScriptCoverage

def executed (s : ScriptCoverage) : Nat := s.functions.countP (·.wasExecuted)

/-- The ranges of all functions in report order. -/
def usageRanges (s : ScriptCoverage) : List UsageRange :=
  s.functions.flatMap fun f => f.ranges.map CountedRange.toUsage

end ScriptCoverage

/-- A rule as a usage range. Offsets are cut to whole numbers and kept within 32 bits. -/
def RuleUsage.toUsage (r : RuleUsage) : UsageRange :=
  ⟨r.startOffset.toUInt32, r.endOffset.toUInt32, if r.used then 1 else 0⟩

end PageCoverage
