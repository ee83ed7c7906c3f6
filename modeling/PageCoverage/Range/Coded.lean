import PageCoverage.Range.Basic
import PageCoverage.Schema.Basic

namespace PageCoverage

instance : Coded UsageRange where
  schema := .record "UsageRange"
    (.cons "start" .u32 .required (.cons "end" .u32 .required (.cons "hitCount" .u32 .required .nil)))
  toData r := (r.start, r.stop, r.hits, ())
  ofData := fun (start, stop, hits, _) => ⟨start, stop, hits⟩

instance : Coded CoveredRange where
  schema := .record "DisjointRange" (.cons "start" .u32 .required (.cons "end" .u32 .required .nil))
  toData r := (r.start, r.stop, ())
  ofData := fun (start, stop, _) => ⟨start, stop⟩

end PageCoverage
