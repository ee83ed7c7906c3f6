namespace PageCoverage

/-- The choice of log lines on the command line. -/
structure LogOptions where
  verbose : UInt8 := 0
  quiet : Bool := false
  json : Bool := false
  deriving DecidableEq, Repr, Inhabited

namespace LogOptions

/-- The least level that is shown. -/
def level (o : LogOptions) : String :=
  if o.quiet then "error"
  else if o.verbose = 0 then "warn"
  else if o.verbose = 1 then "info"
  else if o.verbose = 2 then "debug"
  else "trace"

/-- The filter of log lines: warnings of everything, the chosen level of this program. -/
def directives (o : LogOptions) : String :=
  "warn,probar_coverage=" ++ o.level ++ ",probar_coverage_cli=" ++ o.level

end LogOptions

end PageCoverage
