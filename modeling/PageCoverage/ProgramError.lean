import PageCoverage.Error

namespace PageCoverage

/-- What went wrong in a run of the command. -/
inductive ProgramError where
  | config (message : String)
  | coverage (cause : CoverageError)
  | logging (message : String)
  | runtime (message : String)
  | report (message : String)
  | io (message : String)
  deriving DecidableEq, Repr

def ProgramError.message : ProgramError → String
  | config message => "Configuration error: " ++ message
  | coverage cause => cause.message
  | logging message => "Failed to initialise logging: " ++ message
  | runtime message => "Runtime error: " ++ message
  | report message => "Report generation failed: " ++ message
  | io message => "I/O error: " ++ message

end PageCoverage
