import PageCoverage.CommandLine.Reading
import PageCoverage.ProgramError
import PageCoverage.SettingsFile

namespace PageCoverage

/-- The settings a run uses: the flags of the command line change what the file or the defaults say. -/
def Arguments.override (a : Arguments) (s : Settings) : Settings :=
  { collectScripts := s.collectScripts && !a.skipScripts
    collectStylesheets := s.collectStylesheets && !a.skipStylesheets
    scripts := { s.scripts with
      reportAnonymous := s.scripts.reportAnonymous || a.reportAnonymous
      includeRaw := s.scripts.includeRaw || a.includeRaw }
    stylesheets := s.stylesheets
    duration := a.duration.getD s.duration }

/-- Refuse settings that collect nothing or for no time. -/
def Settings.check (s : Settings) : Except ProgramError Settings :=
  match s.validate with
  | .error e => .error (.coverage e)
  | .ok () => if s.duration = 0 then .error (.config "duration must be at least one second") else .ok s

/-- What the program needs of its surroundings. -/
structure Surroundings (m : Type → Type) where
  url : Option String
  fileText : String → m (Except FileError String)
  /-- Connect to a target and collect. -/
  collect : String → Settings → m (Except CoverageError RunReport)
  colored : Bool
  writeOut : String → m Unit
  writeError : String → m Unit

namespace Program

variable {m : Type → Type} [Monad m]

def settings (w : Surroundings m) (a : Arguments) : m (Except ProgramError Settings) := do
  match a.config with
  | none => return (a.override {}).check
  | some path =>
    match Settings.load path (← w.fileText path) with
    | .error e => return .error (.coverage e)
    | .ok s => return (a.override s).check

/-- Collect as arguments ask, and write the report. -/
def collect (w : Surroundings m) (a : Arguments) : m (Except ProgramError Unit) := do
  match ← settings w a with
  | .error e => return .error e
  | .ok s =>
    if !a.log.quiet then
      w.writeError ("Collecting coverage for " ++ toString s.duration ++ "s (Ctrl-C to stop early)\n")
    match ← w.collect a.url s with
    | .error e => return .error (.coverage e)
    | .ok report =>
      w.writeOut (report.render a.format (a.color.fixed?.getD w.colored))
      return .ok ()

def version : String := "probar-coverage 0.1.0\n"

def about : String := "CLI for Probar coverage: collect JS/CSS coverage from a live page over CDP\n"

def usageOf (s : CommandLine.Switch) : String :=
  "  " ++ (s.short?.elim "    " fun c => "-" ++ c.toString ++ ", ") ++ "--" ++ s.long ++
    (if s.takesValue then " <" ++ s.long.toUpper ++ ">" else "") ++ "\n"

def help : String :=
  about ++ "\nUsage: probar-coverage [OPTIONS] --ws-url <WS-URL>\n\nOptions:\n" ++
    String.join (CommandLine.Switch.all.map usageOf)

def usageMessage : CommandLine.UsageError → String
  | .unknownArgument => "unexpected argument found"
  | .repeated s => "the argument --" ++ s.long ++ " cannot be used multiple times"
  | .invalidValue s => "invalid or missing value for --" ++ s.long
  | .notNumber s => "the value for --" ++ s.long ++ " is not a number"
  | .unexpectedValue s => "unexpected value for --" ++ s.long
  | .missing s => "the required argument --" ++ s.long ++ " was not provided"

/-- Run the program. The exit code is one for an error of the run and two for one of the usage. -/
def run (w : Surroundings m) (args : List String) : m UInt8 := do
  match CommandLine.read args w.url with
  | .error refusal =>
    match refusal with
    | .help => w.writeOut help
    | .version => w.writeOut version
    | .usage e => w.writeError ("error: " ++ usageMessage e ++ "\n")
    return refusal.exitCode
  | .ok a =>
    match ← collect w a with
    | .ok () => return 0
    | .error e =>
      w.writeError ("Error: " ++ e.message ++ "\n")
      return 1

end Program

end PageCoverage
