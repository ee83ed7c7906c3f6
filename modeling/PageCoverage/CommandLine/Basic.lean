import PageCoverage.Log
import PageCoverage.Render

namespace PageCoverage

inductive ColorChoice where
  | auto
  | always
  | never
  deriving DecidableEq, Repr, Inhabited

/-- The choice, where it does not depend on the output. -/
def ColorChoice.fixed? : ColorChoice → Option Bool
  | .auto => none
  | .always => some true
  | .never => some false

/-- What a command line asks for. -/
structure Arguments where
  url : String
  config : Option String := none
  /-- How long to collect, in seconds, in place of what the settings say. -/
  duration : Option UInt64 := none
  skipScripts : Bool := false
  skipStylesheets : Bool := false
  reportAnonymous : Bool := false
  includeRaw : Bool := false
  format : OutputFormat := .summary
  color : ColorChoice := .auto
  log : LogOptions := {}
  deriving DecidableEq, Repr

namespace CommandLine

inductive Switch where
  | url
  | config
  | duration
  | skipScripts
  | skipStylesheets
  | reportAnonymous
  | includeRaw
  | format
  | verbose
  | quiet
  | logJson
  | color
  | help
  | version
  deriving DecidableEq, Repr

namespace Switch

def all : List Switch :=
  [url, config, duration, skipScripts, skipStylesheets, reportAnonymous, includeRaw, format, verbose, quiet,
    logJson, color, help, version]

/-- The long name of an option, behind two hyphens. -/
def long : Switch → String
  | url => "ws-url"
  | config => "config"
  | duration => "duration"
  | skipScripts => "no-js"
  | skipStylesheets => "no-css"
  | reportAnonymous => "report-anonymous"
  | includeRaw => "include-raw"
  | format => "format"
  | verbose => "verbose"
  | quiet => "quiet"
  | logJson => "log-json"
  | color => "color"
  | help => "help"
  | version => "version"

def short? : Switch → Option Char
  | config => some 'c'
  | duration => some 'd'
  | format => some 'f'
  | verbose => some 'v'
  | quiet => some 'q'
  | help => some 'h'
  | version => some 'V'
  | _ => none

def takesValue : Switch → Bool
  | url | config | duration | format | color => true
  | _ => false

def ofLong? (name : String) : Option Switch := all.find? fun s => s.long = name

def ofShort? (name : Char) : Option Switch := all.find? fun s => s.short? = some name

end Switch

/-- What is wrong with a command line. -/
inductive UsageError where
  | unknownArgument
  /-- An option that may be given once is given again. -/
  | repeated (s : Switch)
  /-- A value is missing, empty where it may not be, or none of those to choose from. -/
  | invalidValue (s : Switch)
  /-- A value that is no number. -/
  | notNumber (s : Switch)
  /-- A value for an option that has none. -/
  | unexpectedValue (s : Switch)
  | missing (s : Switch)
  deriving DecidableEq, Repr

/-- Why a command line asks for no collection. -/
inductive Refusal where
  | help
  | version
  | usage (e : UsageError)
  deriving DecidableEq, Repr

def Refusal.exitCode : Refusal → UInt8
  | .usage _ => 2
  | _ => 0

end CommandLine

end PageCoverage
