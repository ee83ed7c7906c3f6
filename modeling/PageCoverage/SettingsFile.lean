import PageCoverage.Schema.Decode
import PageCoverage.Settings
import PageCoverage.Yaml.Document
import PageCoverage.Yaml.Layout
import PageCoverage.Yaml.Reading

namespace PageCoverage

/-- Why a file cannot be read as text. -/
inductive FileError where
  | notFound
  /-- A part of the path that something should be inside of is a file. -/
  | notDirectory
  | isDirectory
  | nameTooLong
  /-- The path contains a null character. -/
  | nullInName
  | notText
  | other (message : String)
  deriving DecidableEq, Repr

def FileError.message : FileError → String
  | notFound => "No such file or directory (os error 2)"
  | notDirectory => "Not a directory (os error 20)"
  | isDirectory => "Is a directory (os error 21)"
  | nameTooLong => "File name too long (os error 36)"
  | nullInName => "file name contained an unexpected NUL byte"
  | notText => "stream did not contain valid UTF-8"
  | other message => message

namespace Settings

/-- The settings that the root of a document denotes; members that are left out keep their defaults. -/
def ofNode? (root : Yaml.Node) : Option Settings := do
  let v ← (Coded.schema Settings).ofNode? root.anchored root
  (decode Settings v).toOption

/-- The settings that a YAML text denotes, before validation. A text without a document means the defaults. -/
def parse? (text : String) : Option Settings := do
  let ts ← Yaml.tokens? text
  match ← Yaml.document? ts with
  | none => some {}
  | some root => ofNode? root

/-- The valid settings that a YAML text denotes. -/
def ofYaml (text : String) : Except CoverageError Settings :=
  match parse? text with
  | none => .error (.yaml "not a settings document")
  | some s => s.validate.map fun _ => s

/-- The valid settings in a file, given what reading it gave. -/
def load (path : String) (content : Except FileError String) : Except CoverageError Settings :=
  match content with
  | .error e => .error (.config ("cannot read " ++ path ++ ": " ++ e.message))
  | .ok text => ofYaml text

end Settings

end PageCoverage
