import PageCoverage.Program
import PageCoverage.Run

namespace PageCoverage

/-- What the system's error number says about a file. -/
def FileError.ofCode (code : UInt32) (details : String) : FileError :=
  match code.toNat with
  | 2 => .notFound
  | 20 => .notDirectory
  | 21 => .isDirectory
  | 36 => .nameTooLong
  | n => .other (details ++ " (os error " ++ toString n ++ ")")

/-- Why the system did not read a file. -/
def FileError.ofSystem : IO.Error → FileError
  | .noFileOrDirectory _ code details | .inappropriateType _ code details
  | .invalidArgument _ code details | .permissionDenied _ code details
  | .resourceExhausted _ code details => .ofCode code details
  | e => .other (toString e)

def readTextFile (path : String) : IO (Except FileError String) := do
  if path.contains '\x00' then return .error .nullInName
  try
    let bytes ← IO.FS.readBinFile path
    match String.fromUTF8? bytes with
    | some text => return .ok text
    | none => return .error .notText
  catch e => return .error (.ofSystem e)

/-- There are no sockets, so that no target can be reached. -/
def connectTo (url : String) : IO (Except CoverageError (List Happening)) :=
  return .error (.connectionFailed (url ++ ": no sockets available"))

def processSurroundings (out err : IO.FS.Stream) (url : Option String) (colored : Bool) : Surroundings IO where
  url := url
  fileText := readTextFile
  collect := Run.against connectTo
  colored := colored
  writeOut := out.putStr
  writeError := err.putStr

end PageCoverage

def main (args : List String) : IO UInt32 := do
  let out ← IO.getStdout
  let err ← IO.getStderr
  let url ← IO.getEnv "PROBAR_COVERAGE_WS_URL"
  let w := PageCoverage.processSurroundings out err url (← out.isTty)
  return (← PageCoverage.Program.run w args).toUInt32
