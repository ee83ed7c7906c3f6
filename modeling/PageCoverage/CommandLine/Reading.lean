import PageCoverage.CommandLine.Basic

namespace PageCoverage.CommandLine

/--
What the arguments so far have given. An option with a value takes it from its own argument or from the
next one; whatever is left to do for it is done when the next option begins, or at the end.
-/
structure Given where
  url : Option String := none
  config : Option String := none
  duration : Option UInt64 := none
  format : Option OutputFormat := none
  color : Option ColorChoice := none
  verbose : UInt8 := 0
  flags : List Switch := []
  deriving Inhabited

/-- The word that a decimal number denotes; a plus sign may stand in front. -/
def word64? (text : String) : Option UInt64 :=
  let digits := match text.toList with
    | '+' :: ds => ds
    | ds => ds
  if digits ≠ [] ∧ digits.all Char.isDigit then
    let n := digits.foldl (fun n d => 10 * n + (d.toNat - '0'.toNat)) 0
    if n ≤ 0xFFFFFFFFFFFFFFFF then some (UInt64.ofNat n) else none
  else none

def format? : String → Option OutputFormat
  | "summary" => some .summary
  | "json" => some .json
  | _ => none

def color? : String → Option ColorChoice
  | "auto" => some .auto
  | "always" => some .always
  | "never" => some .never
  | _ => none

namespace Given

/-- Put a value where none has been put before. -/
def once {α : Type} (s : Switch) (slot : Option α) (value : Except UsageError α) : Except Refusal α :=
  if slot.isSome then .error (.usage (.repeated s)) else value.mapError .usage

def setValue (g : Given) (s : Switch) (text : String) : Except Refusal Given :=
  match s with
  | .url => (once s g.url (.ok text)).map fun x => { g with url := some x }
  | .config =>
    (once s g.config (if text.isEmpty then .error (.invalidValue s) else .ok text)).map fun x =>
      { g with config := some x }
  | .duration =>
    (once s g.duration ((word64? text).elim (.error (.notNumber s)) .ok)).map fun x =>
      { g with duration := some x }
  | .format =>
    (once s g.format ((format? text).elim (.error (.invalidValue s)) .ok)).map fun x =>
      { g with format := some x }
  | .color =>
    (once s g.color ((color? text).elim (.error (.invalidValue s)) .ok)).map fun x =>
      { g with color := some x }
  | s => .error (.usage (.unexpectedValue s))

/-- Give an option without a value. Verbosity is counted up to the largest word. -/
def setFlag (g : Given) (s : Switch) : Except Refusal Given :=
  match s with
  | .help => .error .help
  | .version => .error .version
  | .verbose => .ok { g with verbose := if g.verbose = 255 then 255 else g.verbose + 1 }
  | s => if s ∈ g.flags then .error (.usage (.repeated s)) else .ok { g with flags := s :: g.flags }

/-- The arguments as a whole. The URL of the environment stands in for one that is not given. -/
def toArguments (g : Given) (environment : Option String) : Except Refusal Arguments :=
  match g.url <|> environment with
  | none => .error (.usage (.missing .url))
  | some url =>
    .ok
      { url := url
        config := g.config
        duration := g.duration
        skipScripts := g.flags.contains .skipScripts
        skipStylesheets := g.flags.contains .skipStylesheets
        reportAnonymous := g.flags.contains .reportAnonymous
        includeRaw := g.flags.contains .includeRaw
        format := g.format.getD .summary
        color := g.color.getD .auto
        log := { verbose := g.verbose, quiet := g.flags.contains .quiet, json := g.flags.contains .logJson } }

end Given

/-- An option that stands in an argument of its own, with its value once that has come. -/
structure Pending where
  switch : Switch
  value : Option String := none

/-- How far the arguments have been read. -/
structure Reading where
  given : Given := {}
  pending : Option Pending := none

namespace Reading

def settle (r : Reading) : Except Refusal Given :=
  match r.pending with
  | none => .ok r.given
  | some ⟨s, none⟩ => .error (.usage (.invalidValue s))
  | some ⟨s, some value⟩ => r.given.setValue s value

/-- Read an option that has no value. -/
def flag (r : Reading) (s : Switch) : Except Refusal Reading := do
  let g ← r.settle
  return { given := ← g.setFlag s }

/-- Read an option that has a value, which may stand in the same argument. -/
def option (r : Reading) (s : Switch) (value : Option String) : Except Refusal Reading := do
  let g ← r.settle
  match value with
  | some v => return { given := ← g.setValue s v }
  | none => return { given := g, pending := some ⟨s, none⟩ }

/-- Read what stands behind two hyphens. -/
def long (r : Reading) (body : List Char) : Except Refusal Reading :=
  let name := body.takeWhile (· != '=')
  let value := match body.drop name.length with
    | _ :: v => some (String.ofList v)
    | [] => none
  match Switch.ofLong? (String.ofList name) with
  | none => .error (.usage .unknownArgument)
  | some s =>
    if s.takesValue then r.option s value
    else if value.isSome then .error (.usage (.unexpectedValue s))
    else r.flag s

/-- Read what stands behind one hyphen: flags, the last of which may be an option with the rest as its
value. -/
def short (r : Reading) : List Char → Except Refusal Reading
  | [] => .ok r
  | c :: rest =>
    match Switch.ofShort? c with
    | none => .error (.usage .unknownArgument)
    | some s =>
      if s.takesValue then
        r.option s <| match rest with
          | [] => none
          | '=' :: v => some (String.ofList v)
          | v => some (String.ofList v)
      else do (← r.flag s).short rest

/-- Read what does not begin with a hyphen, or is one: the value of the option before, or nothing known. -/
def value (r : Reading) (text : String) : Except Refusal Reading :=
  match r.pending with
  | some ⟨s, none⟩ => .ok { r with pending := some ⟨s, some text⟩ }
  | _ => .error (.usage .unknownArgument)

/-- Read arguments in order. Behind two hyphens alone nothing may follow. -/
def run (r : Reading) : List String → Except Refusal Given
  | [] => r.settle
  | a :: rest =>
    match a.toList with
    | ['-', '-'] => if rest.isEmpty then r.settle else .error (.usage .unknownArgument)
    | '-' :: '-' :: body => do (← r.long body).run rest
    | ['-'] => do (← r.value a).run rest
    | '-' :: body => do (← r.short body).run rest
    | _ => do (← r.value a).run rest

end Reading

/-- What arguments ask for, given the URL in the environment. -/
def read (args : List String) (environment : Option String) : Except Refusal Arguments := do
  let g ← ({} : Reading).run args
  g.toArguments environment

end PageCoverage.CommandLine
