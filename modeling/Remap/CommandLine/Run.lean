import Remap.CommandLine.Options
import Remap.CommandLine.ReadError
import Remap.Json.Reader
import Remap.Registry.Configuration

set_option relaxedAutoImplicit false
set_option autoImplicit false

/-!
# Running a command line

A run loads the templates, then either lists them or evaluates one of them on a context. How files
and the standard input are read is left open, so that a run is a plain function wherever reading is
one.

## Main definitions

* `Remap.CommandLine.Failure`, `Remap.CommandLine.Failure.report` — why a run fails, and its report.
* `Remap.CommandLine.Outcome` — exit code, standard output and standard error.
* `Remap.CommandLine.run` — the outcome of a list of arguments.
-/

namespace Remap.CommandLine

/-- Why a run fails. -/
structure Failure where
  /-- The error and its causes, from the outermost to the innermost. -/
  texts : List String
  /-- Whether the innermost text has a cause of its own that is not reported. -/
  hasHiddenCause : Bool

/-- A text with every line after the first indented. -/
def indentLines (indentation : String) (text : String) : String :=
  String.join (text.toList.map fun c => if c = '\n' then "\n" ++ indentation else c.toString)

/-- A cause with its number. -/
def numberedCause (number : Nat) (text : String) : String :=
  let digits := toString number
  String.ofList (List.replicate (5 - digits.length) ' ') ++ digits ++ ": " ++
    indentLines "       " text

/-- The report of a failure: the error, and below it its causes, numbered if there are several. A
report whose last cause is hidden ends where that cause would follow. -/
def Failure.report (f : Failure) : String :=
  match f.texts with
  | [] => ""
  | error :: causes =>
    let causeLines := match causes, f.hasHiddenCause with
      | [cause], false => ["    " ++ indentLines "    " cause]
      | _, _ => causes.mapIdx numberedCause
    let heading := if causes.isEmpty then "" else "\n\nCaused by:\n"
    "Error: " ++ error ++ heading ++ "\n".intercalate causeLines ++
      (if f.hasHiddenCause then "" else "\n")

/-- What a run leaves behind. -/
structure Outcome where
  code : Nat
  stdout : String
  stderr : String
  deriving DecidableEq, Repr

namespace Outcome

/-- A run that succeeds with some output. -/
def success (output : String) : Outcome :=
  ⟨0, output, ""⟩

/-- A command line that is not understood. -/
def usageError : Outcome :=
  ⟨2, "", ""⟩

/-- A run that fails with a report. -/
def failure (f : Failure) : Outcome :=
  ⟨1, "", f.report⟩

end Outcome

/-- The name and the description of a template on a line. -/
def listing (entry : Registry.Entry) : String :=
  match entry.description with
  | some description => entry.name ++ " - " ++ description ++ "\n"
  | none => entry.name ++ "\n"

/-- The registry of the text of a file. -/
def loadRegistry (path : String) (text : Except ReadError String) : Except Failure Registry :=
  match text with
  | .error reason => .error ⟨[s!"Could not read file {path}", reason.text], false⟩
  | .ok yaml =>
    match Registry.ofYaml yaml with
    | .ok registry => .ok registry
    | .error .invalidConfiguration =>
      .error ⟨s!"Failed to load {path}" :: RegistryError.invalidConfiguration.messages, true⟩
    | .error error => .error ⟨s!"Failed to load {path}" :: error.messages, false⟩

/-- The context of a text that was read from the named place. -/
def loadContext (origin : String) (text : Except ReadError String) : Except Failure Json :=
  match text with
  | .error reason => .error ⟨[s!"Could not read context {origin}", reason.text], false⟩
  | .ok text =>
    match Json.read? text with
    | some context => .ok context
    | none => .error ⟨["Context is not valid JSON"], true⟩

section

variable {m : Type → Type} [Monad m]

/-- Reads the context of the options. -/
def readContext (readFile : String → m (Except ReadError String))
    (readInput : m (Except ReadError String)) (options : Options) : m (Except Failure Json) := do
  match options.context with
  | some path => return loadContext s!"file {path}" (← readFile path)
  | none => return loadContext "from stdin" (← readInput)

/-- Runs with options: the templates are loaded first, and the context is read last. -/
def runOptions (readFile : String → m (Except ReadError String))
    (readInput : m (Except ReadError String)) (options : Options) : m Outcome := do
  let path := options.templates.getD defaultTemplates
  match loadRegistry path (← readFile path) with
  | .error failure => return .failure failure
  | .ok registry =>
    if options.check then
      return .success (String.join (registry.entries.map listing))
    else
      match options.name with
      | none => return .failure ⟨["--name is required unless --check is given"], false⟩
      | some name =>
        match registry.template? name with
        | none => return .failure ⟨[s!"Unknown template: {name}"], false⟩
        | some template =>
          match ← readContext readFile readInput options with
          | .error failure => return .failure failure
          | .ok context => return .success ((template.evaluate context).pretty ++ "\n")

/-- The outcome of a list of arguments. A file that cannot be read is reported with the given
reason. -/
def run (readFile : String → m (Except ReadError String)) (readInput : m (Except ReadError String))
    (arguments : List String) : m Outcome :=
  match parse arguments with
  | none => return .usageError
  | some .help => return .success helpText
  | some (.run options) => runOptions readFile readInput options

end

end Remap.CommandLine
