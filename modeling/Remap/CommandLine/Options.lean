set_option relaxedAutoImplicit false
set_option autoImplicit false

/-!
# Options of the command line

The value of an option is the next argument or is attached to the option, with or without an equals
sign after a short option. A value that is an argument of its own does not start with a hyphen, the
lone hyphen apart. No option is given twice, and there are no other arguments.

## Main definitions

* `Remap.CommandLine.Options` — what a command line asks for.
* `Remap.CommandLine.Command` — a run with options, or the help text.
* `Remap.CommandLine.parse` — the command of a list of arguments.
-/

namespace Remap.CommandLine

/-- The options that take a value. -/
inductive ValueOption where
  | templates
  | name
  | context
  deriving DecidableEq, Repr

/-- What a command line asks for. -/
structure Options where
  templates : Option String
  name : Option String
  context : Option String
  check : Bool
  deriving DecidableEq, Repr

/-- No options at all. -/
def Options.none : Options :=
  ⟨Option.none, Option.none, Option.none, false⟩

/-- The file of templates where none is given. -/
def defaultTemplates : String :=
  "templates.yml"

/-- A run with options, or the help text. -/
inductive Command where
  | run (options : Options)
  | help
  deriving DecidableEq, Repr

/-- The value of an option. -/
def Options.get (o : Options) : ValueOption → Option String
  | .templates => o.templates
  | .name => o.name
  | .context => o.context

/-- Sets the value of an option that has none yet. -/
def Options.set? (o : Options) (option : ValueOption) (value : String) : Option Options :=
  if (o.get option).isSome then Option.none
  else
    match option with
    | .templates => some { o with templates := some value }
    | .name => some { o with name := some value }
    | .context => some { o with context := some value }

/-- Sets the flag if it is not set yet. -/
def Options.setCheck? (o : Options) : Option Options :=
  if o.check then Option.none else some { o with check := true }

/-- What one argument says. -/
inductive Argument where
  /-- The end of the options. -/
  | terminator
  | help
  | check
  /-- An option with its value, or with the value to come. -/
  | value (option : ValueOption) (attached : Option String)
  /-- No option: a value if one is awaited. -/
  | operand (text : String)
  | unknown
  deriving DecidableEq, Repr

/-- The argument of a long option after its two hyphens. -/
def longArgument (s : List Char) : Argument :=
  let name := String.ofList (s.takeWhile (· ≠ '='))
  let attached := match s.dropWhile (· ≠ '=') with
    | _ :: value => some (String.ofList value)
    | [] => none
  if name = "templates" then .value .templates attached
  else if name = "name" then .value .name attached
  else if name = "context" then .value .context attached
  else if attached.isSome then .unknown
  else if name = "check" then .check
  else if name = "help" then .help
  else .unknown

/-- The argument of a short option after its hyphen. -/
def shortArgument (option : Char) (rest : List Char) : Argument :=
  let attached := match rest with
    | [] => none
    | '=' :: value => some (String.ofList value)
    | value => some (String.ofList value)
  if option = 't' then .value .templates attached
  else if option = 'n' then .value .name attached
  else if option = 'c' then .value .context attached
  else if option = 'h' then .help
  else .unknown

/-- What an argument says. -/
def Argument.ofString (s : String) : Argument :=
  match s.toList with
  | ['-', '-'] => .terminator
  | '-' :: '-' :: rest => longArgument rest
  | ['-'] => .operand s
  | '-' :: option :: rest => shortArgument option rest
  | _ => .operand s

/-- Reads arguments from left to right after the given options; `none` at the first that cannot
stand where it does. Help is given at once. -/
def parseFrom (options : Options) : List String → Option Command
  | [] => some (.run options)
  | argument :: rest =>
    match Argument.ofString argument with
    | .help => some .help
    | .check => (options.setCheck?).bind (parseFrom · rest)
    | .value option (some value) => (options.set? option value).bind (parseFrom · rest)
    | .value option none =>
      match rest with
      | [] => none
      | next :: rest =>
        match Argument.ofString next with
        | .operand value => (options.set? option value).bind (parseFrom · rest)
        | _ => none
    | .terminator => if rest.isEmpty then some (.run options) else none
    | .operand _ => none
    | .unknown => none

/-- The command of a list of arguments; `none` if they are not understood. -/
def parse (arguments : List String) : Option Command :=
  parseFrom Options.none arguments

/-- The help text. -/
def helpText : String :=
  "Remap a request through a compiled request template\n\n" ++
  "Usage: reqtemplate [OPTIONS]\n\n" ++
  "Options:\n" ++
  "  -t, --templates <TEMPLATES>  Path to a YAML file containing request templates " ++
  "[default: templates.yml]\n" ++
  "  -n, --name <NAME>            Template to evaluate\n" ++
  "  -c, --context <CONTEXT>      JSON file holding the request context " ++
  "(defaults to stdin)\n" ++
  "      --check                  Only compile the templates and list them\n" ++
  "  -h, --help                   Print help\n"

end Remap.CommandLine
