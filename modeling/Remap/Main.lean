import Remap.CommandLine.Run

set_option relaxedAutoImplicit false
set_option autoImplicit false

/-!
# The program

Connects a run of the command line with the files and streams of the process.
-/

namespace Remap.CommandLine

/-- The number and the details of an error of the system; `none` for an error that has none. -/
def systemError? : IO.Error → Option (UInt32 × String)
  | .alreadyExists _ number details => some (number, details)
  | .otherError number details => some (number, details)
  | .resourceBusy number details => some (number, details)
  | .resourceVanished number details => some (number, details)
  | .unsupportedOperation number details => some (number, details)
  | .hardwareFault number details => some (number, details)
  | .unsatisfiedConstraints number details => some (number, details)
  | .illegalOperation number details => some (number, details)
  | .protocolError number details => some (number, details)
  | .timeExpired number details => some (number, details)
  | .interrupted _ number details => some (number, details)
  | .noFileOrDirectory _ number details => some (number, details)
  | .invalidArgument _ number details => some (number, details)
  | .permissionDenied _ number details => some (number, details)
  | .resourceExhausted _ number details => some (number, details)
  | .inappropriateType _ number details => some (number, details)
  | .noSuchThing _ number details => some (number, details)
  | .unexpectedEof => none
  | .userError _ => none

/-- Why reading failed. The number of an error may come negated, as a word of 32 bits. -/
def ReadError.ofError (error : IO.Error) : ReadError :=
  match systemError? error with
  | none => .notText
  | some (number, details) =>
    let number := number.toNat
    .ofNumber (if number < UInt32.size / 2 then number else UInt32.size - number) details

/-- Reads a whole file. -/
def readTextFile (path : String) : IO (Except ReadError String) := do
  try
    return .ok (← IO.FS.readFile path)
  catch error =>
    return .error (ReadError.ofError error)

/-- Reads the standard input to its end. -/
def readStandardInput : IO (Except ReadError String) := do
  try
    return .ok (← (← IO.getStdin).readToEnd)
  catch error =>
    return .error (ReadError.ofError error)

end Remap.CommandLine

/-- Runs the command line. -/
def main (arguments : List String) : IO UInt32 := do
  let outcome ← Remap.CommandLine.run Remap.CommandLine.readTextFile
    Remap.CommandLine.readStandardInput arguments
  IO.print outcome.stdout
  IO.eprint outcome.stderr
  return UInt32.ofNat outcome.code
