set_option relaxedAutoImplicit false
set_option autoImplicit false

/-!
# Errors of reading files

Why a file cannot be read, with the texts and numbers that the system has for it.

## Main definitions

* `Remap.CommandLine.ReadError` — a cause; `Remap.CommandLine.ReadError.text` — its text.
* `Remap.CommandLine.ReadError.ofNumber` — the cause that has a number of the system.
-/

namespace Remap.CommandLine

/-- Why a file cannot be read. -/
inductive ReadError where
  | notFound
  | permissionDenied
  | notADirectory
  | isADirectory
  | nameTooLong
  | tooManyLinks
  /-- The bytes of the file are no text. -/
  | notText
  /-- Another error of the system with its number. -/
  | other (number : Nat) (details : String)
  deriving DecidableEq, Repr

namespace ReadError

/-- The text of an error, with its number if the system gives it one. -/
def text : ReadError → String
  | .notFound => "No such file or directory (os error 2)"
  | .permissionDenied => "Permission denied (os error 13)"
  | .notADirectory => "Not a directory (os error 20)"
  | .isADirectory => "Is a directory (os error 21)"
  | .nameTooLong => "File name too long (os error 36)"
  | .tooManyLinks => "Too many levels of symbolic links (os error 40)"
  | .notText => "stream did not contain valid UTF-8"
  | .other number details => s!"{details} (os error {number})"

/-- The error with the given number of the system. -/
def ofNumber (number : Nat) (details : String) : ReadError :=
  match number with
  | 2 => .notFound
  | 13 => .permissionDenied
  | 20 => .notADirectory
  | 21 => .isADirectory
  | 36 => .nameTooLong
  | 40 => .tooManyLinks
  | _ => .other number details

end ReadError

end Remap.CommandLine
