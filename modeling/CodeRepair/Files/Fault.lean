/-!
Why the system refuses something.
-/
namespace CodeRepair.Files

inductive Fault
  | notFound
  | unknownFormat
  | denied
  | present
  | notDirectory
  | isDirectory
  | notEmpty
  | nameTooLong
  /-- A name with a character that no name can hold. -/
  | nulInPath
  | nulInCommand
  | notText
  deriving DecidableEq, Repr, Inhabited

namespace Fault

/-- The text of a refusal without its number, which not every refusal has. -/
def text : Fault → String × Option Nat
  | notFound => ("No such file or directory", some 2)
  | unknownFormat => ("Exec format error", some 8)
  | denied => ("Permission denied", some 13)
  | present => ("File exists", some 17)
  | notDirectory => ("Not a directory", some 20)
  | isDirectory => ("Is a directory", some 21)
  | nameTooLong => ("File name too long", some 36)
  | notEmpty => ("Directory not empty", some 39)
  | nulInPath => ("file name contained an unexpected NUL byte", none)
  | nulInCommand => ("nul byte found in provided data", none)
  | notText => ("stream did not contain valid UTF-8", none)

def message (f : Fault) : String :=
  match f.text with
  | (text, some number) => text ++ " (os error " ++ toString number ++ ")"
  | (text, none) => text

end Fault

end CodeRepair.Files
