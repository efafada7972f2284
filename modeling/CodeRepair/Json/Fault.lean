import CodeRepair.Json.Basic
import CodeRepair.Text.Quoted

/-!
What can be wrong with a JSON text, and where. Places are counted in lines and in bytes since the last line
feed.
-/
namespace CodeRepair.Json

/-- A line, from 1, and the bytes read on it. -/
structure Position where
  line : Nat
  column : Nat
  deriving DecidableEq, Repr, Inhabited

inductive Found
  | null
  | bool (b : Bool)
  | whole (n : Int)
  | real (x : Float)
  | string (s : String)
  | sequence
  | map

def backQuoted (s : String) : String := "`" ++ s ++ "`"

/-- Found things are named with their value. -/
def Found.describe : Found → String
  | .null => "null"
  | .bool b => "boolean " ++ backQuoted (if b then "true" else "false")
  | .whole n => "integer " ++ backQuoted (toString n)
  | .real x => "floating point " ++ backQuoted (Number.formatFloat .message x)
  | .string s => "string " ++ Text.quoted s
  | .sequence => "sequence"
  | .map => "map"

inductive Mismatch
  | wrongType (found : Found) (expected : String)
  | wrongValue (found : Found) (expected : String)
  | wrongLength (length : Nat) (expected : String)
  | unknownVariant (variant : String) (options : List String)
  | missingField (name : String)
  | duplicateField (name : String)
  | custom (message : String)

def describeOptions (options : List String) : String :=
  match options.map backQuoted with
  | [] => "there are no variants"
  | [a] => "expected " ++ a
  | [a, b] => "expected " ++ a ++ " or " ++ b
  | all => "expected one of " ++ ", ".intercalate all

def Mismatch.message : Mismatch → String
  | .wrongType found expected => "invalid type: " ++ found.describe ++ ", expected " ++ expected
  | .wrongValue found expected => "invalid value: " ++ found.describe ++ ", expected " ++ expected
  | .wrongLength length expected => "invalid length " ++ toString length ++ ", expected " ++ expected
  | .unknownVariant variant options =>
    "unknown variant " ++ backQuoted variant ++ ", " ++ describeOptions options
  | .missingField name => "missing field " ++ backQuoted name
  | .duplicateField name => "duplicate field " ++ backQuoted name
  | .custom message => message

inductive Cause
  | endInValue
  | endInObject
  | endInArray
  | endInString
  | noValue
  | badWord
  | noColon
  | noCommaOrBrace
  | noCommaOrBracket
  | keyNotString
  | trailingComma
  | trailingCharacters
  | badNumber
  | numberTooLarge
  | badEscape
  | loneSurrogate
  | unpairedSurrogate
  | controlCharacter
  | tooDeep
  | mismatch (m : Mismatch)

def Cause.message : Cause → String
  | .endInValue => "EOF while parsing a value"
  | .endInObject => "EOF while parsing an object"
  | .endInArray => "EOF while parsing a list"
  | .endInString => "EOF while parsing a string"
  | .noValue => "expected value"
  | .badWord => "expected ident"
  | .noColon => "expected `:`"
  | .noCommaOrBrace => "expected `,` or `\x7d`"
  | .noCommaOrBracket => "expected `,` or `]`"
  | .keyNotString => "key must be a string"
  | .trailingComma => "trailing comma"
  | .trailingCharacters => "trailing characters"
  | .badNumber => "invalid number"
  | .numberTooLarge => "number out of range"
  | .badEscape => "invalid escape"
  | .loneSurrogate => "lone leading surrogate in hex escape"
  | .unpairedSurrogate => "unexpected end of hex escape"
  | .controlCharacter => "control character (\\u0000-\\u001F) found while parsing a string"
  | .tooDeep => "recursion limit exceeded"
  | .mismatch m => m.message

/-- Whether the text was well formed as far as it was read, so that only its meaning is at fault. -/
def Cause.isMismatch : Cause → Bool
  | .mismatch _ => true
  | _ => false

inductive Step
  | field (name : String)
  | item (index : Nat)

structure Fault where
  cause : Cause
  position : Option Position
  path : List Step

namespace Fault

def inside (step : Step) (fault : Fault) : Fault := { fault with path := step :: fault.path }

def message (fault : Fault) : String :=
  match fault.position with
  | some p => fault.cause.message ++ " at line " ++ toString p.line ++ " column " ++ toString p.column
  | none => fault.cause.message

/-- The way to the part at fault, as in `a.b[0]`; empty for the whole. -/
def pathText (fault : Fault) : String :=
  fault.path.foldl
    (fun text step ↦
      match step with
      | .field name => if text.isEmpty then name else text ++ "." ++ name
      | .item index => text ++ "[" ++ toString index ++ "]")
    ""

end Fault

end CodeRepair.Json
