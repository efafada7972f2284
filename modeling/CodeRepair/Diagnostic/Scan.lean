import CodeRepair.Diagnostic.Basic
import CodeRepair.Language
import CodeRepair.Text.Digit

/-!
Finding diagnostics in what interpreters and compilers write. A Python traceback gives one, from the frame
reported last and the exception reported last; a compiler gives one for each line `file:line:column: kind: message`.
-/
namespace CodeRepair.Diagnostic

open Text

/-- The line number of a frame that starts here: `File "…", line N`, where `…` holds no quote. -/
def frameHere? (cs : List Char) : Option (List Char) := do
  let rest ← dropPattern? "File \"".toList cs
  let rest ← dropPattern? "\", line ".toList (rest.dropWhile (· ≠ '"'))
  let digits := rest.takeWhile isDecimalDigit
  if digits.isEmpty then none else some digits

def frame? : List Char → Option (List Char)
  | [] => none
  | c :: cs => frameHere? (c :: cs) <|> frame? cs

def isNameChar (c : Char) : Bool := c.isAlphanum || c = '_' || c = '.'

def exceptionEndings : List String := ["Error", "Exception", "Warning", "Interrupt", "Exit"]

/-- Whether a name ends like an exception and has something before that ending. -/
def isExceptionName (name : List Char) : Bool :=
  exceptionEndings.any fun ending ↦
    ending.length < name.length && name.drop (name.length - ending.length) = ending.toList

/-- The message of a line that is an exception: its name, and its detail when it has one. -/
def exception? (cs : List Char) : Option String :=
  let name := cs.takeWhile isNameChar
  let starts :=
    match name with
    | c :: _ => c.isAlpha || c = '_'
    | [] => false
  if starts && isExceptionName name then
    match cs.dropWhile isNameChar with
    | [] => some (String.ofList name)
    | ':' :: rest =>
      let detail := trimStart rest
      some (String.ofList (if detail.isEmpty then name else name ++ ':' :: ' ' :: detail))
    -- Something other than a colon follows: a sentence that begins with such a name.
    | _ => none
  else none

/-- What a traceback says so far: the line of the last frame, if it can be one, and the last exception. -/
structure Traceback where
  line : Option Nat
  message : Option String
  deriving DecidableEq, Repr

def Traceback.step (t : Traceback) (cs : List Char) : Traceback :=
  match frame? cs with
  -- A frame whose number is too large takes the line of an earlier one away.
  | some digits => { t with line := place? digits }
  | none =>
    match exception? (trim cs) with
    | some message => { t with message := some message }
    | none => t

def ofTraceback (text : List Char) : List Diagnostic :=
  match (lines text).foldl Traceback.step ⟨none, none⟩ with
  | ⟨some line, some message⟩ => if 0 < line then [⟨line, none, .error, message⟩] else []
  | _ => []

def digitsAndColon? (cs : List Char) : Option (List Char × List Char) :=
  let digits := cs.takeWhile isDecimalDigit
  match digits, cs.dropWhile isDecimalDigit with
  | _ :: _, ':' :: rest => some (digits, rest)
  | _, _ => none

def messageKinds : List (String × Severity) :=
  [("fatal error", .error), ("error", .error), ("warning", .warning)]

def kindAndColon? (cs : List Char) : Option (Severity × List Char) :=
  messageKinds.findSome? fun (kind, severity) ↦
    match dropPattern? kind.toList cs with
    | some (':' :: rest) => some (severity, rest)
    | _ => none

def ofCompilerLine? (cs : List Char) : Option Diagnostic := do
  let cs := trimEnd cs
  -- The file ends at the first colon, so one with a colon in its name is not read.
  let file := cs.takeWhile (· ≠ ':')
  if file.isEmpty then none
  match cs.dropWhile (· ≠ ':') with
  | [] => none
  | _ :: rest =>
    let (line, rest) ← digitsAndColon? rest
    let (column, rest) ← digitsAndColon? rest
    let (severity, rest) ← kindAndColon? (trimStart rest)
    let message := trim rest
    if message.isEmpty then none
    -- Line zero is no place; a column that is too large is just left out.
    let line ← (place? line).filter (0 < ·)
    return ⟨line, place? column, severity, String.ofList message⟩

def ofCompiler (text : List Char) : List Diagnostic := (lines text).filterMap ofCompilerLine?

/-- The diagnostics in the error output of a program or compiler. -/
def scan (language : Language) (text : String) : List Diagnostic :=
  if blank text then []
  else
    match language with
    | .python => ofTraceback text.toList
    | .cpp => ofCompiler text.toList

end CodeRepair.Diagnostic
