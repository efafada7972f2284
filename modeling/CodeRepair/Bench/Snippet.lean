import CodeRepair.Bench.Arithmetic
import CodeRepair.Text.Search

/-!
The simplest programs of the interpreted language: they print texts and whole numbers, name values, and raise. This
stands in for an interpreter, which is no part of the program.
-/
namespace CodeRepair.Bench.Snippet

inductive Value
  | text (s : String)
  | number (n : Int)
  deriving DecidableEq, Repr

def Value.shown : Value → String
  | .text s => s
  | .number n => toString n

/-- How a program ends, with what it has printed. -/
structure Outcome where
  status : Nat
  stdout : String
  stderr : String
  deriving DecidableEq, Repr

def literal (mark : Char) : List Char → Option (List Char × List Char)
  | [] => none
  | '\\' :: 'n' :: cs => (literal mark cs).map fun (a, b) ↦ ('\n' :: a, b)
  | '\\' :: 't' :: cs => (literal mark cs).map fun (a, b) ↦ ('\t' :: a, b)
  | '\\' :: c :: cs => (literal mark cs).map fun (a, b) ↦ (c :: a, b)
  | c :: cs => if c = mark then some ([], cs) else (literal mark cs).map fun (a, b) ↦ (c :: a, b)

/-- The parts of a text between commas that stand in no literal and in no parentheses. -/
def arguments : Nat → Nat → List Char → List Char → List (List Char)
  | 0, _, done, _ => [done.reverse]
  | _, _, done, [] => [done.reverse]
  | n + 1, depth, done, c :: cs =>
    if c = ',' ∧ depth = 0 then done.reverse :: arguments n depth [] cs
    else if c = '\x27' ∨ c = '"' then
      match literal c cs with
      | some (_, rest) =>
        let used := cs.take (cs.length - rest.length)
        arguments n depth (used.reverse ++ c :: done) rest
      | none => arguments n depth (c :: done) cs
    else
      let depth := if c = '(' then depth + 1 else if c = ')' then depth - 1 else depth
      arguments n depth (c :: done) cs

def trim (cs : List Char) : List Char :=
  ((cs.dropWhile fun c ↦ c = ' ' ∨ c = '\t').reverse.dropWhile fun c ↦ c = ' ' ∨ c = '\t' ∨ c = '\r').reverse

def value? (names : List (String × Value)) (cs : List Char) : Option Value :=
  let cs := trim cs
  match cs with
  | [] => none
  | c :: rest =>
    if c = '\x27' ∨ c = '"' then
      match literal c rest with
      | some (inner, []) => some (.text (String.ofList inner))
      | _ => none
    else
      match names.find? (·.1 = String.ofList cs) with
      | some (_, v) => some v
      | none =>
        let lookup (x : String) : Option String :=
          match names.find? (·.1 = x) with
          | some (_, .number n) => some (toString n)
          | _ => none
        let known := cs.all fun c ↦ c.isDigit || " +-*%()".toList.contains c || inNames c
        if known then ((Arithmetic.evaluate (String.ofList cs) lookup).toOption).map fun r ↦ .number r.1 else none
where
  inNames (c : Char) : Bool := c.isAlphanum && names.any fun (x, _) ↦ x.contains c

def call? (name : String) (cs : List Char) : Option (List Char) :=
  match Text.dropPattern? (name ++ "(").toList cs with
  | some rest => if rest.getLast? = some ')' then some rest.dropLast else none
  | none => none

def traceback (path : String) (line : Nat) (source : List Char) (error : String) : String :=
  "Traceback (most recent call last):\n  File \"" ++ path ++ "\", line " ++ toString line ++ ", in <module>\n    " ++
    String.ofList source ++ "\n" ++ error ++ "\n"

/-- The statements of a program, one by one. -/
def go (path : String) (names : List (String × Value)) (out : String) : Nat → List (List Char) → Outcome
  | _, [] => ⟨0, out, ""⟩
  | line, source :: rest =>
    let s := trim source
    let fail (error : String) : Outcome := ⟨1, out, traceback path line s error⟩
    if s.isEmpty ∨ s.head? = some '#' ∨ s = "pass".toList then go path names out (line + 1) rest
    else
      match call? "print" s, call? "raise SystemExit" s, Text.dropPattern? "raise ".toList s with
      | some args, _, _ =>
        let parts := if (trim args).isEmpty then [] else arguments (args.length + 1) 0 [] args
        match parts.mapM (value? names) with
        | some vs => go path names (out ++ " ".intercalate (vs.map Value.shown) ++ "\n") (line + 1) rest
        | none => fail "NameError: name is not defined"
      | none, some arg, _ =>
        match value? names arg with
        | some (.number n) => ⟨(n % 256).toNat, out, ""⟩
        | some (.text t) => ⟨1, out, t ++ "\n"⟩
        | none => ⟨0, out, ""⟩
      | none, none, some error =>
        let kind := error.takeWhile Char.isAlphanum
        match (call? (String.ofList kind) error).bind (value? names) with
        | some v => fail (String.ofList kind ++ ": " ++ v.shown)
        | none => fail (String.ofList kind)
      | none, none, none =>
        let name := trim (s.takeWhile (· ≠ '='))
        match s.dropWhile (· ≠ '='), value? names ((s.dropWhile (· ≠ '=')).drop 1) with
        | _ :: _, some v => go path ((String.ofList name, v) :: names) out (line + 1) rest
        | _, _ =>
          ⟨1, out, "  File \"" ++ path ++ "\", line " ++ toString line ++ "\n    " ++ String.ofList s ++
            "\n    ^\nSyntaxError: invalid syntax\n"⟩

def run (path source : String) : Outcome := go path [] "" 1 (Text.splitAt (· = '\n') source.toList)

end CodeRepair.Bench.Snippet
