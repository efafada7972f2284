import CodeRepair.Schema.HasShape
import CodeRepair.Text.LowerCase

/-!
A blocklist of terms that code must not contain, whatever their case. It is a filter on the text and no
isolation: what can be written in another way passes.
-/
namespace CodeRepair

/-- The terms that every gate blocks, in the order in which they are looked for. -/
def builtInTerms : List String :=
  ["import os", "import sys", "import subprocess", "from os", "from sys", "from subprocess", "eval(", "exec(",
   "open(", "__import__", "os.system", "subprocess.", "shutil.", "#include <filesystem>", "#include <cstdlib>",
   "system(", "popen(", "fork("]

structure SafetyVerdict where
  safe : Bool
  reason : Option String
  matched : Option String
  deriving DecidableEq, Repr, Inhabited

namespace SafetyVerdict

def pass : SafetyVerdict := ⟨true, none, none⟩

def blocked (term : String) : SafetyVerdict := ⟨false, some ("Blocked keyword detected: " ++ term), some term⟩

open Schema in
instance : HasShape SafetyVerdict where
  shape := .record "SafetyVerdict" <|
    .cons "safe" .required .bool <|
    .cons "reason" .required (.optional .text) <|
    .cons "matched" .required (.optional .text) .nil
  toDatum v := .record [toDatum v.safe, toDatum v.reason, toDatum v.matched]
  ofDatum?
    | .record [safe, reason, matched] => do return ⟨← ofDatum? safe, ← ofDatum? reason, ← ofDatum? matched⟩
    | _ => none

end SafetyVerdict

structure SafetyGate where
  terms : List String
  deriving DecidableEq, Repr, Inhabited

namespace SafetyGate

def builtIn : SafetyGate := ⟨builtInTerms⟩

/-- The gate with one more term, which counts in lower case and without blanks around it, unless it is blank or
known. -/
def addTerm (gate : SafetyGate) (term : String) : SafetyGate :=
  let term := Text.lowerCase (Text.trimmed term)
  if term = "" ∨ term ∈ gate.terms then gate else ⟨gate.terms ++ [term]⟩

def withExtraTerms (extra : List String) : SafetyGate := extra.foldl addTerm builtIn

/-- The verdict on a text: its lower case is searched for each term in order. -/
def check (gate : SafetyGate) (code : String) : SafetyVerdict :=
  let lowered := (Text.lowerCase code).toList
  -- The terms are in lower case already: they are lowered when they are added.
  match gate.terms.find? fun term ↦ Text.occurs term.toList lowered with
  | some term => .blocked term
  | none => .pass

end SafetyGate

end CodeRepair
