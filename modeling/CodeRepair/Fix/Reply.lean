import CodeRepair.Fix.Basic
import CodeRepair.Text.Search
import CodeRepair.Text.LowerCase

/-!
Reading a model's reply. A reply should be a JSON object and often is one with something around it, so three
pieces are tried in turn: the whole, what stands inside a code fence, and the first balanced object.
-/
namespace CodeRepair.Reply

open Text

def fence : List Char := List.replicate 3 (Char.ofNat 0x60)

/-- What stands inside a code fence that opens the text: from the line after the opening one, or what follows
the opening when there is no such line, to the last fence, without blanks at its end. -/
def stripFences (content : List Char) : Option (List Char) := do
  let opened ← dropPattern? fence (trim content)
  -- What follows the opening on its line is a tag and no code.
  let body :=
    match opened.dropWhile (· ≠ '\n') with
    | _ :: body => body
    | [] => opened
  (beforeLast? fence body).map trimEnd

/-- Where the brace scanner stands: how many braces are open, and whether it is inside a string and there after
a backslash. -/
structure Scan where
  depth : Nat
  inString : Bool
  escaped : Bool
  deriving DecidableEq, Repr

/-- One character. None when more braces are closed than were opened. -/
def Scan.step (s : Scan) (c : Char) : Option Scan :=
  if s.inString then
    if s.escaped then some { s with escaped := false }
    else if c = '\\' then some { s with escaped := true }
    else if c = '"' then some { s with inString := false }
    else some s
  else if c = '"' then some { s with inString := true }
  else if c = '\x7b' then some { s with depth := s.depth + 1 }
  else if c = '\x7d' then (if s.depth = 0 then none else some { s with depth := s.depth - 1 })
  else some s

def balancedFrom (s : Scan) : List Char → Option (List Char)
  | [] => none
  | c :: cs => do
    let s' ← s.step c
    -- A brace inside a string closes nothing, and an escaped quote does not end the string.
    if c = '\x7d' ∧ !s.inString ∧ s'.depth = 0 then some [c]
    else (balancedFrom s' cs).map (c :: ·)

def balancedObject (cs : List Char) : Option (List Char) := balancedFrom ⟨0, false, false⟩ cs

/-- The pieces of a reply that may be the object, in the order in which they are tried. -/
def candidates (content : List Char) : List (List Char) :=
  let whole := some content
  let inside := stripFences content
  let object :=
    match content.dropWhile (· ≠ '\x7b') with
    | [] => none
    | rest => balancedObject rest
  [whole, inside, object].foldl
    (fun found piece ↦
      match piece.map trim with
      -- A piece that is tried already is not tried again: its failure would be the same.
      | some (c :: cs) => if c :: cs ∈ found then found else found ++ [c :: cs]
      | _ => found)
    []

/-- The object that a reply should be. -/
structure Raw where
  explanation : Option String
  fixedCode : String
  confidence : Option Float
  deriving Inhabited

open Schema in
instance : HasShape Raw where
  shape := .record "RawFix" <|
    .cons "explanation" (.default .none) (.optional .text) <|
    .cons "fixed_code" .required .text <|
    .cons "confidence" (.default .none) (.optional .real) .nil
  toDatum r := .record [toDatum r.explanation, toDatum r.fixedCode, toDatum r.confidence]
  ofDatum?
    | .record [explanation, code, confidence] => do
      return ⟨← ofDatum? explanation, ← ofDatum? code, ← ofDatum? confidence⟩
    | _ => none

/-- A confidence brought into the range from zero to one. -/
def clampConfidence (x : Float) : Option Float32 :=
  if x.isFinite then some (if x < 0 then 0 else if 1 < x then 1 else x.toFloat32) else none

/-- The proposal that an object stands for. Code inside a fence is taken out of it. -/
def Raw.toProposal (r : Raw) : Proposal where
  explanation := trimmed (r.explanation.getD "")
  fixedCode :=
    match stripFences r.fixedCode.toList with
    | some code => String.ofList code
    | none => r.fixedCode
  confidence := r.confidence.bind clampConfidence

/-- The first piece that is an object, or the failure of the last one. -/
def firstRaw (failure : String) : List (List Char) → Except String Raw
  | [] => .error failure
  | piece :: rest =>
    match Schema.parse Raw (String.ofList piece) with
    | .ok raw => .ok raw
    | .error fault => firstRaw fault.message rest

/-- The proposal in the reply of a provider; without code when there is none in it. -/
def parse (provider content : String) : Proposal :=
  match firstRaw "empty response" (candidates content.toList) with
  | .ok raw => raw.toProposal
  | .error failure => .unusable ("Failed to parse " ++ provider ++ " response: " ++ failure)

def secretMarks : List String := ["api_key", "apikey", "bearer", "secret"]

def excerptLimit : Nat := 200

/-- What is quoted of the body of a failed request. A body that may hold a credential is not quoted at all. -/
def errorExcerpt (body : String) : String :=
  let lowered := lower body.toList
  -- The whole body is searched, and not only the part that would be quoted.
  if secretMarks.any fun mark ↦ occurs mark.toList lowered then "(response body redacted)"
  else if excerptLimit < body.toList.length then String.ofList (body.toList.take excerptLimit) ++ "..."
  else body

end CodeRepair.Reply
