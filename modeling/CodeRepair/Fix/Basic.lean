import CodeRepair.Schema.HasShape

/-!
What is proposed to mend a program, and what came of asking for it.
-/
namespace CodeRepair

/-- A provider's proposal. Blank code means that it has none. -/
structure Proposal where
  explanation : String
  fixedCode : String
  confidence : Option Float32
  deriving Repr, Inhabited

namespace Proposal

def unusable (explanation : String) : Proposal := ⟨explanation, "", none⟩

open Schema in
instance : HasShape Proposal where
  shape := .record "FixProposal" <|
    .cons "explanation" (.default (.text "")) .text <|
    .cons "fixed_code" (.default (.text "")) .text <|
    .cons "confidence" .omitted (.optional .single) .nil
  toDatum p := .record [toDatum p.explanation, toDatum p.fixedCode, toDatum p.confidence]
  ofDatum?
    | .record [explanation, code, confidence] => do
      return ⟨← ofDatum? explanation, ← ofDatum? code, ← ofDatum? confidence⟩
    | _ => none

end Proposal

inductive Provenance
  | primary
  | fallback
  | none
  deriving DecidableEq, Repr, Inhabited

instance : Schema.HasShape Provenance where
  shape := .choice ["primary", "fallback", "none"]
  toDatum
    | .primary => .choice 0
    | .fallback => .choice 1
    | .none => .choice 2
  ofDatum?
    | .choice 0 => some .primary
    | .choice 1 => some .fallback
    | .choice 2 => some .none
    | _ => Option.none

structure Fix where
  explanation : String
  fixedCode : String
  confidence : Option Float32
  provenance : Provenance
  provider : Option String
  deriving Repr, Inhabited

namespace Fix

def ofProposal (p : Proposal) (provenance : Provenance) (label : String) : Fix :=
  ⟨p.explanation, p.fixedCode, p.confidence, provenance, some label⟩

def absent (explanation : String) : Fix := ⟨explanation, "", none, .none, none⟩

/-- Whether there is code to go on with. -/
def isUsable (f : Fix) : Bool := f.provenance ≠ .none && !Text.blank f.fixedCode

open Schema in
instance : HasShape Fix where
  shape := .record "FixResult" <|
    .cons "explanation" .required .text <|
    .cons "fixed_code" .required .text <|
    .cons "confidence" .omitted (.optional .single) <|
    .cons "provenance" .required (shape Provenance) <|
    .cons "provider" .omitted (.optional .text) .nil
  toDatum f := .record [toDatum f.explanation, toDatum f.fixedCode, toDatum f.confidence, toDatum f.provenance,
    toDatum f.provider]
  ofDatum?
    | .record [explanation, code, confidence, provenance, provider] => do
      return ⟨← ofDatum? explanation, ← ofDatum? code, ← ofDatum? confidence, ← ofDatum? provenance,
        ← ofDatum? provider⟩
    | _ => none

end Fix

end CodeRepair
