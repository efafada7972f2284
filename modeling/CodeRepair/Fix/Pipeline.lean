import CodeRepair.Fix.Basic
import CodeRepair.Language
import CodeRepair.SafetyGate

/-!
Asking for a fix: the primary provider first, the fallback when the primary has no usable answer.
-/
namespace CodeRepair

structure ProviderInfo where
  name : String
  model : String
  reportsConfidence : Bool
  deriving DecidableEq, Repr, Inhabited

def ProviderInfo.label (p : ProviderInfo) : String := p.name ++ "/" ++ p.model

inductive Role
  | primary
  | fallback
  deriving DecidableEq, Repr, Inhabited

/-- What came of a call: a proposal, an error with its text, or nothing within the time allowed. -/
inductive Answered
  | proposal (p : Proposal)
  | failed (text : String)
  | timedOut
  deriving Repr, Inhabited

/-- What is heard of an answer when so many milliseconds are allowed for it. It may come later, or never. -/
def Answered.within (timeoutMs delayMs : Nat) : Option Answered → Answered
  | some answer => if delayMs ≤ timeoutMs then answer else .timedOut
  | none => .timedOut

/-- The providers with the rules for their answers. -/
structure Pipeline where
  primary : ProviderInfo
  fallback : Option ProviderInfo
  gate : SafetyGate
  timeoutMs : Nat
  deriving Repr

namespace Pipeline

def timeoutText (p : Pipeline) : String :=
  let seconds := (UInt64.ofNat (p.timeoutMs / 1000)).toFloat
  let rest := (UInt64.ofNat (p.timeoutMs % 1000 * 1000000)).toFloat / 1000000000
  Number.formatFloat .plain (seconds + rest) ++ "s"

/-- The proposal of a provider when it can be used, and otherwise what is wrong with its answer. -/
def judge (p : Pipeline) (provider : ProviderInfo) : Answered → Except String Proposal
  | .failed text => .error (provider.label ++ " failed: " ++ text ++ ".")
  | .timedOut => .error (provider.label ++ " timed out after " ++ p.timeoutText ++ ".")
  | .proposal proposal =>
    if Text.blank proposal.fixedCode then
      .error (provider.label ++ " returned no fix: " ++ proposal.explanation ++ ".")
    else
      let verdict := p.gate.check proposal.fixedCode
      if !verdict.safe then
        .error (provider.label ++ " proposed unsafe code (" ++ verdict.reason.getD "" ++ ").")
      -- A model may write a confidence although its service tells none.
      else if provider.reportsConfidence then .ok proposal
      else .ok { proposal with confidence := none }

inductive Next
  | settled (fix : Fix)
  | askFallback (problem : String)
  deriving Repr

def allFailed : String := "All fix providers failed. "

def afterPrimary (p : Pipeline) (answer : Answered) : Next :=
  match p.judge p.primary answer with
  | .ok proposal => .settled (.ofProposal proposal .primary p.primary.label)
  | .error problem =>
    match p.fallback with
    | some _ => .askFallback problem
    | none => .settled (.absent (allFailed ++ problem))

/-- The fix after the fallback's answer, the primary's having been of no use. -/
def afterFallback (p : Pipeline) (problem : String) (answer : Answered) : Fix :=
  match p.fallback with
  -- Not reached from `afterPrimary`, which asks a fallback only where there is one.
  | none => .absent (allFailed ++ problem)
  | some fallback =>
    match p.judge fallback answer with
    | .ok proposal => .ofProposal proposal .fallback fallback.label
    | .error problem' => .absent (allFailed ++ problem ++ " " ++ problem')

/-- The fix when the providers would answer as given, and the providers that are asked, in order. -/
def fix (p : Pipeline) (answers : Role → Answered) : Fix × List Role :=
  match p.afterPrimary (answers .primary) with
  | .settled fix => (fix, [.primary])
  | .askFallback problem => (p.afterFallback problem (answers .fallback), [.primary, .fallback])

end Pipeline

end CodeRepair
