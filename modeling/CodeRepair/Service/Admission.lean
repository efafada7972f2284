import CodeRepair.Config.Basic
import CodeRepair.Fix.Pipeline

/-!
Which requests are served: the checks on a request before anything runs, in their order.
-/
namespace CodeRepair

/-- The settings of a service: its configuration and what is known of its providers. -/
structure Settings where
  config : Config
  primary : ProviderInfo
  fallback : Option ProviderInfo
  deriving Repr

namespace Settings

def gate (s : Settings) : SafetyGate := .withExtraTerms s.config.safety.extraTerms

def pipeline (s : Settings) : Pipeline :=
  ⟨s.primary, s.fallback, s.gate, s.config.retry.providerTimeoutSecs * 1000⟩

/-- The language of a request, when the language is known and the code is neither blank nor too long nor
blocked. -/
def validate (s : Settings) (language code : String) : Except RequestError Language := do
  let language ← Language.parse language
  if Text.blank code then throw .emptyCode
  let length := code.toList.length
  let max := s.config.retry.maxCodeLength
  if max < length then throw (.codeTooLong length max)
  let verdict := s.gate.check code
  if !verdict.safe then throw (.unsafeCode (verdict.reason.getD ""))
  return language

/-- The number of attempts of a session, when the one asked for is within the limit. -/
def resolveMaxAttempts (s : Settings) (requested : Option Nat) : Except RequestError Nat :=
  let max := requested.getD s.config.retry.defaultMaxAttempts
  let limit := s.config.retry.maxAttemptsLimit
  if 1 ≤ max ∧ max ≤ limit then .ok max else .error (.invalidMaxAttempts max limit)

end Settings

end CodeRepair
