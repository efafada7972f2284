import CodeRepair.Execution.Run
import CodeRepair.Provider.Exchange
import CodeRepair.Service.Conduct

/-!
A service with the providers that its configuration names, on a system that runs programs and carries requests.
-/
namespace CodeRepair

structure Surroundings (m : Type → Type) extends Host m where
  valueOf : String → m (Option String)
  /-- What the wire makes of a request. -/
  post : Posting → m Delivery
  now : m Time.Stamp
  bits : m Nat

structure Service where
  config : Config
  primary : Provider
  fallback : Option Provider

namespace Service

def settings (s : Service) : Settings := ⟨s.config, s.primary.info, s.fallback.map Provider.info⟩

def provider? (s : Service) : Role → Option Provider
  | .primary => some s.primary
  | .fallback => s.fallback

variable {m : Type → Type} [Monad m]

def hire (around : Surroundings m) (c : ProviderConfig) : m Provider :=
  return .ofConfig c (← around.valueOf c.apiKeyEnv)

def ofConfig (around : Surroundings m) (config : Config) : m Service := do
  let primary ← hire around config.providers.primary
  let fallback ← config.providers.fallback.mapM (hire around)
  return { config, primary, fallback }

def ask (s : Service) (around : Surroundings m) (role : Role) (language : Language) (code error : String) :
    m Answered := do
  match s.provider? role with
  -- Not reached: the service asks a fallback only where it has one.
  | none => return .failed ""
  | some provider =>
    let askedMs ← around.clock
    let answer :=
      match ← provider.propose around.post language code error with
      | .ok proposal => .proposal proposal
      | .error e => .failed e.message
    return .within s.settings.pipeline.timeoutMs ((← around.clock) - askedMs) (some answer)

def outside (s : Service) (around : Surroundings m) : Outside m where
  run := around.toHost.run s.config.sandbox
  ask := s.ask around
  now := around.now

end Service

end CodeRepair
