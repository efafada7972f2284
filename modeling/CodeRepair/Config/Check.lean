import CodeRepair.Config.Basic
import CodeRepair.Schema.Toml
import CodeRepair.Text.Blank
import CodeRepair.Url.Basic

/-!
Which configurations are accepted, and configurations as TOML documents.
-/
namespace CodeRepair

/-- What is wrong with a configuration. Fields are named by their path in the document. -/
inductive ConfigFault
  | document
  | tooLarge
  | belowOne (field : String)
  | notPositive (field : String)
  | noToolchain
  | outOfRange (field : String) (high got : Nat)
  | emptyField (field : String)
  | badUrl (table text : String) (cause : Url.Fault)
  | badScheme (table : String)
  deriving DecidableEq, Repr

namespace ConfigFault

def message : ConfigFault → String
  | document => "Failed to parse config TOML"
  | tooLarge => "Failed to serialize config"
  | belowOne field => field ++ " must be at least 1"
  | notPositive field => field ++ " must be positive"
  | noToolchain => "sandbox.toolchain binaries cannot be empty"
  | outOfRange field high got =>
    field ++ " must be between 1 and " ++ toString high ++ ", got " ++ toString got
  | emptyField field => field ++ " cannot be empty"
  | badUrl table text _ => table ++ ".base_url is not a valid URL: " ++ text
  | badScheme table => table ++ ".base_url must use http or https"

/-- What lies behind a fault. -/
def causes : ConfigFault → List String
  | document => ["TOML parse error"]
  | badUrl _ _ cause => [cause.message]
  | _ => []

end ConfigFault

def faultIf (p : Prop) [Decidable p] (fault : ConfigFault) : List ConfigFault := if p then [fault] else []

namespace ProviderConfig

def urlFaults (c : ProviderConfig) (table : String) : List ConfigFault :=
  match c.baseUrl with
  | none => []
  | some text =>
    match Url.parse text with
    | .ok (.web ..) => []
    | .ok (.other _) => [.badScheme table]
    | .error cause => [.badUrl table text cause]

def faults (c : ProviderConfig) (table : String) : List ConfigFault :=
  faultIf (Text.blank c.apiKeyEnv) (.emptyField (table ++ ".api_key_env")) ++
  faultIf (c.timeoutSecs = 0) (.belowOne (table ++ ".timeout_secs")) ++
  c.urlFaults table

end ProviderConfig

namespace Config

def sandboxFaults (c : SandboxConfig) : List ConfigFault :=
  faultIf (c.limits.timeoutSecs = 0) (.belowOne "sandbox.limits.timeout_secs") ++
  faultIf (c.limits.compileTimeoutSecs = 0) (.belowOne "sandbox.limits.compile_timeout_secs") ++
  faultIf (c.limits.maxOutputBytes = 0) (.notPositive "sandbox.limits.max_output_bytes") ++
  faultIf (Text.blank c.toolchain.python ∨ Text.blank c.toolchain.cppCompiler) .noToolchain

def retryFaults (c : RetryConfig) : List ConfigFault :=
  faultIf (c.maxAttemptsLimit < 1 ∨ maxAttemptsCeiling < c.maxAttemptsLimit)
    (.outOfRange "retry.max_attempts_limit" maxAttemptsCeiling c.maxAttemptsLimit) ++
  faultIf (c.defaultMaxAttempts < 1 ∨ c.maxAttemptsLimit < c.defaultMaxAttempts)
    -- The bound here is the other field, whatever it holds.
    (.outOfRange "retry.default_max_attempts" c.maxAttemptsLimit c.defaultMaxAttempts) ++
  faultIf (c.maxCodeLength = 0) (.notPositive "retry.max_code_length") ++
  faultIf (c.providerTimeoutSecs = 0) (.belowOne "retry.provider_timeout_secs") ++
  faultIf (c.maxSessions = 0) (.notPositive "retry.max_sessions")

def faults (c : Config) : List ConfigFault :=
  sandboxFaults c.sandbox ++ retryFaults c.retry ++
  c.providers.primary.faults "providers.primary" ++
  (match c.providers.fallback with
    | some fallback => fallback.faults "providers.fallback"
    | none => []) ++
  faultIf (Text.blank c.gateway.host) (.emptyField "gateway.host")

/-- A configuration is accepted when nothing is wrong with it; otherwise the first fault is told. -/
def validate (c : Config) : Except ConfigFault Unit :=
  match c.faults with
  | [] => .ok ()
  | fault :: _ => .error fault

def ofToml (text : String) : Except ConfigFault Config :=
  match Schema.parseToml Config text with
  | none => .error .document
  | some c => c.validate.map fun _ ↦ c

/-- A configuration as a document. Numbers that need more than 63 bits have no place in one. -/
def toToml (c : Config) : Except ConfigFault String :=
  match Schema.toTomlText? c with
  | some text => .ok text
  | none => .error .tooLarge

end Config

end CodeRepair
