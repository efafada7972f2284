import CodeRepair.Language
import CodeRepair.Session.Record

/-!
The configuration: what it consists of, and its values where nothing is said.
-/
namespace CodeRepair

open Schema

/-- Bounds on one run. -/
structure Limits where
  timeoutSecs : Nat
  compileTimeoutSecs : Nat
  maxOutputBytes : Nat
  deriving DecidableEq, Repr, Inhabited

namespace Limits

def default : Limits := ⟨3, 10, 65536⟩

instance : HasShape Limits where
  shape := .record "ResourceLimits" <|
    .cons "timeout_secs" (.default (.int 3)) (.integer .u64) <|
    .cons "compile_timeout_secs" (.default (.int 10)) (.integer .u64) <|
    .cons "max_output_bytes" (.default (.int 65536)) (.integer .size) .nil
  toDatum l := .record [ofNat l.timeoutSecs, ofNat l.compileTimeoutSecs, ofNat l.maxOutputBytes]
  ofDatum?
    | .record [timeout, compile, output] => do return ⟨← natOf? timeout, ← natOf? compile, ← natOf? output⟩
    | _ => none

end Limits

structure Toolchain where
  python : String
  pythonArgs : List String
  cppCompiler : String
  cppFlags : List String
  deriving DecidableEq, Repr, Inhabited

namespace Toolchain

def default : Toolchain := ⟨"python3", [], "g++", []⟩

instance : HasShape Toolchain where
  shape := .record "Toolchain" <|
    .cons "python" (.default (.text "python3")) .text <|
    .cons "python_args" (.default (.list [])) (.list .text) <|
    .cons "cpp_compiler" (.default (.text "g++")) .text <|
    .cons "cpp_flags" (.default (.list [])) (.list .text) .nil
  toDatum t := .record [toDatum t.python, toDatum t.pythonArgs, toDatum t.cppCompiler, toDatum t.cppFlags]
  ofDatum?
    | .record [python, pythonArgs, compiler, flags] => do
      return ⟨← ofDatum? python, ← ofDatum? pythonArgs, ← ofDatum? compiler, ← ofDatum? flags⟩
    | _ => none

end Toolchain

structure SandboxConfig where
  /-- Where files are written; the system's directory for temporary files when unset. -/
  workDir : Option String
  limits : Limits
  toolchain : Toolchain
  deriving DecidableEq, Repr, Inhabited

namespace SandboxConfig

def default : SandboxConfig := ⟨none, .default, .default⟩

instance : HasShape SandboxConfig where
  shape := .record "SandboxConfig" <|
    .cons "work_dir" (.default .none) (.optional .path) <|
    .cons "limits" (.default (toDatum Limits.default)) (shape Limits) <|
    .cons "toolchain" (.default (toDatum Toolchain.default)) (shape Toolchain) .nil
  toDatum c := .record [toDatum c.workDir, toDatum c.limits, toDatum c.toolchain]
  ofDatum?
    | .record [workDir, limits, toolchain] => do
      return ⟨← ofDatum? workDir, ← ofDatum? limits, ← ofDatum? toolchain⟩
    | _ => none

/-- The command that runs a program: the interpreter on the source, or the binary itself. -/
def runCommand (c : SandboxConfig) (language : Language) (artifact : String) : List String :=
  match language with
  | .python => c.toolchain.python :: c.toolchain.pythonArgs ++ [artifact]
  | .cpp => [artifact]

def compileCommand (c : SandboxConfig) (language : Language) (source binary : String) : Option (List String) :=
  match language with
  | .python => none
  | .cpp => some (c.toolchain.cppCompiler :: c.toolchain.cppFlags ++ [source, "-o", binary])

def toolchainBinary (c : SandboxConfig) : Language → String
  | .python => c.toolchain.python
  | .cpp => c.toolchain.cppCompiler

end SandboxConfig

/-- The most attempts that any session may have. -/
def maxAttemptsCeiling : Nat := 10

structure RetryConfig where
  defaultMaxAttempts : Nat
  /-- The most attempts that a caller may ask for. -/
  maxAttemptsLimit : Nat
  maxCodeLength : Nat
  providerTimeoutSecs : Nat
  onNoFix : NoFixPolicy
  /-- The most paced sessions at a time. -/
  maxSessions : Nat
  deriving DecidableEq, Repr, Inhabited

namespace RetryConfig

def default : RetryConfig := ⟨5, 10, 5000, 60, .retryUnchanged, 1000⟩

instance : HasShape RetryConfig where
  shape := .record "RetryConfig" <|
    .cons "default_max_attempts" (.default (.int 5)) (.integer .u32) <|
    .cons "max_attempts_limit" (.default (.int 10)) (.integer .u32) <|
    .cons "max_code_length" (.default (.int 5000)) (.integer .size) <|
    .cons "provider_timeout_secs" (.default (.int 60)) (.integer .u64) <|
    .cons "on_no_fix" (.default (.choice 0)) (shape NoFixPolicy) <|
    .cons "max_sessions" (.default (.int 1000)) (.integer .size) .nil
  toDatum c := .record [ofNat c.defaultMaxAttempts, ofNat c.maxAttemptsLimit, ofNat c.maxCodeLength,
    ofNat c.providerTimeoutSecs, toDatum c.onNoFix, ofNat c.maxSessions]
  ofDatum?
    | .record [attempts, limit, length, timeout, policy, sessions] => do
      return ⟨← natOf? attempts, ← natOf? limit, ← natOf? length, ← natOf? timeout, ← ofDatum? policy,
        ← natOf? sessions⟩
    | _ => none

end RetryConfig

inductive ProviderKind
  | gemini
  | openaiCompat
  deriving DecidableEq, Repr, Inhabited

namespace ProviderKind

def name : ProviderKind → String
  | gemini => "gemini"
  | openaiCompat => "openai_compat"

instance : HasShape ProviderKind where
  shape := .choice ["gemini", "openai_compat"]
  toDatum
    | gemini => .choice 0
    | openaiCompat => .choice 1
  ofDatum?
    | .choice 0 => some gemini
    | .choice 1 => some openaiCompat
    | _ => none

end ProviderKind

structure ProviderConfig where
  kind : ProviderKind
  model : Option String
  /-- The environment variable that holds the key. -/
  apiKeyEnv : String
  baseUrl : Option String
  timeoutSecs : Nat
  deriving DecidableEq, Repr, Inhabited

namespace ProviderConfig

def gemini : ProviderConfig := ⟨.gemini, some "gemini-3-flash-preview", "GEMINI_API_KEY", none, 30⟩

def openrouter : ProviderConfig :=
  ⟨.openaiCompat, some "arcee-ai/trinity-large-preview:free", "OPENROUTER_API_KEY", none, 30⟩

instance : HasShape ProviderConfig where
  shape := .record "ProviderConfig" <|
    .cons "kind" .required (shape ProviderKind) <|
    .cons "model" (.default .none) (.optional .text) <|
    .cons "api_key_env" .required .text <|
    .cons "base_url" (.default .none) (.optional .text) <|
    .cons "timeout_secs" (.default (.int 30)) (.integer .u64) .nil
  toDatum c := .record [toDatum c.kind, toDatum c.model, toDatum c.apiKeyEnv, toDatum c.baseUrl, ofNat c.timeoutSecs]
  ofDatum?
    | .record [kind, model, key, url, timeout] => do
      return ⟨← ofDatum? kind, ← ofDatum? model, ← ofDatum? key, ← ofDatum? url, ← natOf? timeout⟩
    | _ => none

end ProviderConfig

/-- The provider that is asked first, and the one that is asked when it has no usable answer. -/
structure ProvidersConfig where
  primary : ProviderConfig
  fallback : Option ProviderConfig
  deriving DecidableEq, Repr, Inhabited

namespace ProvidersConfig

def default : ProvidersConfig := ⟨.gemini, some .openrouter⟩

instance : HasShape ProvidersConfig where
  shape := .record "ProvidersConfig" <|
    .cons "primary" (.default (toDatum ProviderConfig.gemini)) (shape ProviderConfig) <|
    .cons "fallback" (.default (toDatum (some ProviderConfig.openrouter))) (.optional (shape ProviderConfig)) .nil
  toDatum c := .record [toDatum c.primary, toDatum c.fallback]
  ofDatum?
    | .record [primary, fallback] => do return ⟨← ofDatum? primary, ← ofDatum? fallback⟩
    | _ => none

end ProvidersConfig

structure GatewayConfig where
  host : String
  port : Nat
  corsOrigins : List String
  deriving DecidableEq, Repr, Inhabited

namespace GatewayConfig

def default : GatewayConfig := ⟨"127.0.0.1", 8000, []⟩

instance : HasShape GatewayConfig where
  shape := .record "GatewayConfig" <|
    .cons "host" (.default (.text "127.0.0.1")) .text <|
    .cons "port" (.default (.int 8000)) (.integer .u16) <|
    .cons "cors_origins" (.default (.list [])) (.list .text) .nil
  toDatum c := .record [toDatum c.host, ofNat c.port, toDatum c.corsOrigins]
  ofDatum?
    | .record [host, port, origins] => do return ⟨← ofDatum? host, ← natOf? port, ← ofDatum? origins⟩
    | _ => none

end GatewayConfig

/-- Terms that are blocked besides the built-in ones. -/
structure SafetyConfig where
  extraTerms : List String
  deriving DecidableEq, Repr, Inhabited

namespace SafetyConfig

def default : SafetyConfig := ⟨[]⟩

instance : HasShape SafetyConfig where
  shape := .record "SafetyConfig" <| .cons "extra_terms" (.default (.list [])) (.list .text) .nil
  toDatum c := .record [toDatum c.extraTerms]
  ofDatum?
    | .record [terms] => do return ⟨← ofDatum? terms⟩
    | _ => none

end SafetyConfig

structure Config where
  sandbox : SandboxConfig
  retry : RetryConfig
  safety : SafetyConfig
  providers : ProvidersConfig
  gateway : GatewayConfig
  deriving DecidableEq, Repr, Inhabited

namespace Config

def default : Config := ⟨.default, .default, .default, .default, .default⟩

instance : HasShape Config where
  shape := .record "MenderConfig" <|
    .cons "sandbox" (.default (toDatum SandboxConfig.default)) (shape SandboxConfig) <|
    .cons "retry" (.default (toDatum RetryConfig.default)) (shape RetryConfig) <|
    .cons "safety" (.default (toDatum SafetyConfig.default)) (shape SafetyConfig) <|
    .cons "providers" (.default (toDatum ProvidersConfig.default)) (shape ProvidersConfig) <|
    .cons "gateway" (.default (toDatum GatewayConfig.default)) (shape GatewayConfig) .nil
  toDatum c := .record [toDatum c.sandbox, toDatum c.retry, toDatum c.safety, toDatum c.providers, toDatum c.gateway]
  ofDatum?
    | .record [sandbox, retry, safety, providers, gateway] => do
      return ⟨← ofDatum? sandbox, ← ofDatum? retry, ← ofDatum? safety, ← ofDatum? providers, ← ofDatum? gateway⟩
    | _ => none

end Config

end CodeRepair
