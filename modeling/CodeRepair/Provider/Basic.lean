import CodeRepair.Config.Basic
import CodeRepair.Fix.Pipeline
import CodeRepair.Http.Message
import CodeRepair.Text.Blank
import CodeRepair.Text.Quoted
import CodeRepair.Text.Search
import CodeRepair.Url.Basic

/-!
Providers of fixes as they are configured. One without a key stands in for the provider that it should have been:
it fails whenever it is asked, and everything else goes on working.
-/
namespace CodeRepair

/-- A service that can be asked. -/
structure Remote where
  kind : ProviderKind
  name : String
  model : String
  /-- Where the service is, without slashes at the end. -/
  baseUrl : String
  apiKey : String
  timeoutSecs : Nat
  deriving DecidableEq, Repr

inductive Provider
  | remote (r : Remote)
  | unconfigured (name model reason : String)
  deriving DecidableEq, Repr

namespace ProviderKind

def defaultBaseUrl : ProviderKind → String
  | gemini => "https://generativelanguage.googleapis.com/v1beta"
  | openaiCompat => "https://openrouter.ai/api/v1"

def defaultModel : ProviderKind → String
  | gemini => "gemini-3-flash-preview"
  | openaiCompat => "arcee-ai/trinity-large-preview:free"

end ProviderKind

namespace Remote

def knownHost : String := "openrouter.ai"

def ofConfig (c : ProviderConfig) (apiKey : String) : Remote :=
  let url := c.baseUrl.getD c.kind.defaultBaseUrl
  let baseUrl := String.ofList (Text.dropEndWhile (· = '/') url.toList)
  let name :=
    match c.kind with
    | .gemini => c.kind.name
    | .openaiCompat => if Text.occursIn knownHost baseUrl then "openrouter" else c.kind.name
  { kind := c.kind, name, model := c.model.getD c.kind.defaultModel, baseUrl, apiKey, timeoutSecs := c.timeoutSecs }

/-- Only one kind of service tells how sure it is. -/
def reportsConfidence (r : Remote) : Bool := r.kind = .gemini

def title (r : Remote) : String :=
  match r.kind with
  | .gemini => "Gemini"
  | .openaiCompat => r.name

def endpoint (r : Remote) : String :=
  match r.kind with
  | .gemini => r.baseUrl ++ "/models/" ++ r.model ++ ":generateContent"
  | .openaiCompat => r.baseUrl ++ "/chat/completions"

end Remote

namespace Provider

/-- The provider that a configuration describes, when its variable holds a key that is not blank. -/
def build (c : ProviderConfig) (key : Option String) : Except String Remote :=
  match key with
  -- A key that is blank is as good as none.
  | some key => if Text.blank key then .error missing else .ok (.ofConfig c key)
  | none => .error missing
where
  missing : String := "environment variable " ++ c.apiKeyEnv ++ " is not set"

/-- The provider that a configuration describes, or its stand-in. -/
def ofConfig (c : ProviderConfig) (key : Option String) : Provider :=
  match build c key with
  | .ok r => .remote r
  | .error reason => .unconfigured c.kind.name (c.model.getD "") reason

def info : Provider → ProviderInfo
  | remote r => ⟨r.name, r.model, r.reportsConfidence⟩
  | unconfigured name model _ => ⟨name, model, false⟩

def showRecord (name : String) (fields : List (String × String)) : String :=
  name ++ " \x7b " ++ Text.joinWith ", " (fields.map fun f ↦ f.1 ++ ": " ++ Text.quoted f.2) ++ " \x7d"

/-- A provider as it is shown to programmers: the key stays hidden. -/
def describe : Provider → String
  | remote r =>
    let hidden := ("api_key", "[REDACTED]")
    match r.kind with
    | .gemini => showRecord "GeminiProvider" [hidden, ("model", r.model), ("base_url", r.baseUrl)]
    | .openaiCompat =>
      showRecord "OpenAiCompatProvider" [("name", r.name), hidden, ("model", r.model), ("base_url", r.baseUrl)]
  | unconfigured name model reason =>
    showRecord "UnconfiguredProvider" [("name", name), ("model", model), ("reason", reason)]

end Provider

end CodeRepair
