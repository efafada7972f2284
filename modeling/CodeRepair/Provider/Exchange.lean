import CodeRepair.Fix.Prompt
import CodeRepair.Fix.Reply
import CodeRepair.Json.Writer
import CodeRepair.Provider.Basic

/-!
How a provider is asked over the wire, and how its answer is read.
-/
namespace CodeRepair

open Schema

structure SpokenPart where
  text : Option String

instance : HasShape SpokenPart where
  shape := .record "ResponsePart" <| .cons "text" (.default .none) (.optional .text) .nil
  toDatum p := .record [toDatum p.text]
  ofDatum?
    | .record [text] => do return ⟨← ofDatum? text⟩
    | _ => none

structure Speech where
  parts : List SpokenPart

instance : HasShape Speech where
  shape := .record "CandidateContent" <| .cons "parts" (.default (.list [])) (.list (shape SpokenPart)) .nil
  toDatum s := .record [toDatum s.parts]
  ofDatum?
    | .record [parts] => do return ⟨← ofDatum? parts⟩
    | _ => none

structure Candidate where
  content : Option Speech

instance : HasShape Candidate where
  shape := .record "Candidate" <| .cons "content" (.default .none) (.optional (shape Speech)) .nil
  toDatum c := .record [toDatum c.content]
  ofDatum?
    | .record [content] => do return ⟨← ofDatum? content⟩
    | _ => none

structure Generated where
  candidates : List Candidate

instance : HasShape Generated where
  shape := .record "GenerateResponse" <| .cons "candidates" (.default (.list [])) (.list (shape Candidate)) .nil
  toDatum g := .record [toDatum g.candidates]
  ofDatum?
    | .record [candidates] => do return ⟨← ofDatum? candidates⟩
    | _ => none

def Generated.text (g : Generated) : String :=
  match g.candidates with
  | ⟨some speech⟩ :: _ => String.join (speech.parts.filterMap (·.text))
  | _ => ""

structure ChatMessage where
  content : Option String

instance : HasShape ChatMessage where
  shape := .record "ChoiceMessage" <| .cons "content" (.default .none) (.optional .text) .nil
  toDatum m := .record [toDatum m.content]
  ofDatum?
    | .record [content] => do return ⟨← ofDatum? content⟩
    | _ => none

structure Choice where
  message : ChatMessage

instance : HasShape Choice where
  shape := .record "Choice" <| .cons "message" .required (shape ChatMessage) .nil
  toDatum c := .record [toDatum c.message]
  ofDatum?
    | .record [message] => do return ⟨← ofDatum? message⟩
    | _ => none

structure Chat where
  choices : List Choice

instance : HasShape Chat where
  shape := .record "ChatResponse" <| .cons "choices" (.default (.list [])) (.list (shape Choice)) .nil
  toDatum c := .record [toDatum c.choices]
  ofDatum?
    | .record [choices] => do return ⟨← ofDatum? choices⟩
    | _ => none

def Chat.text (c : Chat) : String :=
  match c.choices with
  | choice :: _ => choice.message.content.getD ""
  | [] => ""

/-- What comes back from the wire. The body is cut short when the connection ends too early. -/
inductive Delivery
  | nothing
  | answer (status : Nat) (body : String) (whole : Bool)
  deriving DecidableEq, Repr, Inhabited

structure Posting where
  host : Url.Host
  port : Option Nat
  secure : Bool
  request : Http.Request
  deriving DecidableEq, Repr

inductive ProviderError
  | unconfigured (name reason : String)
  | unsent (title : String)
  | refused (title : String) (status : Nat) (excerpt : String)
  | cutShort (title : String)
  | undecodable (title : String) (fault : Json.Fault)

/-- The text of an error, after it what lies behind it. -/
def ProviderError.message : ProviderError → String
  | unconfigured name reason => name ++ " is not configured: " ++ reason
  | unsent title => "Failed to send " ++ title ++ " request"
  | refused title status excerpt =>
    title ++ " request failed with status " ++ Http.statusText status ++ ": " ++ excerpt
  | cutShort title => "Failed to decode " ++ title ++ " response"
  | undecodable title fault =>
    "Failed to decode " ++ title ++ " response: error decoding response body: " ++ fault.message

namespace Remote

/-- The body of a request: the prompt as the only message, and no randomness. -/
def requestBody (r : Remote) (language : Language) (code error : String) : Json.Value :=
  let prompt := Json.Value.string (Prompt.build language code error r.reportsConfidence)
  let user := ("role", Json.Value.string "user")
  let cold := ("temperature", Json.Value.number (.real 0))
  match r.kind with
  | .gemini =>
    .object [
      ("contents", .array [.object [user, ("parts", .array [.object [("text", prompt)]])]]),
      ("generationConfig", .object [cold, ("responseMimeType", .string "application/json")])]
  | .openaiCompat =>
    .object [("model", .string r.model), ("messages", .array [.object [user, ("content", prompt)]]), cold]

def keyHeader (r : Remote) : Http.Header :=
  match r.kind with
  | .gemini => ⟨"x-goog-api-key", r.apiKey⟩
  | .openaiCompat => ⟨"authorization", "Bearer " ++ r.apiKey⟩

/-- The request for a fix. There is none when the address is none, when the key cannot stand in a header, or when
no time is allowed. -/
def posting? (r : Remote) (language : Language) (code error : String) : Option Posting :=
  match Url.parse r.endpoint with
  | .ok (.web secure host port path query) =>
    -- With no time allowed the wire gives up before anything is sent.
    if r.timeoutSecs = 0 ∨ !Http.isHeaderValue r.apiKey then none
    else
      let target := path ++ (query.map ('?' :: ·)).getD []
      some {
        host, port, secure
        request := {
          method := "POST", target := String.ofList target
          headers := [r.keyHeader, ⟨"content-type", "application/json"⟩]
          body := (r.requestBody language code error).compact } }
  | _ => none

def silence (r : Remote) : String :=
  match r.kind with
  | .gemini => "Gemini returned no candidates"
  | .openaiCompat => r.name ++ " returned no response"

def spoken (r : Remote) (body : String) : Except Json.Fault String :=
  match r.kind with
  | .gemini => (Schema.parse Generated body).map Generated.text
  | .openaiCompat => (Schema.parse Chat body).map Chat.text

def proposal (r : Remote) (text : String) : Proposal :=
  if Text.blank text then .unusable r.silence
  else
    let p := Reply.parse r.name text
    if r.reportsConfidence then p else { p with confidence := none }

/-- A body as text: a byte order mark at its start is none of it. -/
def withoutMark (body : String) : String :=
  match body.toList with
  | c :: rest => if c = Char.ofNat 0xFEFF then String.ofList rest else body
  | [] => body

def read (r : Remote) : Delivery → Except ProviderError Proposal
  | .nothing => .error (.unsent r.title)
  | .answer status body whole =>
    if Http.isSuccess status then
      if whole then
        match r.spoken body with
        | .ok text => .ok (r.proposal text)
        | .error fault => .error (.undecodable r.title fault)
      else .error (.cutShort r.title)
    else
      -- A refusal is told even when its body did not arrive whole; then nothing is quoted.
      .error (.refused r.title status (Reply.errorExcerpt (if whole then withoutMark body else "")))

end Remote

/-- Asks a provider, `post` being what the wire makes of a request. -/
def Provider.propose {m : Type → Type} [Monad m] (p : Provider) (post : Posting → m Delivery) (language : Language)
    (code error : String) : m (Except ProviderError Proposal) :=
  match p with
  | .unconfigured name _ reason => return .error (.unconfigured name reason)
  | .remote r =>
    match r.posting? language code error with
    | none => return .error (.unsent r.title)
    | some posting => return r.read (← post posting)

end CodeRepair
