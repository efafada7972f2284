import CodeRepair.About
import CodeRepair.Gateway.Body
import CodeRepair.Gateway.Cors
import CodeRepair.Http.MediaType
import CodeRepair.Service.Machine
import CodeRepair.Url.Percent

/-!
The gateway: what is asked of the service by a request over the wire, and how its answer goes back.
-/
namespace CodeRepair.Gateway

open Schema
open Http (Response)

/-- What a path stands for. -/
inductive Endpoint
  | root
  | health
  | execute
  | debug
  | autoRetry
  | sessions
  | session (id : List Char)
  | attempts (id : List Char)
  deriving DecidableEq, Repr

namespace Endpoint

/-- What the segments of a path stand for. An id is any segment that is not empty. -/
def ofSegments : List (List Char) → Option Endpoint
  | [segment] => if segment.isEmpty then some .root else if segment = "health".toList then some .health else none
  | [api, last] =>
    if api ≠ "api".toList then none
    else if last = "execute".toList then some .execute
    else if last = "debug".toList then some .debug
    else if last = "auto-retry".toList then some .autoRetry
    else if last = "sessions".toList then some .sessions
    else none
  | [api, all, id] =>
    if api = "api".toList ∧ all = "sessions".toList ∧ !id.isEmpty then some (.session id) else none
  | [api, all, id, last] =>
    if api = "api".toList ∧ all = "sessions".toList ∧ !id.isEmpty ∧ last = "attempts".toList then
      some (.attempts id)
    else none
  | _ => none

/-- What a target stands for. A query makes no difference. -/
def ofTarget (target : String) : Option Endpoint :=
  match target.toList.takeWhile fun c ↦ c ≠ '?' ∧ c ≠ '#' with
  | '/' :: path => ofSegments (Text.splitAt (· = '/') path)
  | _ => none

def methods : Endpoint → List String
  | root | health => ["GET", "HEAD"]
  | execute | debug | autoRetry | attempts _ => ["POST"]
  | sessions => ["GET", "HEAD", "POST"]
  | session _ => ["GET", "HEAD", "DELETE"]

def allowHeader (e : Endpoint) : Http.Header := ⟨"allow", Text.joinWith "," e.methods⟩

end Endpoint

def respond (status : Nat) {α : Type} [HasShape α] (a : α) : Response :=
  ⟨status, [⟨"content-type", "application/json"⟩], toText a⟩

def respondText (status : Nat) (text : String) : Response :=
  ⟨status, [⟨"content-type", "text/plain; charset=utf-8"⟩], text⟩

def respondEmpty (status : Nat) : Response := ⟨status, [], ""⟩

def refuse (e : ApiError) : Response := respond e.status e.body

def bodyLimit : Nat := 2 * 1024 * 1024

def refuseBody (fault : Json.Fault) : Response :=
  let place := if fault.path.isEmpty then "" else fault.pathText ++ ": "
  -- Wrong form and wrong meaning have different statuses.
  if fault.cause.isMismatch then
    respondText 422 ("Failed to deserialize the JSON body into the target type: " ++ place ++ fault.message)
  else respondText 400 ("Failed to parse the request body as JSON: " ++ place ++ fault.message)

def readBody (α : Type) [HasShape α] (r : Http.Request) : Except Response α :=
  if !(Http.header? r.headers "content-type").any Http.isJson then
    .error (respondText 415
      ("Expected request with " ++ Json.backQuoted "Content-Type: application/json"))
  -- Nothing is read of a body whose type is wrong, however long it is.
  else if bodyLimit < r.body.utf8ByteSize then
    .error (respondText 413 "Failed to buffer the request body: length limit exceeded")
  else (Schema.parse α r.body).mapError refuseBody

/-- The id in a path. Its percent signs must spell a text. -/
def readId (segment : List Char) : Except Response String :=
  let bytes := Url.percentDecode segment
  let id := Text.Utf8.decode bytes
  -- Decoding mends what is no text, so only a text comes out as it went in.
  if Text.Utf8.encode id = bytes then .ok (String.ofList id)
  else .error (respondText 400 ("Invalid URL: Invalid UTF-8 in " ++ Json.backQuoted "id"))

structure Greeting where
  message : String

instance : HasShape Greeting where
  shape := .record "Greeting" <| .cons "message" .required .text .nil
  toDatum g := .record [toDatum g.message]
  ofDatum?
    | .record [message] => do return ⟨← ofDatum? message⟩
    | _ => none

def healthOf (s : Settings) (registry : Registry) : HealthResponse where
  status := "ok"
  version := version
  languages := Language.all.map Language.name
  activeSessions := registry.count
  sessionCapacity := registry.capacity
  onNoFix := s.config.retry.onNoFix
  primaryProvider := s.primary.label
  fallbackProvider := s.fallback.map ProviderInfo.label

/-- The answer of the service as it goes back. A new session is something created. -/
def reply (created : Bool) : Answer → Response
  | .error e => refuse (.ofSession e)
  | .ok (.result r) => respond 200 (ExecuteResponse.mk completedMessage r)
  | .ok (.report r) => respond 200 (DebugResponse.ofReport r)
  | .ok (.attempt a) => respond 200 a
  | .ok (.summary s) => respond (if created then 201 else 200) s
  | .ok (.summaries ss) => respond 200 ss

/-- What follows a request: an answer at once, or something asked of the service. -/
inductive Step
  | respond (response : Response)
  | ask (request : Request) (created : Bool)

/-- What a request to an endpoint means. A client that goes away cancels the session it waits for, so that one
has a token of its own. -/
def Endpoint.step (s : Settings) (registry : Registry) (caller : Nat) (r : Http.Request) (endpoint : Endpoint) :
    Except Response Step := do
  match endpoint with
  | .root => return .respond (Gateway.respond 200 (Greeting.mk (programName ++ " backend running")))
  | .health => return .respond (Gateway.respond 200 (healthOf s registry))
  | .execute =>
    let body ← readBody CodeRequest r
    return .ask (.execute body.language body.code) false
  | .debug =>
    let body ← readBody CodeRequest r
    return .ask (.debug body.language body.code) false
  | .autoRetry =>
    let body ← readBody RetryRequest r
    return .ask (.run body.language body.code body.maxAttempts (some caller)) false
  | .sessions =>
    if r.method = "POST" then
      let body ← readBody RetryRequest r
      return .ask (.start body.language body.code body.maxAttempts) true
    else return .ask .list false
  | .session segment =>
    let id ← readId segment
    return .ask (if r.method = "DELETE" then .delete id else .get id) false
  | .attempts segment => return .ask (.step (← readId segment)) false

def receive (s : Settings) (registry : Registry) (caller : Nat) (r : Http.Request) : Step :=
  let cors := Cors.ofOrigins s.config.gateway.corsOrigins
  match Endpoint.ofTarget r.target with
  | none => .respond (if cors.intercepts r then cors.preflight r else respondEmpty 404)
  | some endpoint =>
    if endpoint.methods.contains r.method then
      match endpoint.step s registry caller r with
      | .ok step => step
      | .error response => .respond response
    else
      -- A browser that asks ahead comes here too, and is told the methods along with its answer.
      let response := if cors.intercepts r then cors.preflight r else respondEmpty 405
      .respond { response with headers := response.headers ++ [endpoint.allowHeader] }

/-- An answer as it leaves: marked for browsers, and without a body when only its head was asked for. -/
def send (s : Settings) (r : Http.Request) (response : Response) : Response :=
  let cors := Cors.ofOrigins s.config.gateway.corsOrigins
  -- An answer to a browser that asks ahead has its marks already.
  let response := if cors.intercepts r then response else cors.mark r response
  if r.method = "HEAD" then { response with body := "" } else response

end CodeRepair.Gateway
