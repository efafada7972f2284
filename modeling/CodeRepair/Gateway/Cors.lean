import CodeRepair.Http.Message

/-!
Which answers browsers may hand to pages of other origins.
-/
namespace CodeRepair.Gateway

open Http (Header Request Response)

inductive Cors
  | off
  | anyone
  | only (origins : List String)
  deriving DecidableEq, Repr

namespace Cors

/-- The origins that a configuration lets in. Those that cannot stand in a header are passed over. -/
def ofOrigins (origins : List String) : Cors :=
  if origins.isEmpty then .off
  else if origins.contains "*" then .anyone
  else .only (origins.filter Http.isHeaderValue)

def originHeaders (cors : Cors) (r : Request) : List Header :=
  let allow (origin : String) : List Header := [⟨"access-control-allow-origin", origin⟩]
  match cors with
  | .off => []
  | .anyone => allow "*"
  | .only origins =>
    match Http.header? r.headers "origin" with
    | some origin => if origins.contains origin then allow origin else []
    | none => []

def varyHeader : Header := ⟨"vary", "origin, access-control-request-method, access-control-request-headers"⟩

/-- The answer to a browser that asks in advance: every method and every header is let through. -/
def preflight (cors : Cors) (r : Request) : Response :=
  { status := 200, body := ""
    headers := cors.originHeaders r ++
      [varyHeader, ⟨"access-control-allow-methods", "*"⟩, ⟨"access-control-allow-headers", "*"⟩] }

/-- Whether a request is answered before it is looked at. -/
def intercepts (cors : Cors) (r : Request) : Bool := cors ≠ .off && r.method = "OPTIONS"

def mark (cors : Cors) (r : Request) (response : Response) : Response :=
  if cors = .off then response
  else { response with headers := response.headers ++ cors.originHeaders r ++ [varyHeader] }

end Cors

end CodeRepair.Gateway
