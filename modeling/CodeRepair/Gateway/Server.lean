import CodeRepair.Gateway.Router
import CodeRepair.Service.Basic

/-!
A gateway that answers one request after the other.
-/
namespace CodeRepair.Gateway

inductive ListenFault
  | addressInUse
  | addressUnavailable
  | unknownHost
  deriving DecidableEq, Repr

def ListenFault.message : ListenFault → String
  | addressInUse => "Address already in use (os error 98)"
  | addressUnavailable => "Cannot assign requested address (os error 99)"
  | unknownHost => "failed to lookup address information: Name or service not known"

/-- A gateway with the service behind it, all that is under way in it, and the number of requests so far. -/
structure Server where
  service : Service
  machine : Machine
  received : Nat

namespace Server

def start (service : Service) : Server := ⟨service, .start service.settings, 0⟩

variable {m : Type → Type} [Monad m]

/-- What a request is answered with, before the answer is marked for its sender. -/
def respond (server : Server) (around : Surroundings m) (r : Http.Request) : m (Http.Response × Machine) := do
  let settings := server.service.settings
  match receive settings server.machine.registry server.received r with
  | .respond response => return (response, server.machine)
  | .ask request created =>
    let (answer, machine) ←
      (server.service.outside around).serve settings server.machine request (← around.bits)
    match answer with
    | some answer => return (reply created answer, machine)
    -- Not reached while the budget of steps suffices for the request.
    | none => return (respondEmpty 500, machine)

def answer (server : Server) (around : Surroundings m) (r : Http.Request) : m (Http.Response × Server) := do
  let (response, machine) ← server.respond around r
  return (send server.service.settings r response, { server with machine, received := server.received + 1 })

end Server

end CodeRepair.Gateway
