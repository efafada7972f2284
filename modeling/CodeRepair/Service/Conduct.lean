import CodeRepair.Service.Machine

/-!
A request served to its end, one call to the outside after the other.
-/
namespace CodeRepair

/-- What a service needs of the outside: someone who runs programs, someone who asks providers, and a clock. -/
structure Outside (m : Type → Type) where
  run : Language → String → m ExecutionResult
  ask : (role : Role) → Language → (code error : String) → m Answered
  now : m Time.Stamp

namespace Outside

variable {m : Type → Type} [Monad m]

/-- What a job in some phase waits for is done, which makes an action. An answered job waits for nothing. -/
def next (o : Outside m) (job : Nat) : Phase → m (Option Action)
  | .between _ | .waiting _ => return some (.proceed job)
  | .running _ language code => return some (.ran job (← o.run language code))
  | .askingPrimary f => return some (.answered job (← o.ask .primary f.language f.code f.result.errorSignal))
  | .askingFallback f _ => return some (.answered job (← o.ask .fallback f.language f.code f.result.errorSignal))
  | .answered _ => return none

def conduct (o : Outside m) (s : Settings) (job : Nat) : Nat → Machine → m Machine
  | 0, machine => return machine
  | fuel + 1, machine =>
    match machine.jobs[job]? with
    | none => return machine
    | some j => do
      match ← o.next job j.phase with
      | none => return machine
      | some action => o.conduct s job fuel (machine.step s (← o.now) action)

/-- More actions than any request takes: for each attempt one between attempts, its turn, its run and two calls
of providers, and one for the end. -/
def patience : Nat := 5 * maxAttemptsCeiling + 1

/-- A request is served while no other is. Every request is answered within the patience allowed. -/
def serve (o : Outside m) (s : Settings) (machine : Machine) (request : Request) (bits : Nat) :
    m (Option Answer × Machine) := do
  let job := machine.jobs.length
  let machine ← o.conduct s job patience (machine.step s (← o.now) (.arrive request bits))
  match machine.jobs[job]? with
  | some ⟨_, .answered answer⟩ => return (some answer, machine)
  | _ => return (none, machine)

end Outside

end CodeRepair
