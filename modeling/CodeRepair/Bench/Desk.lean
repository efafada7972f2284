import CodeRepair.Bench.Station
import CodeRepair.CommandLine.Perform

/-!
A computer in memory as the system that the program is called on. All that comes from beyond it is given. It stands in
for an operating system, which is no part of the program; the theorems are about every system.
-/
namespace CodeRepair.Bench

open CommandLine (Desk)

variable {m : Type → Type} [Monad m]

/-- Whether a host is this computer or no computer in particular, if the host is known at all. -/
def isHere? (host : String) : Option Bool :=
  let inside := host.toList.filter fun c ↦ c ≠ '[' ∧ c ≠ ']'
  if host = "localhost" then some true
  else
    match Url.ipv4? host.toList, Url.ipv6? inside with
    | some n, _ => some (n = 0 || n / 0x1000000 = 127)
    | none, some pieces => some (pieces.take 7 = List.replicate 7 0 && pieces.drop 7 ∈ [[0], [1]])
    | none, none => none

def listen (taken : List Nat) (host : String) (port : Nat) : Except Gateway.ListenFault Unit :=
  match isHere? host with
  | none => .error .unknownHost
  | some false => .error .addressUnavailable
  | some true => if taken.contains port then .error .addressInUse else .ok ()

def Station.desk (input : String) (post : Posting → m Delivery) (now : m Time.Stamp) (bits : m Nat)
    (taken : List Nat) : Desk (StateT Station m) where
  toHost := Station.host
  valueOf name := do return ((← get).computer.environment.find? (·.1 = name)).map (·.2)
  post p := post p
  now := now
  bits := bits
  read := Station.readText
  save := Station.writeText
  prepare := Station.makeDirs
  input := return .ok input
  holds path := do
    let s ← get
    return s.computer.tree.holds s.dir path
  isFile path := do
    let s ← get
    match s.computer.tree.find s.dir path with
    | .ok (_, .file _ _) => return true
    | _ => return false
  accountHome := return some "/root"
  listen host port := return listen taken host port

end CodeRepair.Bench
