import CodeRepair.Session.Key
import CodeRepair.Session.Record

/-!
The registered sessions by key, with a bound on the paced ones. Every session that was ever registered stays in
`handles`, where its drivers find it by its place; `entries` says which of them are registered now.
-/
namespace CodeRepair

/-- How a session is driven: to the end by one caller, or one attempt per request until it is deleted. -/
inductive Mode
  | batch
  | paced
  deriving DecidableEq, Repr, Inhabited

/-- A session with what its drivers share. -/
structure Handle where
  id : String
  mode : Mode
  session : Session
  cancelled : Bool
  /-- The caller's token, which cancels the session too. -/
  caller : Option Nat
  /-- The drivers that have, or wait for, the right to run an attempt; the first one has it. -/
  turns : List Nat
  deriving Repr, Inhabited

/-- All sessions, and those that are registered. -/
structure Registry where
  handles : List Handle
  entries : List (String × Nat)
  capacity : Nat
  deriving Repr, Inhabited

namespace Registry

def empty (capacity : Nat) : Registry := ⟨[], [], capacity⟩

def find? (r : Registry) (key : String) : Option Nat := (r.entries.find? (·.1 = key)).map (·.2)

def registered (r : Registry) : List Handle := r.entries.filterMap fun e ↦ r.handles[e.2]?

def count (r : Registry) : Nat := r.entries.length

def pacedCount (r : Registry) : Nat := (r.registered.filter (·.mode = .paced)).length

/-- Registers a session, in the place of one with the same key. -/
def insert (r : Registry) (session : Session) (mode : Mode) (caller : Option Nat) :
    Except SessionError (Nat × Registry) := do
  let key ← (SessionKey.normalize session.id).mapError .invalidId
  if mode = .paced ∧ r.capacity ≤ r.pacedCount then throw (.capacityReached r.capacity)
  let place := r.handles.length
  -- An older session with this key keeps its place, where its drivers find it, and loses the key.
  return (place,
    { r with
      handles := r.handles ++ [⟨session.id, mode, session, false, caller, []⟩]
      entries := r.entries.filter (·.1 ≠ key) ++ [(key, place)] })

def lookup (r : Registry) (id : String) : Except SessionError Nat := do
  let key ← (SessionKey.normalize id).mapError .invalidId
  match r.find? key with
  | some place => return place
  | none => throw (.notFound key)

def modify (r : Registry) (place : Nat) (f : Handle → Handle) : Registry :=
  { r with handles := r.handles.modify place f }

/-- Takes the session that an id spells off the register and cancels its token. -/
def remove (r : Registry) (id : String) : Except SessionError (Nat × Registry) := do
  let key ← (SessionKey.normalize id).mapError .invalidId
  match r.find? key with
  | some place =>
    return (place,
      { r with entries := r.entries.filter (·.1 ≠ key) }.modify place fun h ↦ { h with cancelled := true })
  | none => throw (.notFound key)

def insertNewest (h : Handle) : List Handle → List Handle
  | [] => [h]
  | x :: rest =>
    -- Sessions that started at one time stay in the order in which they were registered.
    if x.session.startedAt.isBefore h.session.startedAt then h :: x :: rest else x :: insertNewest h rest

def newestFirst (r : Registry) : List Handle := r.registered.foldl (fun sorted h ↦ insertNewest h sorted) []

def list (r : Registry) (now : Time.Stamp) : List Summary := r.newestFirst.map (·.session.summary now)

end Registry

end CodeRepair
