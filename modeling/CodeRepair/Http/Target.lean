import CodeRepair.Http.MediaType

/-!
Which texts can be the method and the target in the first line of a request.
-/
namespace CodeRepair.Http

def isToken (s : String) : Bool := s ≠ "" && s.toList.all isTokenChar

/-- A character that a path may hold. More are let through than should be, but no blanks and no controls. -/
def isPathChar (c : Char) : Bool :=
  0x20 < c.toNat && c.toNat ≠ 0x7F && !("#<>?".toList.contains c) && c ≠ Char.ofNat 0x60

def isQueryChar (c : Char) : Bool := 0x20 < c.toNat && c.toNat ≠ 0x7F && !("\"#<>".toList.contains c)

def isServerChar (c : Char) : Bool := c.isAlphanum || "-._~!$&'()*+,;=:%@[]".toList.contains c

def isSchemeChar (c : Char) : Bool := c.isAlphanum || "+-.~".toList.contains c

/-- What has been seen of the name of a server. Colons and percent signs count from the user or from the closing
bracket on, because the ones before it are no part of a port. -/
structure ServerScan where
  colons : Nat
  percent : Bool
  opened : Bool
  closed : Bool

/-- One more character of the name of a server, unless it may not follow. -/
def ServerScan.step (s : ServerScan) (c : Char) : Option ServerScan :=
  if !isServerChar c then none
  else if c = ':' then if s.colons < 8 then some { s with colons := s.colons + 1 } else none
  else if c = '%' then some { s with percent := true }
  else if c = '@' then some { s with colons := 0, percent := false }
  else if c = '[' then if s.percent || s.opened then none else some { s with opened := true }
  else if c = ']' then
    if s.opened && !s.closed then some { s with colons := 0, percent := false, closed := true } else none
  else some s

/-- Whether a text names a server: a user before an `@` if there is one, a name or an address in brackets, and a
port after a colon. What the port is made of does not count. -/
def isServer (cs : List Char) : Bool :=
  match cs.foldlM ServerScan.step ⟨0, false, false, false⟩ with
  | some s => !cs.isEmpty && s.opened = s.closed && s.colons ≤ 1 && !s.percent && cs.getLast? ≠ some '@'
  | none => false

/-- A path with a query. A fragment after it is cut off. -/
def pathAndQuery? (cs : List Char) : Option (List Char) :=
  let cs := cs.takeWhile (· ≠ '#')
  let path := cs.takeWhile (· ≠ '?')
  let query := cs.drop path.length
  if path.all isPathChar ∧ (query.drop 1).all isQueryChar then some cs else none

def maxSchemeLength : Nat := 64

/-- The scheme that a text starts with, which may be empty, and what follows the two slashes after it. -/
def splitScheme? (cs : List Char) : Option (List Char × List Char) :=
  let scheme := cs.takeWhile isSchemeChar
  match cs.drop scheme.length with
  | ':' :: '/' :: '/' :: rest => some (scheme, rest)
  | _ => none

def maxTargetLength : Nat := 65534

/-- The path and the query that a text asks for, which may name the server before them. A server named alone has
neither. -/
def target? (s : String) : Option String :=
  if maxTargetLength < s.utf8ByteSize then none else
  match s.toList with
  | [] => none
  | ['*'] => some "*"
  | '/' :: _ => (pathAndQuery? s.toList).map String.ofList
  | cs =>
    match splitScheme? cs with
    | some (scheme, rest) =>
      let server := rest.takeWhile fun c ↦ c ≠ '/' ∧ c ≠ '?' ∧ c ≠ '#'
      if scheme.length ≤ maxSchemeLength ∧ isServer server then do
        let path ← pathAndQuery? (rest.drop server.length)
        return String.ofList (if path.head? = some '/' then path else '/' :: path)
      else none
    | none => if isServer cs then some "" else none

end CodeRepair.Http
