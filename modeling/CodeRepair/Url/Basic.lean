import CodeRepair.Url.Host

/-!
Addresses of services. Reading one mends what can be mended, so that dots, blanks, letters of other scripts and
backslashes in a path end up in the one form that is sent.
-/
namespace CodeRepair

/-- An address: on the web, or of another scheme, of which nothing is kept but the name. -/
inductive Url
  | web (secure : Bool) (host : Url.Host) (port : Option Nat) (path : List Char) (query : Option (List Char))
  | other (scheme : List Char)
  deriving DecidableEq, Repr

namespace Url

/-- Blanks and controls around an address do not count, and neither do line breaks and tabs inside. -/
def cleaned (text : String) : List Char :=
  let isEdge (c : Char) : Bool := c.toNat ≤ 0x20
  (Text.dropEndWhile isEdge (text.toList.dropWhile isEdge)).filter fun c ↦ c ≠ '\t' ∧ c ≠ '\n' ∧ c ≠ '\r'

def scheme? (cs : List Char) : Option (List Char × List Char) :=
  let name := cs.takeWhile fun c ↦ c.isAlphanum || c = '+' || c = '-' || c = '.'
  match name, cs.drop name.length with
  | first :: _, ':' :: rest => if first.isAlpha then some (name.map Char.toLower, rest) else none
  | _, _ => none

/-- The schemes whose addresses name a host and treat backslashes as slashes, apart from that of files. -/
def webSchemes : List String := ["http", "https", "ws", "wss", "ftp"]

/-- The port that goes without saying. -/
def defaultPort? (scheme : List Char) : Option Nat :=
  if scheme = "http".toList ∨ scheme = "ws".toList then some 80
  else if scheme = "https".toList ∨ scheme = "wss".toList then some 443
  else if scheme = "ftp".toList then some 21
  else none

def endsAuthority (web : Bool) (c : Char) : Bool := c = '/' || c = '?' || c = '#' || (web && c = '\\')

/-- Whether a user is named, and the text after the last `@` before the host ends. -/
def skipUser (web : Bool) (cs : List Char) : Except Fault (Bool × List Char) :=
  let authority := cs.takeWhile (!endsAuthority web ·)
  match Text.beforeLast? ['@'] authority with
  | none => .ok (false, cs)
  | some user =>
    let rest := cs.drop (user.length + 1)
    -- A lone mark may stand before a host, but not in place of one.
    if user.isEmpty ∧ rest.head?.any (endsAuthority web) then .error .emptyHost
    else .ok (!user.isEmpty && user ≠ [':'], rest)

/-- The characters up to the colon, outside of square brackets, or to the end of the host. -/
def hostLength (web inside : Bool) : List Char → Nat
  | [] => 0
  | c :: cs =>
    if (c = ':' && !inside) || endsAuthority web c then 0
    else 1 + hostLength web (c = '[' || (inside && c ≠ ']')) cs

def port (cs : List Char) : Except Fault (Option Nat × List Char) :=
  let digits := cs.takeWhile Char.isDigit
  let rest := cs.drop digits.length
  let n := Number.ofDigits 10 (digits.filterMap Number.digitValue?)
  if 65535 < n then .error .port
  else if rest.head?.all (endsAuthority true) then .ok (if digits.isEmpty then none else some n, rest)
  else .error .port

def authority (web : Bool) (cs : List Char) : Except Fault (Host × Option Nat × List Char) := do
  let (named, cs) ← skipUser web cs
  let text := cs.take (hostLength web false cs)
  let rest := cs.drop text.length
  let host ← if web then Host.parse text else Host.parseOpaque text
  if host = .domain [] ∧ (rest.head? = some ':' ∨ named) then throw .emptyHost
  match rest with
  | ':' :: rest =>
    let (n, rest) ← port rest
    return (host, n, rest)
  | rest => return (host, none, rest)

/-- A segment of a path that stands for the place itself, with `1`, or for the one above, with `2`. -/
def dots (segment : List Char) : Nat :=
  let rec count : List Char → Option Nat
    | [] => some 0
    | '.' :: rest => (count rest).map (· + 1)
    | '%' :: '2' :: e :: rest => if e = 'e' ∨ e = 'E' then (count rest).map (· + 1) else none
    | _ => none
  match count segment with
  -- Three dots are a name like any other.
  | some n => if n ≤ 2 then n else 0
  | none => 0

def isPathChar (c : Char) : Bool :=
  0x20 < c.toNat && c.toNat < 0x7F && !("\"#<>?`\x7b\x7d".toList.contains c)

def isQueryChar (c : Char) : Bool :=
  0x20 < c.toNat && c.toNat < 0x7F && !("\"#<>\x27".toList.contains c)

/-- The segments of a path after `done`, which is held backwards, with those that are dots carried out. -/
def resolve (done : List (List Char)) : List (List Char) → List (List Char)
  | [] => done.reverse
  | segment :: rest =>
    match dots segment with
    | 1 => resolve (if rest.isEmpty then [] :: done else done) rest
    -- At the end of a path, dots leave the slash before them.
    | 2 => resolve (if rest.isEmpty then [] :: done.tail else done.tail) rest
    | _ => resolve (percentEncode isPathChar segment :: done) rest

def normalPath (cs : List Char) : List Char :=
  let isSlash (c : Char) : Bool := c = '/' || c = '\\'
  let cs :=
    match cs with
    | c :: rest => if isSlash c then rest else cs
    | [] => []
  (resolve [] (Text.splitAt isSlash cs)).flatMap ('/' :: ·)

def pathAndQuery (cs : List Char) : List Char × Option (List Char) :=
  let cs := cs.takeWhile (· ≠ '#')
  let path := cs.takeWhile (· ≠ '?')
  match cs.drop path.length with
  | _ :: query => (normalPath path, some (percentEncode isQueryChar query))
  | [] => (normalPath path, none)

/-- The host of an address of a file has to be one, when it is there. -/
def checkFile (cs : List Char) : Except Fault Unit :=
  match cs with
  | a :: b :: rest =>
    if endsAuthority true a ∧ endsAuthority true b ∧ a ≠ '?' ∧ a ≠ '#' ∧ b ≠ '?' ∧ b ≠ '#' then
      let host := rest.takeWhile (!endsAuthority true ·)
      let isDrive : Bool := host.length = 2 && host.head?.any Char.isAlpha && (host[1]? = some ':' || host[1]? = some '|')
      if host.isEmpty ∨ isDrive then .ok () else (Host.parse host).map fun _ ↦ ()
    else .ok ()
  | _ => .ok ()

def parse (text : String) : Except Fault Url :=
  match scheme? (cleaned text) with
  | none => .error .noScheme
  | some (scheme, rest) =>
    if webSchemes.any (·.toList = scheme) then do
      let (host, port, rest) ← authority true (rest.dropWhile fun c ↦ c = '/' || c = '\\')
      let (path, query) := pathAndQuery rest
      -- A port that goes without saying is not written.
      let port := if port = defaultPort? scheme then none else port
      if scheme = "http".toList then return .web false host port path query
      else if scheme = "https".toList then return .web true host port path query
      else return .other scheme
    else if scheme = "file".toList then (checkFile rest).map fun _ ↦ .other scheme
    else
      match rest with
      | '/' :: '/' :: rest => (authority false rest).map fun _ ↦ .other scheme
      | _ => .ok (.other scheme)

end Url

end CodeRepair
