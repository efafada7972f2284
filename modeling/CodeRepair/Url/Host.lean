import CodeRepair.Url.Domain

/-!
Hosts: a domain, or an address written in one of the ways that numbers allow.
-/
namespace CodeRepair.Url

/-- Why a text is no address. -/
inductive Fault
  | noScheme
  | emptyHost
  | domain
  | hostCharacter
  | port
  | ipv4
  | ipv6
  deriving DecidableEq, Repr

def Fault.message : Fault → String
  | .noScheme => "relative URL without a base"
  | .emptyHost => "empty host"
  | .domain => "invalid international domain name"
  | .hostCharacter => "invalid domain character"
  | .port => "invalid port number"
  | .ipv4 => "invalid IPv4 address"
  | .ipv6 => "invalid IPv6 address"

/-- Who is spoken to. -/
inductive Host
  | domain (name : List Char)
  | ipv4 (address : Nat)
  | ipv6 (pieces : List Nat)
  deriving DecidableEq, Repr

def numberIn? (base : Nat) (cs : List Char) : Option Nat := do
  let ds ← cs.mapM Number.hexValue?
  if ds.all (· < base) then some (Number.ofDigits base ds) else none

/-- One part of an IPv4 address: hexadecimal after `0x`, octal after `0`, else decimal. -/
def ipv4Part? : List Char → Option Nat
  | [] => none
  | '0' :: x :: rest => if x = 'x' ∨ x = 'X' then numberIn? 16 rest else numberIn? 8 (x :: rest)
  | cs => numberIn? 10 cs

def dottedParts (cs : List Char) : List (List Char) :=
  let parts := Text.splitAt (· = '.') cs
  if parts.getLast? = some [] then parts.dropLast else parts

/-- A domain whose last part is a number has to be an IPv4 address. -/
def endsInNumber (cs : List Char) : Bool :=
  match (dottedParts cs).getLast? with
  | some last => !last.isEmpty && last.all Char.isDigit || (ipv4Part? last).isSome
  | none => false

/-- The address that up to four numbers make. The last one fills what the others leave. -/
def ipv4Of? (numbers : List Nat) : Option Nat :=
  let before := numbers.dropLast
  match numbers.getLast? with
  | some last =>
    if numbers.length ≤ 4 ∧ before.all (· ≤ 255) ∧ last < Nat.pow 256 (5 - numbers.length) then
      some (before.foldl (fun n part ↦ 256 * n + part) 0 * Nat.pow 256 (5 - numbers.length) + last)
    else none
  | none => none

def ipv4? (cs : List Char) : Option Nat := do ipv4Of? (← (dottedParts cs).mapM ipv4Part?)

def plainByte? (cs : List Char) : Option Nat := do
  let n ← Number.decimal? cs
  if n ≤ 255 ∧ (cs.length = 1 ∨ cs.head? ≠ some '0') then some n else none

def ipv6Pieces? (mayEnd : Bool) (cs : List Char) : Option (List Nat) :=
  if cs.isEmpty then some [] else
  let groups := Text.splitAt (· = ':') cs
  let piece? (group : List Char) : Option Nat :=
    if group.isEmpty ∨ 4 < group.length then none else numberIn? 16 group
  match groups.getLast? with
  | some last =>
    if mayEnd ∧ last.contains '.' then do
      match ← (Text.splitAt (· = '.') last).mapM plainByte? with
      | [a, b, c, d] => return (← groups.dropLast.mapM piece?) ++ [256 * a + b, 256 * c + d]
      | _ => none
    else groups.mapM piece?
  | none => none

/-- An IPv6 address. A gap, written `::`, stands for at least one piece. -/
def ipv6? (cs : List Char) : Option (List Nat) :=
  match Text.splitFirst? [':', ':'] cs with
  | some (before, after) => do
    let first ← ipv6Pieces? false before
    let last ← ipv6Pieces? true after
    if first.length + last.length ≤ 7 then
      some (first ++ List.replicate (8 - first.length - last.length) 0 ++ last)
    else none
  | none => do
    let pieces ← ipv6Pieces? true cs
    if pieces.length = 8 then some pieces else none

def bracketed? (cs : List Char) : Except Fault Host :=
  match cs.getLast?, ipv6? (cs.drop 1).dropLast with
  | some ']', some pieces => .ok (.ipv6 pieces)
  | _, _ => .error .ipv6

def Host.parse (cs : List Char) : Except Fault Host :=
  if cs.isEmpty then .error .emptyHost
  else if cs.head? = some '[' then bracketed? cs
  else
    match domain? cs with
    | none => .error .domain
    | some [] => .error .emptyHost
    | some name =>
      if endsInNumber name then
        match ipv4? name with
        | some address => .ok (.ipv4 address)
        | none => .error .ipv4
      else .ok (.domain name)

def Host.parseOpaque (cs : List Char) : Except Fault Host :=
  if cs.head? = some '[' then bracketed? cs
  else if cs.any fun c ↦ c.toNat = 0 || " #/:<>?@[\\]^|".toList.contains c then .error .hostCharacter
  else .ok (.domain cs)

end CodeRepair.Url
