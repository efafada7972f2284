/-!
Patterns that texts are matched against: those of file names, and those of text tools. They belong to the stand-ins for
the shell and the tools of a system.
-/
namespace CodeRepair.Bench

def inBracket (members : List Char) (c : Char) : Bool :=
  match members with
  | a :: '-' :: b :: rest => (a ≤ c && c ≤ b) || inBracket rest c
  | a :: rest => a = c || inBracket rest c
  | [] => false

/-- The members of a bracket, whether it is of those or of all others, and what follows it. -/
def bracket? (cs : List Char) : Option (Bool × List Char × List Char) :=
  let (negated, cs) :=
    match cs with
    | '!' :: rest | '^' :: rest => (true, rest)
    | _ => (false, cs)
  let (first, rest) :=
    match cs with
    | ']' :: rest => ([']'], rest)
    | _ => ([], cs)
  let inner := rest.takeWhile (· ≠ ']')
  match rest.drop inner.length with
  | _ :: after => some (negated, first ++ inner, after)
  | [] => none

inductive Glob
  | char (c : Char)
  | any
  | many
  | oneOf (negated : Bool) (members : List Char)
  deriving DecidableEq, Repr

namespace Glob

def ofChars : Nat → List (Char × Bool) → List Glob
  | 0, _ => []
  | _, [] => []
  | n + 1, (c, true) :: cs => .char c :: ofChars n cs
  | n + 1, ('*', false) :: cs => .many :: ofChars n cs
  | n + 1, ('?', false) :: cs => .any :: ofChars n cs
  | n + 1, ('[', false) :: cs =>
    match bracket? (cs.map (·.1)) with
    | some (negated, members, after) => .oneOf negated members :: ofChars n (cs.drop (cs.length - after.length))
    | none => .char '[' :: ofChars n cs
  | n + 1, (c, false) :: cs => .char c :: ofChars n cs

def accepts : List Glob → List Char → Bool
  | [], cs => cs.isEmpty
  | .char c :: ps, x :: cs => c = x && accepts ps cs
  | .any :: ps, _ :: cs => accepts ps cs
  | .oneOf negated members :: ps, x :: cs => inBracket members x != negated && accepts ps cs
  | .many :: ps, [] => accepts ps []
  | .many :: ps, x :: cs => accepts ps (x :: cs) || accepts (.many :: ps) cs
  | _, [] => false
termination_by ps cs => ps.length + cs.length

def isPlain (ps : List Glob) : Bool := ps.all fun | .char _ => true | _ => false

end Glob

inductive CharClass
  | char (c : Char)
  | any
  | oneOf (negated : Bool) (members : List Char)
  deriving DecidableEq, Repr

/-- One part of such a pattern: a character, or as many as possible of at least so many. -/
inductive RegexPart
  | one (u : CharClass)
  | many (least : Nat) (u : CharClass)
  | maybe (u : CharClass)
  | start
  | finish
  | openGroup
  | closeGroup
  deriving DecidableEq, Repr

namespace CharClass

def accepts (u : CharClass) (c : Char) : Bool :=
  match u with
  | char x => x = c
  | any => c ≠ '\n'
  | oneOf negated members => inBracket members c != negated

end CharClass

namespace RegexPart

def ofChars (extended : Bool) : Nat → List Char → List RegexPart
  | 0, _ => []
  | _, [] => []
  | n + 1, '^' :: cs => .start :: ofChars extended n cs
  | _ + 1, ['$'] => [.finish]
  | n + 1, '.' :: cs => repeated n .any cs
  | n + 1, '[' :: cs =>
    match bracket? cs with
    | some (negated, members, after) => repeated n (.oneOf negated members) after
    | none => repeated n (.char '[') cs
  | n + 1, '\\' :: '(' :: cs => if extended then repeated n (.char '(') cs else .openGroup :: ofChars extended n cs
  | n + 1, '\\' :: ')' :: cs => if extended then repeated n (.char ')') cs else .closeGroup :: ofChars extended n cs
  | n + 1, '\\' :: 'n' :: cs => repeated n (.char '\n') cs
  | n + 1, '\\' :: 't' :: cs => repeated n (.char '\t') cs
  | n + 1, '\\' :: c :: cs => repeated n (.char c) cs
  | n + 1, '(' :: cs => if extended then .openGroup :: ofChars extended n cs else repeated n (.char '(') cs
  | n + 1, ')' :: cs => if extended then .closeGroup :: ofChars extended n cs else repeated n (.char ')') cs
  | n + 1, c :: cs => repeated n (.char c) cs
where
  repeated (n : Nat) (u : CharClass) (cs : List Char) : List RegexPart :=
    match cs with
    | '*' :: cs => .many 0 u :: ofChars extended n cs
    | '\\' :: '+' :: rest => if extended then .one u :: ofChars extended n cs else .many 1 u :: ofChars extended n rest
    | '\\' :: '?' :: rest => if extended then .one u :: ofChars extended n cs else .maybe u :: ofChars extended n rest
    | '+' :: rest => if extended then .many 1 u :: ofChars extended n rest else .one u :: ofChars extended n cs
    | '?' :: rest => if extended then .maybe u :: ofChars extended n rest else .one u :: ofChars extended n cs
    | _ => .one u :: ofChars extended n cs

/-- A match: how many characters it has, and where its groups begin or end, in order. -/
structure Match where
  length : Nat
  marks : List Nat
  deriving Repr

def matchFrom : Nat → Nat → List RegexPart → List Char → Option Match
  | 0, _, _, _ => none
  | _, at_, [], _ => some ⟨at_, []⟩
  | n + 1, at_, .start :: ps, cs => if at_ = 0 then matchFrom n at_ ps cs else none
  | n + 1, at_, .finish :: ps, cs => if cs.isEmpty then matchFrom n at_ ps cs else none
  | n + 1, at_, .openGroup :: ps, cs | n + 1, at_, .closeGroup :: ps, cs =>
    (matchFrom n at_ ps cs).map fun m ↦ { m with marks := at_ :: m.marks }
  | n + 1, at_, .one u :: ps, c :: cs => if u.accepts c then matchFrom n (at_ + 1) ps cs else none
  | _, _, .one _ :: _, [] => none
  | n + 1, at_, .maybe u :: ps, cs =>
    let without := matchFrom n at_ ps cs
    match cs with
    | c :: cs => if u.accepts c then matchFrom n (at_ + 1) ps cs <|> without else without
    | [] => without
  | n + 1, at_, .many least u :: ps, cs =>
    let without := if least = 0 then matchFrom n at_ ps cs else none
    match cs with
    | c :: cs => if u.accepts c then matchFrom n (at_ + 1) (.many (least - 1) u :: ps) cs <|> without else without
    | [] => without

def search? (ps : List RegexPart) (from_ : Nat) : List Char → Option (Nat × Match)
  | [] => (matchFrom (ps.length + 1) from_ ps []).map fun m ↦ (from_, m)
  | c :: cs =>
    match matchFrom (ps.length + (c :: cs).length + 1) from_ ps (c :: cs) with
    | some m => some (from_, m)
    | none => search? ps (from_ + 1) cs

def groups (text : List Char) : List Nat → List (List Char)
  | a :: b :: rest => (text.take b).drop a :: groups text rest
  | _ => []

end RegexPart

end CodeRepair.Bench
