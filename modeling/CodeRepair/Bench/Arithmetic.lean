import CodeRepair.Bench.Format

/-!
Integer expressions of a shell. Words have 64 bits; what does not fit wraps around. They are part of the stand-in for
the shell of a system.
-/
namespace CodeRepair.Bench.Arithmetic

inductive Token
  | number (n : Int)
  | name (s : String)
  | operator (s : String)
  deriving DecidableEq, Repr, Inhabited

def operators : List String :=
  ["<<=", ">>=", "||", "&&", "==", "!=", "<=", ">=", "<<", ">>", "+=", "-=", "*=", "/=", "%=", "|", "^", "&", "<", ">",
   "+", "-", "*", "/", "%", "!", "~", "(", ")", "=", "?", ":"]

/-- The binary operators, those that bind loosest first. -/
def levels : List (List String) :=
  [["||"], ["&&"], ["|"], ["^"], ["&"], ["==", "!="], ["<", ">", "<=", ">="], ["<<", ">>"], ["+", "-"], ["*", "/", "%"]]

def tokens? : Nat → List Char → Option (List Token)
  | 0, _ => none
  | _, [] => some []
  | n + 1, c :: cs =>
    if c = ' ' ∨ c = '\t' ∨ c = '\n' then tokens? n cs
    else if c.isDigit then
      let (value, rest) := leadingInt (c :: cs)
      (tokens? n rest).map (.number value :: ·)
    else if c.isAlpha ∨ c = '_' then
      let name := (c :: cs).takeWhile fun c ↦ c.isAlphanum || c = '_'
      (tokens? n ((c :: cs).drop name.length)).map (.name (String.ofList name) :: ·)
    else
      match operators.find? fun o ↦ o.toList.isPrefixOf (c :: cs) with
      | some o => (tokens? n ((c :: cs).drop o.length)).map (.operator o :: ·)
      | none => none

def wrap (n : Int) : Int := n.bmod (Nat.pow 2 64)

def truth (b : Bool) : Int := if b then 1 else 0

/-- The value of a binary operator; none for a division by zero. -/
def compute? (operator : String) (a b : Int) : Option Int :=
  match operator with
  | "||" => some (truth (a ≠ 0 || b ≠ 0))
  | "&&" => some (truth (a ≠ 0 && b ≠ 0))
  | "|" => some (BitVec.toInt (BitVec.ofInt 64 a ||| BitVec.ofInt 64 b))
  | "^" => some (BitVec.toInt (BitVec.ofInt 64 a ^^^ BitVec.ofInt 64 b))
  | "&" => some (BitVec.toInt (BitVec.ofInt 64 a &&& BitVec.ofInt 64 b))
  | "==" => some (truth (a = b))
  | "!=" => some (truth (a ≠ b))
  | "<" => some (truth (a < b))
  | ">" => some (truth (b < a))
  | "<=" => some (truth (a ≤ b))
  | ">=" => some (truth (b ≤ a))
  | "<<" => some (wrap (a * Nat.pow 2 (b.toNat % 64)))
  | ">>" => some (Int.fdiv a (Nat.pow 2 (b.toNat % 64)))
  | "+" => some (wrap (a + b))
  | "-" => some (wrap (a - b))
  | "*" => some (wrap (a * b))
  | "/" => if b = 0 then none else some (Int.tdiv a b)
  | "%" => if b = 0 then none else some (Int.tmod a b)
  | _ => none

abbrev Values := List (String × Int)

/-- What an expression is worth, what is left of it, and the variables after it; or what is wrong. -/
abbrev Outcome := Except String (Int × List Token × Values)

def valueOf (vs : Values) (name : String) : Int := ((vs.find? (·.1 = name)).map (·.2)).getD 0

mutual

def whole : Nat → List Token → Values → Outcome
  | 0, _, _ => .error "expecting primary"
  | n + 1, ts, vs =>
    match ts with
    | .name x :: .operator "=" :: rest => do
      let (v, rest, vs) ← whole n rest vs
      return (v, rest, (x, v) :: vs)
    | .name x :: .operator o :: rest =>
      -- An operator with an equals sign assigns, apart from those that compare.
      if o.length ≥ 2 ∧ o.endsWith "=" ∧ !(["==", "!=", "<=", ">="].contains o) then do
        let (v, rest, vs) ← whole n rest vs
        match compute? (o.dropEnd 1).toString (valueOf vs x) v with
        | some v => return (v, rest, (x, v) :: vs)
        | none => throw "division by zero"
      else choice n ts vs
    | _ => choice n ts vs

def choice : Nat → List Token → Values → Outcome
  | 0, _, _ => .error "expecting primary"
  | n + 1, ts, vs => do
    let (c, rest, vs) ← binary n levels ts vs
    match rest with
    | .operator "?" :: rest =>
      let (a, rest, vs) ← whole n rest vs
      match rest with
      | .operator ":" :: rest =>
        let (b, rest, vs) ← choice n rest vs
        return (if c ≠ 0 then a else b, rest, vs)
      | _ => throw "expecting ':'"
    | _ => return (c, rest, vs)

def binary : Nat → List (List String) → List Token → Values → Outcome
  | 0, _, _, _ => .error "expecting primary"
  | n + 1, [], ts, vs => unary n ts vs
  | n + 1, level :: tighter, ts, vs => do
    let (a, rest, vs) ← binary n tighter ts vs
    binaryAfter n level tighter a rest vs

def binaryAfter : Nat → List String → List (List String) → Int → List Token → Values → Outcome
  | 0, _, _, _, _, _ => .error "expecting primary"
  | n + 1, level, tighter, a, ts, vs =>
    match ts with
    | .operator o :: rest =>
      if level.contains o then do
        let (b, rest, vs) ← binary n tighter rest vs
        match compute? o a b with
        | some v => binaryAfter n level tighter v rest vs
        | none => throw "division by zero"
      else .ok (a, ts, vs)
    | _ => .ok (a, ts, vs)

def unary : Nat → List Token → Values → Outcome
  | 0, _, _ => .error "expecting primary"
  | n + 1, ts, vs =>
    match ts with
    | .number v :: rest => .ok (wrap v, rest, vs)
    | .name x :: rest => .ok (valueOf vs x, rest, vs)
    | .operator "(" :: rest => do
      let (v, rest, vs) ← whole n rest vs
      match rest with
      | .operator ")" :: rest => return (v, rest, vs)
      | _ => throw "expecting ')'"
    | .operator "-" :: rest => do
      let (v, rest, vs) ← unary n rest vs
      return (wrap (-v), rest, vs)
    | .operator "+" :: rest => unary n rest vs
    | .operator "!" :: rest => do
      let (v, rest, vs) ← unary n rest vs
      return (truth (v = 0), rest, vs)
    | .operator "~" :: rest => do
      let (v, rest, vs) ← unary n rest vs
      return (-v - 1, rest, vs)
    | _ => .error "expecting primary"

end

/-- The value of an expression, and the variables that it assigned, the last first. -/
def evaluate (expression : String) (lookup : String → Option String) : Except String (Int × Values) :=
  let cs := expression.toList
  match tokens? (cs.length + 1) cs with
  | none => .error "expecting primary"
  | some [] => .ok (0, [])
  | some ts => do
    -- All variables that are named have a value from the start, and assignments go before them.
    let names := (ts.filterMap fun | .name x => some x | _ => none).eraseDups
    let start : Values := names.map fun x ↦ (x, (((lookup x).bind fun s ↦
      if s.isEmpty then none else some (leadingInt s.toList).1)).getD 0)
    let (v, rest, vs) ← whole (20 * ts.length + 40) ts start
    if rest.isEmpty then return (v, vs.take (vs.length - start.length)) else throw "expecting EOF"

end CodeRepair.Bench.Arithmetic
