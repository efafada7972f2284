import CodeRepair.Bench.Format
import CodeRepair.Bench.Process
import CodeRepair.Text.Blank

/-!
Conditions on files, texts and numbers. Whether a word is an operator depends on what follows it, and the number
of words decides about the shortest conditions. This stands in for a tool of the system.
-/
namespace CodeRepair.Bench.Condition

inductive Part
  | unary
  | binary
  | negation
  | conjunction
  | disjunction
  | opening
  | closing
  deriving DecidableEq, Repr

def part? (word : String) : Option Part :=
  if ["-r", "-w", "-x", "-e", "-f", "-d", "-c", "-b", "-p", "-u", "-g", "-k", "-s", "-t", "-z", "-n", "-h", "-L", "-O",
      "-G", "-S"].contains word then some .unary
  else if ["=", "!=", "<", ">", "-eq", "-ne", "-ge", "-gt", "-le", "-lt", "-nt", "-ot", "-ef"].contains word then
    some .binary
  else if word = "!" then some .negation
  else if word = "-a" then some .conjunction
  else if word = "-o" then some .disjunction
  else if word = "(" then some .opening
  else if word = ")" then some .closing
  else none

inductive Token
  | nothing
  | operand
  | operator (part : Part) (word : String)
  deriving DecidableEq, Repr

/-- Whether a unary operator is meant as an operand, by the words after it. -/
def isOperand : List String → Bool
  | [] => true
  | [_] => false
  | word :: _ => part? word = some .binary

def token : List String → Token
  | [] => .nothing
  | word :: rest =>
    match part? word with
    | none => .operand
    | some .unary => if isOperand rest then .operand else .operator .unary word
    | some .opening => if rest.isEmpty then .operand else .operator .opening word
    | some part => .operator part word

def testFile (p : Process) (letter : Char) (path : String) : Bool :=
  match p.computer.tree.find p.dir path with
  | .error _ => false
  | .ok (_, node) =>
    match letter, node with
    | 'e', _ | 'r', _ | 'w', _ | 'O', _ | 'G', _ => true
    | 'f', .file _ _ => true
    | 'd', .directory | 'd', .sealed | 'x', .directory | 'x', .sealed => true
    | 's', .file bytes _ => !bytes.isEmpty
    | 's', .directory => true
    | 'x', .file _ executable => executable
    | 'c', .sink | 'c', .zeros => true
    | _, _ => false

def number (word : String) : Except String Int :=
  match plainInt? (Text.trimmed word) with
  | some n => if -(Nat.pow 2 63) ≤ n ∧ n < Nat.pow 2 63 then .ok n else .error ("Illegal number: " ++ word)
  | none => .error ("Illegal number: " ++ word)

def unary (p : Process) (operator word : String) : Except String Bool :=
  match operator.toList with
  | ['-', 'z'] => .ok word.isEmpty
  | ['-', 'n'] => .ok (!word.isEmpty)
  | ['-', 't'] => (number word).map fun _ ↦ false
  | ['-', c] => .ok (testFile p c word)
  | _ => .ok false

def binary (p : Process) (a operator b : String) : Except String Bool :=
  let compare (f : Int → Int → Bool) : Except String Bool := do return f (← number a) (← number b)
  match operator with
  | "=" => .ok (a = b)
  | "!=" => .ok (a ≠ b)
  | "<" => .ok (a < b)
  | ">" => .ok (b < a)
  | "-eq" => compare fun x y ↦ x = y
  | "-ne" => compare fun x y ↦ x ≠ y
  | "-lt" => compare fun x y ↦ x < y
  | "-le" => compare fun x y ↦ x ≤ y
  | "-gt" => compare fun x y ↦ y < x
  | "-ge" => compare fun x y ↦ y ≤ x
  | "-ef" =>
    match p.computer.tree.find p.dir a, p.computer.tree.find p.dir b with
    | .ok (x, _), .ok (y, _) => .ok (x = y)
    | _, _ => .ok false
  | _ => .ok false

mutual

/-- Conditions of which one has to hold. The words that are left begin with the last one that was read. -/
def disjunction (p : Process) (t : Token) (words : List String) : Nat → Except String (Bool × List String)
  | 0 => .ok (false, [])
  | fuel + 1 => do
    let (a, words) ← conjunction p t words fuel
    match token (words.drop 1) with
    | .operator .disjunction _ =>
      let words := words.drop 2
      let (b, words) ← disjunction p (token words) words fuel
      return (a || b, words)
    | _ => return (a, words)

def conjunction (p : Process) (t : Token) (words : List String) : Nat → Except String (Bool × List String)
  | 0 => .ok (false, [])
  | fuel + 1 => do
    let (a, words) ← negation p t words fuel
    match token (words.drop 1) with
    | .operator .conjunction _ =>
      let words := words.drop 2
      let (b, words) ← conjunction p (token words) words fuel
      return (a && b, words)
    | _ => return (a, words)

def negation (p : Process) (t : Token) (words : List String) : Nat → Except String (Bool × List String)
  | 0 => .ok (false, [])
  | fuel + 1 =>
    match t with
    | .operator .negation _ => do
      let next := token (words.drop 1)
      let (a, words) ← negation p next (if next = .nothing then words else words.drop 1) fuel
      return (!a, words)
    | _ => primary p t words fuel

def primary (p : Process) (t : Token) (words : List String) : Nat → Except String (Bool × List String)
  | 0 => .ok (false, [])
  | fuel + 1 =>
    match t with
    | .nothing => .ok (false, words)
    | .operator .opening _ => do
      let inner := words.drop 1
      match token inner with
      | .operator .closing _ => return (false, inner)
      | next =>
        let (a, words) ← disjunction p next inner fuel
        match token (words.drop 1) with
        | .operator .closing _ => return (a, words.drop 1)
        | _ => throw "closing paren expected"
    | .operator .unary operator =>
      match words.drop 1 with
      | [] => .error (operator ++ ": argument expected")
      | word :: rest => do return (← unary p operator word, word :: rest)
    | _ =>
      match token (words.drop 1) with
      | .operator .binary operator =>
        match words.drop 2 with
        | [] => .error (operator ++ ": argument expected")
        | word :: rest => do return (← binary p (words.headD "") operator word, word :: rest)
      | _ => .ok (!(words.headD "").isEmpty, words)

end

/-- A condition whose first word counts as a token, with nothing after it. -/
def whole (p : Process) (t : Token) (words : List String) : Except String Bool := do
  let (a, rest) ← disjunction p t words (4 * words.length + 8)
  match rest with
  | word :: _ :: _ => throw (if word.isEmpty then "unexpected operator" else word ++ ": unexpected operator")
  | _ => return a

def holds (p : Process) : List String → Except String Bool
  | [] => .ok false
  | ["!", a, b, c] => do return !(← three a b c)
  | ["(", a, b, ")"] => whole p (token [a, b]) [a, b]
  | [a, b, c] => three a b c
  | words => whole p (token words) words
where
  /-- Between two words a binary operator is always one. -/
  three (a b c : String) : Except String Bool :=
    if part? b = some .binary then whole p .operand [a, b, c]
    else if a = "(" ∧ c = ")" then whole p (token [b]) [b]
    else if a = "!" then do return !(← whole p (token [b, c]) [b, c])
    else whole p (token [a, b, c]) [a, b, c]

end CodeRepair.Bench.Condition
