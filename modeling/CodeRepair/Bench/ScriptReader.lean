import CodeRepair.Bench.Script
import CodeRepair.Text.Search

/-!
Reads shell scripts. A fault is told with its line and in the words of the usual shells, for which this one stands in.
-/
namespace CodeRepair.Bench

abbrev ScriptFault := Nat × String

/-- What is left of a script, and the number of the line it starts in. -/
structure ScriptCursor where
  rest : List Char
  line : Nat
  deriving Repr, Inhabited

abbrev Reading := StateT ScriptCursor (Except ScriptFault)

inductive Token
  | ended
  | newline
  | operator (text : String)
  | redirect (descriptor : Option Nat) (text : String)
  | word (w : Word)

instance : Inhabited Token := ⟨.ended⟩

inductive Around
  | blanks
  | quotes
  | braces (quoted : Bool)
  | document
  | arithmetic (depth : Nat)
  deriving DecidableEq, Repr

namespace Reading

def fail {α : Type} (message : String) : Reading α := fun c ↦ .error (c.line, "Syntax error: " ++ message)

def failPlainly {α : Type} (message : String) : Reading α := fun c ↦ .error (c.line, message)

def rest : Reading (List Char) := return (← get).rest

def skip (n : Nat) : Reading Unit :=
  modify fun c ↦ ⟨c.rest.drop n, c.line + (c.rest.take n).count '\n'⟩

def takeWhile (p : Char → Bool) : Reading (List Char) := do
  let cs := (← rest).takeWhile p
  skip cs.length
  return cs

end Reading

def endsWord (c : Char) : Bool := " \t\n;&|<>()".toList.contains c

def beginsName (c : Char) : Bool := c.isAlpha || c = '_'

def inName (c : Char) : Bool := c.isAlphanum || c = '_'

/-- The mark that encloses a script in a word, as an old way of writing. -/
def backquote : Char := Char.ofNat 0x60

def isSpecial (c : Char) : Bool := c.isDigit || "@*#?$!-".toList.contains c

def reservedWords : List String :=
  ["!", "case", "do", "done", "elif", "else", "esac", "fi", "for", "if", "in", "then", "until", "while", "\x7b", "\x7d"]

def closingWords : List String := ["then", "else", "elif", "fi", "do", "done", "esac", "\x7d"]

def plainText? : Word → Option String
  | [.text cs false] => some (String.ofList cs)
  | _ => none

def Token.reserved? : Token → Option String
  | .word w => (plainText? w).filter (reservedWords.contains ·)
  | _ => none

def Token.describe (t : Token) : String :=
  match t with
  | .ended => "end of file"
  | .newline => "newline"
  | .operator text => "\"" ++ text ++ "\""
  | .redirect .. => "redirection"
  | .word _ =>
    match t.reserved? with
    | some name => "\"" ++ name ++ "\""
    | none => "word"

def Token.closes : Token → Bool
  | .ended => true
  | .operator text => text = ")" || text = ";;"
  | t => t.reserved?.any (closingWords.contains ·)

/-- The operators that are no redirections, longer ones before their beginnings. -/
def operators : List String := ["&&", "||", ";;", "&", "|", ";", "(", ")"]

def redirectOperators : List String := ["<<-", "<<", "<&", "<>", ">>", ">&", ">|", "<", ">"]

def leading? (texts : List String) (cs : List Char) : Option String :=
  texts.find? fun t ↦ Text.startsWith t.toList cs

/-- The part of a script in backquotes, freed of the backslashes that belong to them, and its length. -/
def backquoted : List Char → Option (List Char × Nat)
  | [] => none
  | '\\' :: c :: cs =>
    (backquoted cs).map fun (inner, n) ↦
      (if c = backquote ∨ c = '\\' ∨ c = '$' then (c :: inner, n + 2) else ('\\' :: c :: inner, n + 2))
  | c :: cs => if c = backquote then some ([], 1) else (backquoted cs).map fun (inner, n) ↦ (c :: inner, n + 1)

def skipBlanks : Nat → Reading Unit
  | 0 => return
  | n + 1 => do
    match ← Reading.rest with
    | ' ' :: _ | '\t' :: _ => Reading.skip 1; skipBlanks n
    | '\\' :: '\n' :: _ => Reading.skip 2; skipBlanks n
    | '#' :: _ => discard (Reading.takeWhile (· ≠ '\n'))
    | _ => return

def splitDocument (delimiter : List Char) (dropTabs : Bool) : List (List Char) → List (List Char) × List (List Char)
  | [] => ([], [])
  | line :: lines =>
    let line := if dropTabs then line.dropWhile (· = '\t') else line
    if line = delimiter then ([], lines)
    else
      let (body, after) := splitDocument delimiter dropTabs lines
      (line :: body, after)

def unlines (lines : List (List Char)) : List Char := lines.flatMap (· ++ ['\n'])

def takeDocument (delimiter : List Char) (dropTabs : Bool) : Reading (List Char) := do
  let cs ← Reading.rest
  let here := cs.takeWhile (· ≠ '\n')
  let lines := Text.splitAt (· = '\n') (cs.drop (here.length + 1))
  let lines := if lines.getLast? = some [] then lines.dropLast else lines
  let (body, after) := splitDocument delimiter dropTabs lines
  -- The lines of the document are cut out, and the line that asks for it is read on.
  modify fun c ↦ { c with rest := here ++ '\n' :: unlines after }
  return unlines body

def literal (w : Word) : List Char × Bool :=
  w.foldl
    (fun (cs, quoted) p ↦
      match p with
      | .text more q => (cs ++ more, quoted || q)
      | _ => (cs, quoted))
    ([], false)

/-- How the word of a parameter is used, by the text after the name. -/
def ruleOf : List Char → Option (Rule × Bool × Nat)
  | ':' :: '-' :: _ => some (.default, true, 2)
  | ':' :: '=' :: _ => some (.assign, true, 2)
  | ':' :: '?' :: _ => some (.demand, true, 2)
  | ':' :: '+' :: _ => some (.replace, true, 2)
  | '-' :: _ => some (.default, false, 1)
  | '=' :: _ => some (.assign, false, 1)
  | '?' :: _ => some (.demand, false, 1)
  | '+' :: _ => some (.replace, false, 1)
  | '#' :: '#' :: _ => some (.cutStart true, false, 2)
  | '#' :: _ => some (.cutStart false, false, 1)
  | '%' :: '%' :: _ => some (.cutEnd true, false, 2)
  | '%' :: _ => some (.cutEnd false, false, 1)
  | _ => none

def usualDescriptor (operator : String) : Nat := if operator.startsWith "<" then 0 else 1

def redirectionOf (operator : String) : Redirection :=
  if operator = ">>" then .append
  else if operator = "<&" ∨ operator = ">&" then .duplicate
  else if operator = "<" ∨ operator = "<>" then .read
  else .write

/-- The name before the first equals sign of an assignment, and the word after it. -/
def assignment? : Word → Option (String × Word)
  | .text cs false :: rest =>
    let name := cs.takeWhile inName
    match name, cs.drop name.length with
    | c :: _, '=' :: value =>
      if beginsName c then
        some (String.ofList name, (if value.isEmpty then rest else .text value false :: rest))
      else none
    | _, _ => none
  | _ => none

mutual

def readPieces : Nat → Around → Reading Word
  | 0, _ => Reading.fail "word too long"
  | n + 1, around => do
    let quoted :=
      match around with
      | .quotes | .document | .arithmetic _ => true
      | .braces q => q
      | .blanks => false
    match ← Reading.rest with
    | [] =>
      match around with
      | .blanks | .document => return []
      | .quotes => Reading.fail "Unterminated quoted string"
      | .braces _ => Reading.fail "Missing '\x7d'"
      | .arithmetic _ => Reading.fail "Missing '))'"
    | '\\' :: c :: _ =>
      if c = '\n' then
        Reading.skip 2
        readPieces n around
      else
        Reading.skip 2
        let kept :=
          match around with
          | .quotes | .document | .braces true | .arithmetic _ =>
            if c = '$' ∨ c = backquote ∨ c = '\\' ∨ (c = '"' ∧ around ≠ .document) then [c] else ['\\', c]
          | _ => [c]
        return .text kept true :: (← readPieces n around)
    | '\x27' :: cs =>
      if quoted then
        Reading.skip 1
        return .text ['\x27'] true :: (← readPieces n around)
      else
        let inner := cs.takeWhile (· ≠ '\x27')
        if inner.length = cs.length then
          Reading.skip (cs.length + 1)
          Reading.fail "Unterminated quoted string"
        else
          Reading.skip (inner.length + 2)
          return .text inner true :: (← readPieces n around)
    | '"' :: _ =>
      Reading.skip 1
      match around with
      | .quotes => return []
      | .document => return .text ['"'] true :: (← readPieces n around)
      | .arithmetic _ | .braces true => readPieces n around
      | _ =>
        let inner ← readPieces n .quotes
        let inner := if inner.isEmpty then [.text [] true] else inner
        return inner ++ (← readPieces n around)
    | '$' :: _ =>
      let piece ← readDollar n quoted
      return piece :: (← readPieces n around)
    | '(' :: _ =>
      match around with
      | .blanks => return []
      | .arithmetic depth =>
        Reading.skip 1
        return .text ['('] true :: (← readPieces n (.arithmetic (depth + 1)))
      | _ =>
        Reading.skip 1
        return .text ['('] quoted :: (← readPieces n around)
    | ')' :: cs =>
      match around with
      | .blanks => return []
      | .arithmetic 0 =>
        match cs with
        | ')' :: _ =>
          Reading.skip 2
          return []
        | _ => Reading.fail "Missing '))'"
      | .arithmetic (depth + 1) =>
        Reading.skip 1
        return .text [')'] true :: (← readPieces n (.arithmetic depth))
      | _ =>
        Reading.skip 1
        return .text [')'] quoted :: (← readPieces n around)
    | '\x7d' :: _ =>
      Reading.skip 1
      match around with
      | .braces _ => return []
      | _ => return .text ['\x7d'] quoted :: (← readPieces n around)
    | c :: cs =>
      if c = backquote then
        match backquoted cs with
        | none => Reading.fail "EOF in backquote substitution"
        | some (inner, length) =>
          let line := (← get).line
          Reading.skip (length + 1)
          -- The inner script is read apart, since its backslashes have been taken off.
          match (readList n).run ⟨inner, line⟩ with
          | .error fault => throw fault
          | .ok (body, _) => return .output body quoted :: (← readPieces n around)
      else if around = .blanks ∧ endsWord c then return []
      else
        let isPlain (c : Char) : Bool :=
          !("\\'\"$()\x7d".toList.contains c) && c ≠ backquote && !(around = .blanks && endsWord c)
        let run ← Reading.takeWhile isPlain
        if run.isEmpty then
          Reading.skip 1
          return .text [c] quoted :: (← readPieces n around)
        else return .text run quoted :: (← readPieces n around)

def readDollar : Nat → Bool → Reading Piece
  | 0, _ => Reading.fail "word too long"
  | n + 1, quoted => do
    Reading.skip 1
    match ← Reading.rest with
    | '(' :: '(' :: _ =>
      Reading.skip 2
      return .arithmetic (← readPieces n (.arithmetic 0)) quoted
    | '(' :: _ =>
      Reading.skip 1
      let body ← readList n
      expectOperator n ")"
      return .output body quoted
    | '\x7b' :: cs =>
      Reading.skip 1
      match cs with
      | '#' :: c :: _ =>
        if c = '\x7d' then
          Reading.skip 2
          return .parameter "#" quoted
        else
          Reading.skip 1
          let name ← readName
          Reading.skip 1
          return .length name quoted
      | _ =>
        let name ← readName
        match ← Reading.rest with
        | '\x7d' :: _ =>
          Reading.skip 1
          if name.isEmpty then Reading.failPlainly "Bad substitution" else return .parameter name quoted
        | [] => Reading.fail (if quoted then "Unterminated quoted string" else "Missing '\x7d'")
        | more =>
          match ruleOf more with
          | some (rule, orEmpty, length) =>
            Reading.skip length
            return .ruled name rule orEmpty (← readPieces n (.braces quoted)) quoted
          | none => Reading.failPlainly "Bad substitution"
    | c :: _ =>
      if beginsName c then return .parameter (String.ofList (← Reading.takeWhile inName)) quoted
      else if isSpecial c then
        Reading.skip 1
        return .parameter (String.singleton c) quoted
      else return .text ['$'] quoted
    | [] => return .text ['$'] quoted
where
  readName : Reading String := do
    match ← Reading.rest with
    | c :: _ =>
      if c.isDigit then return String.ofList (← Reading.takeWhile Char.isDigit)
      else if beginsName c then return String.ofList (← Reading.takeWhile inName)
      else if isSpecial c then
        Reading.skip 1
        return String.singleton c
      else return ""
    | [] => return ""

def readToken : Nat → Reading Token
  | 0 => Reading.fail "word too long"
  | n + 1 => do
    skipBlanks n
    let cs ← Reading.rest
    match cs with
    | [] => return .ended
    | '\n' :: _ =>
      Reading.skip 1
      return .newline
    | _ =>
      match leading? redirectOperators cs with
      | some text =>
        Reading.skip text.length
        return .redirect none text
      | none =>
        match leading? operators cs with
        | some text =>
          Reading.skip text.length
          return .operator text
        | none =>
          match cs with
          | c :: more =>
            match if c.isDigit then leading? redirectOperators more else none with
            | some text =>
              Reading.skip (text.length + 1)
              return .redirect (some (c.toNat - '0'.toNat)) text
            | none => return .word (← readPieces n .blanks)
          | [] => return .ended

def peekToken : Nat → Reading Token
  | 0 => Reading.fail "word too long"
  | n + 1 => do
    let before ← get
    let token ← readToken n
    set before
    return token

def expectOperator : Nat → String → Reading Unit
  | 0, _ => Reading.fail "word too long"
  | n + 1, text => do
    let token ← readToken n
    match token with
    | .operator found => if found = text then return else unexpected token text
    | _ => unexpected token text
where
  unexpected (token : Token) (text : String) : Reading Unit :=
    Reading.fail (token.describe ++ " unexpected (expecting \"" ++ text ++ "\")")

def expectWord : Nat → String → Reading Unit
  | 0, _ => Reading.fail "word too long"
  | n + 1, text => do
    let token ← readToken n
    if token.reserved? = some text then return
    else Reading.fail (token.describe ++ " unexpected (expecting \"" ++ text ++ "\")")

def skipNewlines : Nat → Reading Unit
  | 0 => return
  | n + 1 => do
    match ← peekToken n with
    | .newline =>
      discard (readToken n)
      skipNewlines n
    | _ => return

def readList : Nat → Reading (List Command)
  | 0 => Reading.fail "script too long"
  | n + 1 => do
    skipNewlines n
    if (← peekToken n).closes then return []
    let c ← readChain n
    match ← peekToken n with
    | .newline =>
      discard (readToken n)
      return c :: (← readList n)
    | .operator ";" =>
      discard (readToken n)
      return c :: (← readList n)
    | .operator "&" =>
      discard (readToken n)
      return .background c :: (← readList n)
    | _ => return [c]

def readBody : Nat → Reading (List Command)
  | 0 => Reading.fail "script too long"
  | n + 1 => do
    skipNewlines n
    let token ← peekToken n
    match token with
    | .ended => return []
    | _ =>
      if token.closes then
        discard (readToken n)
        Reading.fail (token.describe ++ " unexpected")
      else readList n

def readLine : Nat → Reading (List Command)
  | 0 => Reading.fail "script too long"
  | n + 1 => do
    match ← peekToken n with
    | .ended => return []
    | .newline =>
      discard (readToken n)
      return []
    | _ =>
      let c ← readChain n
      let token ← readToken n
      match token with
      | .ended | .newline => return [c]
      | .operator ";" => return c :: (← readLine n)
      | .operator "&" => return .background c :: (← readLine n)
      | _ => Reading.fail (token.describe ++ " unexpected")

def readChain : Nat → Reading Command
  | 0 => Reading.fail "script too long"
  | n + 1 => do readChainAfter n (← readPipeline n)

def readChainAfter : Nat → Command → Reading Command
  | 0, _ => Reading.fail "script too long"
  | n + 1, c => do
    match ← peekToken n with
    | .operator "&&" =>
      discard (readToken n)
      skipNewlines n
      readChainAfter n (.both c (← readPipeline n))
    | .operator "||" =>
      discard (readToken n)
      skipNewlines n
      readChainAfter n (.either c (← readPipeline n))
    | _ => return c

def readPipeline : Nat → Reading Command
  | 0 => Reading.fail "script too long"
  | n + 1 => do
    if (← peekToken n).reserved? = some "!" then
      discard (readToken n)
      return .negate (← readPipeline n)
    else
      match ← readPipeParts n with
      | [c] => return c
      | parts => return .pipe parts

def readPipeParts : Nat → Reading (List Command)
  | 0 => Reading.fail "script too long"
  | n + 1 => do
    let c ← readCommand n
    match ← peekToken n with
    | .operator "|" =>
      discard (readToken n)
      skipNewlines n
      return c :: (← readPipeParts n)
    | _ => return [c]

def readRedirects : Nat → Reading (List Redirect)
  | 0 => Reading.fail "script too long"
  | n + 1 => do
    match ← peekToken n with
    | .redirect descriptor text =>
      discard (readToken n)
      let r ← readRedirect n descriptor text
      return r :: (← readRedirects n)
    | _ => return []

def readRedirect : Nat → Option Nat → String → Reading Redirect
  | 0, _, _ => Reading.fail "script too long"
  | n + 1, descriptor, text => do
    let descriptor := descriptor.getD (usualDescriptor text)
    let token ← readToken n
    match token with
    | .word w =>
      if text = "<<" ∨ text = "<<-" then
        let (delimiter, quoted) := literal w
        let body ← takeDocument delimiter (text = "<<-")
        if quoted then return .mk descriptor .here [.text body true]
        else
          match (readPieces n .document).run ⟨body, (← get).line⟩ with
          | .error fault => throw fault
          | .ok (pieces, _) => return .mk descriptor .here pieces
      else return .mk descriptor (redirectionOf text) w
    | _ => Reading.fail (token.describe ++ " unexpected")

def readCommand : Nat → Reading Command
  | 0 => Reading.fail "script too long"
  | n + 1 => do
    let token ← peekToken n
    match token with
    | .operator "(" =>
      discard (readToken n)
      let body ← readBody n
      expectOperator n ")"
      return .subshell body (← readRedirects n)
    | .redirect .. => readSimple n (← get).line [] [] []
    | .word _ =>
      match token.reserved? with
      | some "if" =>
        discard (readToken n)
        let (condition, yes, no) ← readBranch n
        return .branch condition yes no (← readRedirects n)
      | some "while" => readLoop n true
      | some "until" => readLoop n false
      | some "for" => readEach n
      | some "case" => readChoose n
      | some "\x7b" =>
        discard (readToken n)
        let body ← readBody n
        expectWord n "\x7d"
        return .group body (← readRedirects n)
      | some "in" | none => readSimple n (← get).line [] [] []
      | some _ =>
        discard (readToken n)
        Reading.fail (token.describe ++ " unexpected")
    | _ =>
      discard (readToken n)
      Reading.fail (token.describe ++ " unexpected")

def readBranch : Nat → Reading (List Command × List Command × List Command)
  | 0 => Reading.fail "script too long"
  | n + 1 => do
    let condition ← readBody n
    expectWord n "then"
    let yes ← readBody n
    match (← peekToken n).reserved? with
    | some "elif" =>
      discard (readToken n)
      let (condition', yes', no') ← readBranch n
      return (condition, yes, [.branch condition' yes' no' []])
    | some "else" =>
      discard (readToken n)
      let no ← readBody n
      expectWord n "fi"
      return (condition, yes, no)
    | _ =>
      expectWord n "fi"
      return (condition, yes, [])

def readLoop : Nat → Bool → Reading Command
  | 0, _ => Reading.fail "script too long"
  | n + 1, whileTrue => do
    discard (readToken n)
    let condition ← readBody n
    expectWord n "do"
    let body ← readBody n
    expectWord n "done"
    return .loop whileTrue condition body (← readRedirects n)

def readEach : Nat → Reading Command
  | 0 => Reading.fail "script too long"
  | n + 1 => do
    discard (readToken n)
    let token ← readToken n
    match token with
    | .word w =>
      match plainText? w with
      | none => Reading.fail "Bad for loop variable"
      | some name =>
        skipNewlines n
        let words ←
          if (← peekToken n).reserved? = some "in" then
            discard (readToken n)
            pure (some (← readWords n))
          else pure none
        match ← peekToken n with
        | .operator ";" | .newline => discard (readToken n)
        | _ => pure ()
        skipNewlines n
        expectWord n "do"
        let body ← readBody n
        expectWord n "done"
        return .each name words body (← readRedirects n)
    | _ => Reading.fail "Bad for loop variable"

def readWords : Nat → Reading (List Word)
  | 0 => Reading.fail "script too long"
  | n + 1 => do
    match ← peekToken n with
    | .word w =>
      discard (readToken n)
      return w :: (← readWords n)
    | _ => return []

def readChoose : Nat → Reading Command
  | 0 => Reading.fail "script too long"
  | n + 1 => do
    discard (readToken n)
    let token ← readToken n
    match token with
    | .word subject =>
      skipNewlines n
      expectWord n "in"
      let arms ← readArms n
      return .choose subject arms (← readRedirects n)
    | _ => Reading.fail (token.describe ++ " unexpected (expecting word)")

def readArms : Nat → Reading (List (List Word × List Command))
  | 0 => Reading.fail "script too long"
  | n + 1 => do
    skipNewlines n
    if (← peekToken n).reserved? = some "esac" then
      discard (readToken n)
      return []
    match ← peekToken n with
    | .operator "(" => discard (readToken n)
    | _ => pure ()
    let patterns ← readPatterns n
    expectOperator n ")"
    let body ← readList n
    match ← peekToken n with
    | .operator ";;" =>
      discard (readToken n)
      return (patterns, body) :: (← readArms n)
    | _ =>
      expectWord n "esac"
      return [(patterns, body)]

def readPatterns : Nat → Reading (List Word)
  | 0 => Reading.fail "script too long"
  | n + 1 => do
    let token ← readToken n
    match token with
    | .word w =>
      match ← peekToken n with
      | .operator "|" =>
        discard (readToken n)
        return w :: (← readPatterns n)
      | _ => return [w]
    | .ended => Reading.fail "end of file unexpected (expecting \")\")"
    | _ => Reading.fail (token.describe ++ " unexpected")

/-- A simple command after what was read of it, everything reversed. -/
def readSimple : Nat → Nat → List (String × Word) → List Word → List Redirect → Reading Command
  | 0, _, _, _, _ => Reading.fail "script too long"
  | n + 1, line, assignments, words, redirects => do
    let token ← peekToken n
    match token with
    | .redirect descriptor text =>
      discard (readToken n)
      let r ← readRedirect n descriptor text
      readSimple n line assignments words (r :: redirects)
    | .word w =>
      discard (readToken n)
      match if words.isEmpty then assignment? w else none with
      | some a => readSimple n line (a :: assignments) words redirects
      | none => readSimple n line assignments (w :: words) redirects
    | .operator "(" =>
      match words, assignments, redirects with
      | [w], [], [] =>
        discard (readToken n)
        expectOperator n ")"
        skipNewlines n
        match plainText? w with
        | some name => return .define name (← readCommand n)
        | none => Reading.fail "Bad function name"
      | _, _, _ => return .simple line assignments.reverse words.reverse redirects.reverse
    | _ => return .simple line assignments.reverse words.reverse redirects.reverse

end

def readLines (fuel : Nat) : Nat → ScriptCursor → Script
  | 0, _ => ⟨[], none⟩
  | n + 1, c =>
    if c.rest.isEmpty then ⟨[], none⟩
    else
      match (readLine fuel).run c with
      | .error fault => ⟨[], some fault⟩
      | .ok (commands, c') =>
        let script := readLines fuel n c'
        ⟨commands :: script.lines, script.fault⟩

def Script.ofText (text : String) : Script :=
  let cs := text.toList
  readLines (8 * cs.length + 64) (cs.length + 1) ⟨cs, 1⟩

end CodeRepair.Bench
