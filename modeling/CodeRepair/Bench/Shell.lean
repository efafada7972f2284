import CodeRepair.Bench.Arithmetic
import CodeRepair.Bench.Expansion
import CodeRepair.Bench.ScriptReader
import CodeRepair.Bench.Signal
import CodeRepair.Bench.Snippet
import CodeRepair.Bench.Tools

/-!
A shell, and the starting of programs. Everything gets a bound on how long it may go on; what reaches the bound is
taken never to end. They stand in for those of a system, and no theorem is about them.
-/
namespace CodeRepair.Bench

open Files (Node Place Fault)

inductive Flow
  | next
  | leave
  | back
  | out (loops : Nat)
  | again (loops : Nat)
  deriving DecidableEq, Repr, Inhabited

def Switches.none : Switches := ⟨false, false, false⟩

def maxCalls : Nat := 1000

/-- Programs that start one another deeper than this use up all there is. -/
def maxDepth : Nat := 200

namespace Process

def separators (p : Process) : List Char := ((p.lookup? "IFS").getD " \t\n").toList

def switchLetters (p : Process) : String :=
  (if p.switches.stopOnFailure then "e" else "") ++ (if p.switches.stopOnUnset then "u" else "") ++
    (if p.switches.trace then "x" else "")

def parameter? (p : Process) (name : String) : Option String :=
  match name with
  | "#" => some (toString p.args.length)
  | "?" => some (toString p.status)
  | "$" => some (toString p.pid)
  | "-" => some p.switchLetters
  | "0" => some p.name
  | "@" | "*" => if p.args.isEmpty then none else some (" ".intercalate p.args)
  | "!" => none
  | name =>
    match Number.decimal? name.toList with
    | some n => p.args[n - 1]?
    | none => p.lookup? name

/-- What another process has done to the computer and to what is open counts for this one. -/
def rejoin (p inner : Process) : Process :=
  -- Variables, the directory and functions stay those of `p`: a subshell changes its own only.
  { p with
    computer := inner.computer, streams := inner.streams, status := inner.status, overdue := inner.overdue
    endless := inner.endless, killed := inner.killed }

def receive (p : Process) (signal : Nat) : Process :=
  if Signal.isHarmless signal then p
  else if Signal.suspends signal then { p with endless := true }
  else { p with killed := some signal }

def breakOff (p : Process) (message : String) : Process := { p.failAt 2 message with broken := true }

def exhaust (p : Process) : Process := { p with endless := true }

end Process

def otherPrograms : List String :=
  ["sh", "dash", "env", "python3", "true", "false", "echo", "printf", "pwd", "test", "[", "kill"]

def isProgram (name : String) : Bool := otherPrograms.contains name || Tools.table.any (·.1 = name)

def programDirs : List Place := [["bin"], ["usr", "bin"]]

def programAt? (place : Place) : Option String :=
  if programDirs.contains place.dropLast then place.getLast?.filter isProgram else none

def plainEcho (args : List String) (p : Process) : Process :=
  match args with
  | "-n" :: rest => p.out (bytesOf (" ".intercalate rest))
  | _ => p.say (" ".intercalate args)

/-- What `echo` writes inside a shell: backslashes have a meaning. -/
def echoBytes (args : List String) : List UInt8 :=
  let (fed, args) :=
    match args with
    | "-n" :: rest => (false, rest)
    | _ => (true, args)
  let text := (" ".intercalate args).toList
  let (bytes, ended) := unescape true (text.length + 1) text
  bytes ++ (if fed && !ended then [10] else [])

def tell (name : String) (bytes : List UInt8) (p : Process) : Process :=
  match p.write? 1 bytes with
  | some p => { p with status := 0 }
  | none => p.failAt 1 (name ++ ": " ++ name ++ ": I/O error")

def printf (args : List String) (p : Process) : Process :=
  match args with
  | [] => p.failAt 2 "printf: usage: printf format [arg ...]"
  | format :: args =>
    let printed := printAll (args.length + 1) format.toList ⟨[], args, [], false⟩
    let p := tell "printf" printed.bytes p
    printed.faults.foldl
      (fun p fault ↦ p.failAt (if fault.endsWith "invalid directive" then 2 else 1) ("printf: " ++ fault)) p

def changeDir (args : List String) (p : Process) : Process :=
  let path := (args.head? <|> p.lookup? "HOME").getD "/"
  let path := if path = "-" then (p.lookup? "OLDPWD").getD "/" else path
  match p.computer.tree.find p.dir path with
  | .ok (place, .directory) | .ok (place, .sealed) =>
    { ({ p with dir := place }.assign "OLDPWD" (pathOf p.dir)).assign "PWD" (pathOf place) with status := 0 }
  | _ => p.failAt 2 ("cd: can't cd to " ++ path)

def setSwitches : List String → Process → Process
  | [], p => { p with status := 0 }
  | "--" :: rest, p => { p with args := rest, status := 0 }
  | a :: rest, p =>
    match a.toList with
    | sign :: c :: cs =>
      if sign = '-' ∨ sign = '+' then
        let on := decide (sign = '-')
        let s := (c :: cs).foldl
          (fun (s : Switches) c ↦
            match c with
            | 'e' => { s with stopOnFailure := on }
            | 'u' => { s with stopOnUnset := on }
            | 'x' => { s with trace := on }
            | _ => s)
          p.switches
        setSwitches rest { p with switches := s }
      else { p with args := a :: rest, status := 0 }
    | _ => { p with args := a :: rest, status := 0 }

def declare (hand : Bool) (args : List String) (p : Process) : Process :=
  args.foldl
    (fun p a ↦
      let name := String.ofList (a.toList.takeWhile (· ≠ '='))
      let p := if a.contains '=' then p.assign name (String.ofList (a.toList.drop (name.length + 1))) else p
      if hand then { p with exported := name :: p.exported.filter (· ≠ name) } else p)
    { p with status := 0 }

/-- Variables of a function get their values back when it is left. -/
def declareLocal (args : List String) (p : Process) : Process :=
  let names := args.map fun a ↦ String.ofList (a.toList.takeWhile (· ≠ '='))
  declare false (args.filter (·.contains '='))
    { p with outside := names.map (fun n ↦ (n, p.lookup? n)) ++ p.outside }

def readLineInto (args : List String) (p : Process) : Process :=
  let (options, names) := splitOptions args
  let names := if names.isEmpty then ["REPLY"] else names
  let bytes := p.input
  let line := bytes.takeWhile (· ≠ 10)
  let p := p.leave (bytes.drop (line.length + 1))
  let text := (textOf line).toList
  let text := if options.contains 'r' then text else text.filter (· ≠ '\\')
  let blank (c : Char) : Bool := p.separators.contains c
  let rec go : List String → List Char → Process → Process
    | [], _, p => p
    | [name], cs, p =>
      p.assign name (String.ofList ((cs.dropWhile blank).reverse.dropWhile blank).reverse)
    | name :: names, cs, p =>
      let cs := cs.dropWhile blank
      let field := cs.takeWhile (!blank ·)
      go names (cs.drop field.length) (p.assign name (String.ofList field))
  let p := go names text p
  { p with status := if line.length < bytes.length then 0 else 1 }

def typeOf (name : String) (p : Process) : Option String :=
  if (p.functions.find? (·.1 = name)).isSome then some "function"
  else if ["echo", "printf", "test", "[", "cd", "true", "false", "exit", "set", "read", "kill", "pwd"].contains name then
    some "builtin"
  else if isProgram name then some ("/usr/bin/" ++ name) else none

/-- The commands that a shell carries out itself and that change nothing in its course. -/
def builtIn? (name : String) : Option (List String → Process → Process) :=
  let quietly (f : List String → Process → Process) : Option (List String → Process → Process) :=
    some fun args p ↦ f args { p with status := 0 }
  match name with
  | "wait" => some fun args p ↦ { p with status := if args.isEmpty then 0 else 127 }
  | ":" | "true" | "hash" | "alias" | "unalias" | "times" => quietly fun _ p ↦ p
  | "false" => some fun _ p ↦ { p with status := 1 }
  | "echo" => some fun args p ↦ tell "echo" (echoBytes args) p
  | "printf" => some printf
  | "cd" => some changeDir
  | "pwd" => some fun _ p ↦ tell "pwd" (bytesOf (pathOf p.dir ++ "\n")) p
  | "set" => some setSwitches
  | "unset" => quietly fun args p ↦
      { p with
        values := p.values.filter (!args.contains ·.1)
        functions := p.functions.filter (!args.contains ·.1) }
  | "export" => some (declare true)
  | "readonly" => some fun args p ↦
      let names := args.map fun a ↦ String.ofList (a.toList.takeWhile (· ≠ '='))
      let p := declare false args p
      { p with fixed := names ++ p.fixed }
  | "read" => some readLineInto
  | "test" => quietly (Tools.test "test")
  | "[" => quietly fun args p ↦
      if args.getLast? = some "]" then Tools.test "[" args.dropLast p else p.failAt 2 "[: missing ]"
  | "umask" => quietly fun args p ↦ if args.isEmpty then p.say "0022" else p
  | "ulimit" => quietly fun args p ↦ if args.length ≤ 1 then p.say "unlimited" else p
  | "type" => quietly fun args p ↦
      args.foldl
        (fun p name ↦
          match typeOf name p with
          | some "function" => p.say (name ++ " is a shell function")
          | some "builtin" => p.say (name ++ " is a shell builtin")
          | some path => p.say (name ++ " is " ++ path)
          | none => { p.say (name ++ ": not found") with status := 127 })
        p
  | "which" => quietly fun args p ↦
      args.foldl
        (fun p name ↦ if isProgram name then p.say ("/usr/bin/" ++ name) else { p with status := 1 }) p
  | _ => none

def traceLine (words : List String) : String := "+ " ++ " ".intercalate words

def startFault (name : String) : Fault → Nat × String
  | .notFound | .notDirectory => (127, name ++ ": not found")
  | fault => (126, name ++ ": " ++ faultText fault)

def openFault (path : String) (writing : Bool) (fault : Fault) : String :=
  let reason :=
    match fault with
    | .notFound | .notDirectory => if writing then "Directory nonexistent" else "No such file"
    | fault => faultText fault
  (if writing then "cannot create " else "cannot open ") ++ path ++ ": " ++ reason

def interpreter? (bytes : List UInt8) : Option (List String) :=
  match bytes with
  | 35 :: 33 :: rest =>
    let line := ((textOf (rest.takeWhile (· ≠ 10))).toList).dropWhile fun c ↦ c = ' ' ∨ c = '\t'
    let program := line.takeWhile fun c ↦ c ≠ ' ' ∧ c ≠ '\t'
    let rest := (line.drop program.length).dropWhile fun c ↦ c = ' ' ∨ c = '\t'
    let argument := (rest.reverse.dropWhile fun c ↦ c = ' ' ∨ c = '\t').reverse
    if program.isEmpty then none
    else some (String.ofList program :: (if argument.isEmpty then [] else [String.ofList argument]))
  | _ => none

inductive Found
  | program (name : String)
  | script (interpreter : List String) (path : String)
  | bare (path : String) (text : String)

def lookUp (name : String) (p : Process) : Except Fault Found := do
  if name.isEmpty then throw .notFound
  if !name.contains '/' then
    if maxNameOf name then throw .nameTooLong
    if isProgram name then return .program name else throw .notFound
  let place ← p.locate name
  match programAt? place with
  | some program => return .program program
  | none =>
    match p.computer.tree.node? place with
    | none => throw .notFound
    | some (.file bytes true) =>
      match interpreter? bytes with
      | some words => return .script words name
      | none => return .bare name (textOf bytes)
    | some _ => throw .denied
where
  maxNameOf (name : String) : Bool := decide (Files.maxNameBytes < Text.Utf8.size name.toList)

def shellOptions : List String → Process → Bool → Except String (Process × Bool × List String)
  | [], p, c => .ok (p, c, [])
  | "--" :: rest, p, c => .ok (p, c, rest)
  | a :: rest, p, c =>
    match a.toList with
    | '-' :: letter :: letters =>
      let all := letter :: letters
      match all.find? fun l ↦ !"ceuxsimnv".toList.contains l with
      | some bad => .error ("Illegal option -" ++ String.singleton bad)
      | none =>
        let p := setSwitches ["-" ++ String.ofList (all.filter fun l ↦ "eux".toList.contains l) ++ "s"] p
        shellOptions rest p (c || all.contains 'c')
    | _ => .ok (p, c, a :: rest)

mutual

def expandPiece : Nat → Piece → Process → List Fragment × Process
  | 0, _, p => ([], p.exhaust)
  | n + 1, piece, p =>
    let show_ (quoted : Bool) (s : String) : List Fragment :=
      if quoted then [.solid s.toList] else [.loose s.toList]
    match piece with
    | .text cs quoted => (if quoted then [.solid cs] else [.plain cs], p)
    | .parameter "@" quoted => ((p.args.map (show_ quoted)).intersperse [.gap] |>.flatten, p)
    | .parameter "*" false => ((p.args.map (show_ false)).intersperse [.gap] |>.flatten, p)
    | .parameter name quoted =>
      match p.parameter? name with
      | some value => (show_ quoted value, p)
      | none =>
        if p.switches.stopOnUnset ∧ name ≠ "*" ∧ name ≠ "!" then ([], p.breakOff (name ++ ": parameter not set"))
        else (show_ quoted "", p)
    | .length name quoted => (show_ quoted (toString ((p.parameter? name).getD "").length), p)
    | .ruled name rule orEmpty word quoted =>
      let value := p.parameter? name
      let given := value.any fun v ↦ !(orEmpty && v.isEmpty)
      match rule with
      | .default => if given then (show_ quoted (value.getD ""), p) else expandWord n word p
      | .replace => if given then expandWord n word p else (show_ quoted "", p)
      | .assign =>
        if given then (show_ quoted (value.getD ""), p)
        else
          let (text, p) := expandText n word p
          (show_ quoted text, p.assign name text)
      | .demand =>
        if given then (show_ quoted (value.getD ""), p)
        else
          let (text, p) := expandText n word p
          let reason := if text.isEmpty then (if orEmpty then "parameter not set or null" else "parameter not set") else text
          ([], p.breakOff (name ++ ": " ++ reason))
      | .cutStart longest =>
        let (fragments, p) := expandWord n word p
        (show_ quoted (String.ofList (cutStart longest (patternOf fragments) (value.getD "").toList)), p)
      | .cutEnd longest =>
        let (fragments, p) := expandWord n word p
        (show_ quoted (String.ofList (cutEnd longest (patternOf fragments) (value.getD "").toList)), p)
    | .output script quoted =>
      let (index, inner) := p.newStream []
      let (_, after) := evalList n false script (inner.redirect 1 (some (.stream index)))
      let text := (textOf (after.streamText index)).toList
      let text := (text.reverse.dropWhile (· = '\n')).reverse
      (show_ quoted (String.ofList text), p.rejoin after)
    | .arithmetic expression quoted =>
      let (text, p) := expandText n expression p
      match Arithmetic.evaluate text p.parameter? with
      | .ok (value, assigned) =>
        (show_ quoted (toString value), assigned.reverse.foldl (fun p (x, v) ↦ p.assign x (toString v)) p)
      | .error fault => ([], p.breakOff ("arithmetic expression: " ++ fault ++ ": \"" ++ text ++ "\""))

def expandWord : Nat → Word → Process → List Fragment × Process
  | 0, _, p => ([], p.exhaust)
  | _ + 1, [], p => ([], p)
  | n + 1, piece :: pieces, p =>
    let (a, p) := expandPiece n piece p
    if p.broken then ([], p)
    else
      let (b, p) := expandWord n pieces p
      (a ++ b, p)

def expandText : Nat → Word → Process → String × Process
  | 0, _, p => ("", p.exhaust)
  | n + 1, word, p =>
    let (fragments, p) := expandWord n word p
    (joined fragments, p)

def expandFields : Nat → List Word → Process → List String × Process
  | 0, _, p => ([], p.exhaust)
  | _ + 1, [], p => ([], p)
  | n + 1, word :: words, p =>
    let (fragments, p) := expandWord n word p
    if p.broken then ([], p)
    else
      let fields := (fieldsOf p.separators fragments).flatMap (matchNames p)
      let (more, p) := expandFields n words p
      (fields ++ more, p)

def evalRedirects : Nat → List Redirect → Process → Bool × Process
  | 0, _, p => (false, p.exhaust)
  | _ + 1, [], p => (true, p)
  | n + 1, .mk descriptor kind word :: rest, p =>
    let (target, p) := expandText n word p
    if p.broken then (false, p)
    else
      let refuse (writing : Bool) (fault : Fault) : Bool × Process := (false, p.failAt 2 (openFault target writing fault))
      match kind with
      | .here =>
        let (index, p) := p.newStream (bytesOf target)
        evalRedirects n rest (p.redirect descriptor (some (.stream index)))
      | .read =>
        match p.read target with
        | .error fault => refuse false fault
        | .ok (bytes, endless) =>
          let (index, p) := p.newStream bytes
          let p := if endless then { p with endless := true } else p
          evalRedirects n rest (p.redirect descriptor (some (.stream index)))
      | .write | .append =>
        let old := if kind = .append then ((p.read target).toOption.map (·.1)).getD [] else []
        match p.alter fun t ↦ t.write p.dir target old with
        | .error fault => refuse true fault
        | .ok p' =>
          match p'.computer.tree.find p.dir target with
          | .ok (place, .file _ _) => evalRedirects n rest (p'.redirect descriptor (some (.file place)))
          | _ => evalRedirects n rest (p'.redirect descriptor (some .sink))
      | .duplicate =>
        if target = "-" then evalRedirects n rest (p.redirect descriptor none)
        else
          match (Number.decimal? target.toList).map p.target? with
          | some (some t) => evalRedirects n rest (p.redirect descriptor (some t))
          | some none => (false, p.failAt 2 (target ++ ": Bad file descriptor"))
          | none => (false, p.failAt 2 ("Syntax error: Bad fd number"))

def evalUnder : Nat → List Redirect → Process → (Process → Flow × Process) → Flow × Process
  | 0, _, p, _ => (.leave, p.exhaust)
  | n + 1, redirects, p, f =>
    match evalRedirects n redirects p with
    | (true, inner) =>
      let (flow, after) := f inner
      (flow, { after with descriptors := p.descriptors })
    | (false, failed) => (if failed.broken then .leave else .next, { failed with descriptors := p.descriptors })

/-- Commands one after the other. Whoever asks whether they succeed has `tested` true. -/
def evalList : Nat → Bool → List Command → Process → Flow × Process
  | 0, _, _, p => (.leave, p.exhaust)
  | _ + 1, _, [], p => (.next, p)
  | n + 1, tested, c :: cs, p =>
    match eval n tested c p with
    | (.next, p) => if p.stopped then (.leave, p) else evalList n tested cs p
    | other => other

def eval : Nat → Bool → Command → Process → Flow × Process
  | 0, _, _, p => (.leave, p.exhaust)
  | n + 1, tested, c, p =>
    if p.stopped then (.leave, p)
    else
      let settle (r : Flow × Process) : Flow × Process :=
        if r.1 = .next ∧ r.2.status ≠ 0 ∧ r.2.switches.stopOnFailure ∧ !tested then (.leave, r.2) else r
      match c with
      | .simple line assignments words redirects =>
        settle (evalSimple n line assignments words redirects { p with line })
      | .group body redirects => evalUnder n redirects p fun p ↦ evalList n tested body p
      | .subshell body redirects =>
        settle (evalUnder n redirects p fun p ↦
          let (_, inner) := evalList n tested body { p with traps := [] }
          (.next, p.rejoin inner))
      | .branch condition yes no redirects =>
        evalUnder n redirects p fun p ↦
          match evalList n true condition p with
          | (.next, p) =>
            if p.stopped then (.leave, p)
            else if p.status = 0 then evalList n tested yes p
            else evalList n tested no { p with status := 0 }
          | other => other
      | .loop whileTrue condition body redirects =>
        evalUnder n redirects p fun p ↦
          let (flow, after) := evalLoop n tested whileTrue condition body 0 { p with loops := p.loops + 1 }
          (flow, { after with loops := p.loops })
      | .each name words body redirects =>
        evalUnder n redirects p fun p ↦
          match words with
          | none =>
            let (flow, after) := evalEach n tested name p.args body { p with status := 0, loops := p.loops + 1 }
            (flow, { after with loops := p.loops })
          | some words =>
            let (values, p) := expandFields n words p
            if p.broken then (.leave, p)
            else
              let (flow, after) := evalEach n tested name values body { p with status := 0, loops := p.loops + 1 }
              (flow, { after with loops := p.loops })
      | .choose subject arms redirects =>
        evalUnder n redirects p fun p ↦
          let (text, p) := expandText n subject p
          if p.broken then (.leave, p) else evalArms n tested text arms { p with status := 0 }
      | .define name body =>
        (.next, { p with functions := (name, body) :: p.functions.filter (·.1 ≠ name), status := 0 })
      -- Wherever a status is looked at, a failure does not end the shell.
      | .negate c =>
        match eval n true c p with
        | (.next, p) => (.next, { p with status := if p.status = 0 then 1 else 0 })
        | other => other
      | .pipe parts => settle (evalPipe n parts none p)
      | .both a b =>
        match eval n true a p with
        | (.next, p) => if p.status = 0 then eval n tested b p else (.next, p)
        | other => other
      | .either a b =>
        match eval n true a p with
        | (.next, p) => if p.status ≠ 0 then eval n tested b p else (.next, p)
        | other => other
      -- It is carried out at once, and its effects count only when it took no time.
      | .background c =>
        let (_, inner) := eval n true c p
        let done := inner.computer.clockMs = p.computer.clockMs ∧ !inner.overdue ∧ !inner.endless
        (.next, if done then { p.rejoin inner with status := 0, killed := p.killed } else { p with status := 0 })

def evalPipe : Nat → List Command → Option Nat → Process → Flow × Process
  | 0, _, _, p => (.leave, p.exhaust)
  | _ + 1, [], _, p => (.next, p)
  | n + 1, c :: cs, source, p =>
    -- A part that writes without end is stopped by one that reads no further.
    let flooded := p.endless
    let inner := match source with
      | some index => { p.redirect 0 (some (.stream index)) with endless := false }
      | none => p
    let (sink, inner) := if cs.isEmpty then (none, inner) else
      let (index, inner) := inner.newStream []
      (some index, inner.redirect 1 (some (.stream index)))
    -- Every part is a process of its own, whose traps are not those of the shell.
    let (_, after) := eval n true c { inner with switches := inner.switches, traps := [] }
    let unread := match source with
      | some index => !(after.streamText index).isEmpty
      | none => false
    let after := p.rejoin { after with endless := after.endless || (flooded && !unread) }
    if cs.isEmpty then (.next, after)
    else if after.overdue || after.killed.isSome then (.leave, after)
    else evalPipe n cs sink after

def evalLoop : Nat → Bool → Bool → List Command → List Command → Nat → Process → Flow × Process
  | 0, _, _, _, _, _, p => (.leave, p.exhaust)
  | n + 1, tested, whileTrue, condition, body, status, p =>
    match evalList n true condition p with
    | (.next, p) =>
      if p.stopped then (.leave, p)
      else if (p.status = 0) = whileTrue then
        match evalList n tested body p with
        | (.next, p) | (.again 0, p) | (.again 1, p) =>
          if p.stopped then (.leave, p) else evalLoop n tested whileTrue condition body p.status p
        | (.out k, p) => (if k ≤ 1 then .next else .out (k - 1), { p with status := 0 })
        | (.again k, p) => (.again (k - 1), p)
        | other => other
      else (.next, { p with status })
    | (.out k, p) => (if k ≤ 1 then .next else .out (k - 1), p)
    | other => other

def evalEach : Nat → Bool → String → List String → List Command → Process → Flow × Process
  | 0, _, _, _, _, p => (.leave, p.exhaust)
  | _ + 1, _, _, [], _, p => (.next, p)
  | n + 1, tested, name, value :: values, body, p =>
    match evalList n tested body (p.assign name value) with
    | (.next, p) | (.again 0, p) | (.again 1, p) =>
      if p.stopped then (.leave, p) else evalEach n tested name values body p
    | (.out k, p) => (if k ≤ 1 then .next else .out (k - 1), { p with status := 0 })
    | (.again k, p) => (.again (k - 1), p)
    | other => other

def evalArms : Nat → Bool → String → List (List Word × List Command) → Process → Flow × Process
  | 0, _, _, _, p => (.leave, p.exhaust)
  | _ + 1, _, _, [], p => (.next, p)
  | n + 1, tested, subject, (patterns, body) :: arms, p =>
    let (found, p) := matchesAny n subject patterns p
    if p.broken then (.leave, p)
    else if found then evalList n tested body p else evalArms n tested subject arms p

def matchesAny : Nat → String → List Word → Process → Bool × Process
  | 0, _, _, p => (false, p.exhaust)
  | _ + 1, _, [], p => (false, p)
  | n + 1, subject, pattern :: patterns, p =>
    let (fragments, p) := expandWord n pattern p
    if Glob.accepts (patternOf fragments) subject.toList then (true, p) else matchesAny n subject patterns p

def assignAll : Nat → List (String × Word) → Process → List String × Process
  | 0, _, p => ([], p.exhaust)
  | _ + 1, [], p => ([], p)
  | n + 1, (name, word) :: rest, p =>
    let (value, p) := expandText n word p
    if p.broken then ([], p)
    else
      let (shown, p) := assignAll n rest (p.assign name value)
      ((name ++ "=" ++ value) :: shown, p)

def evalSimple : Nat → Nat → List (String × Word) → List Word → List Redirect → Process → Flow × Process
  | 0, _, _, _, _, p => (.leave, p.exhaust)
  | n + 1, line, assignments, words, redirects, p =>
    let before := { p with status := 0 }
    let (fields, p) := expandFields n words p
    if p.broken then (.leave, p)
    else
      match fields with
      | [] =>
        -- Assignments alone give zero, unless a script is expanded in one of them.
        let status := if words.isEmpty ∧ assignments.isEmpty then before.status else
          (if p.computer.clockMs = before.computer.clockMs ∧ words.isEmpty then 0 else p.status)
        let (shown, p) := assignAll n assignments { p with status }
        if p.broken then (.leave, p)
        else
          let p := if p.switches.trace ∧ !shown.isEmpty then p.complain (traceLine shown) else p
          match evalRedirects n redirects p with
          | (true, after) => (.next, { after with descriptors := p.descriptors })
          | (false, after) => (if after.broken then .leave else .next, { after with descriptors := p.descriptors })
      | name :: args =>
        let outer := p
        let (shown, p) := assignAll n assignments p
        let names : List String := assignments.map Prod.fst
        let p := { p with exported := names ++ p.exported }
        if p.broken then (.leave, p)
        else
          let p := if p.switches.trace then p.complain (traceLine (shown ++ fields)) else p
          match evalRedirects n redirects p with
          | (false, failed) =>
            (if failed.broken ∨ name = "exec" then .leave else .next, { failed with descriptors := p.descriptors })
          | (true, inner) =>
            let (flow, after) := command n name args { inner with line }
            -- Without a command, `exec` redirects the shell itself.
            let keeps := name = "exec" ∧ args.isEmpty
            let after := if keeps then after else { after with descriptors := p.descriptors }
            let restored := assignments.foldl
              (fun (q : Process) (x, _) ↦
                match outer.lookup? x with
                | some v => q.assign x v
                | none => { q with values := q.values.filter (·.1 ≠ x) })
              after
            (flow, if assignments.isEmpty then after else { restored with exported := outer.exported })

def command : Nat → String → List String → Process → Flow × Process
  | 0, _, _, p => (.leave, p.exhaust)
  | n + 1, name, args, p =>
    match p.functions.find? (·.1 = name) with
    | some (_, body) => call n body args p
    | none =>
      let refuse (message : String) : Flow × Process := (.leave, p.failAt 2 message)
      let count (k : Nat → Flow × Process) : Flow × Process :=
        match args with
        | [] => k 1
        | a :: _ =>
          match Number.decimal? a.toList with
          | some m => k m
          | none => refuse (name ++ ": Illegal number: " ++ a)
      match name with
      | "exit" =>
        if args.isEmpty then (.leave, p) else count fun m ↦ (.leave, { p with status := m % 256 })
      | "return" => if args.isEmpty then (.back, p) else count fun m ↦ (.back, { p with status := m % 256 })
      | "break" => count fun m ↦ (if p.loops = 0 then .next else .out m, { p with status := 0 })
      | "continue" => count fun m ↦ (if p.loops = 0 then .next else .again m, { p with status := 0 })
      | "local" => if p.calls = 0 then refuse "local: not in a function" else (.next, declareLocal args p)
      | "" => (.next, p.failAt 127 ": Permission denied")
      | "shift" =>
        count fun m ↦
          if m ≤ p.args.length then (.next, { p with args := p.args.drop m, status := 0 })
          else refuse "shift: can't shift that many"
      | "eval" => evalText n (" ".intercalate args) { p with status := 0 }
      | "." =>
        match args with
        | path :: _ =>
          match p.read path with
          | .ok (bytes, _) =>
            match evalText n (textOf bytes) { p with status := 0 } with
            | (.back, p) => (.next, p)
            | other => other
          | .error fault => refuse (".: " ++ openFault path false fault)
        | [] => (.next, p)
      | "exec" =>
        match args with
        | [] => (.next, { p with status := 0 })
        | program :: _ =>
          match launch n args p with
          | .ok inner => (.leave, { p.rejoin inner with traps := [] })
          | .error fault =>
            let (status, message) := startFault program fault
            (.leave, p.failAt status ("exec: " ++ message))
      | "command" =>
        match args with
        | "-v" :: name :: _ =>
          match typeOf name p with
          | some path => (.next, { p.say (if path.startsWith "/" then path else name) with status := 0 })
          | none => (.next, { p with status := 127 })
        | name :: rest => command n name rest { p with functions := [] }
        | [] => (.next, { p with status := 0 })
      | "trap" =>
        match args with
        | action :: signals =>
          let signals := signals.filterMap Signal.number?
          let others := p.traps.filter fun (s, _) ↦ !signals.any fun k ↦ toString k = s
          let added := if action = "-" then [] else signals.map fun k ↦ (toString k, action)
          (.next, { p with traps := added ++ others, status := 0 })
        | [] => (.next, { p with status := 0 })
      | "kill" => signalTo n args p
      | _ =>
        match builtIn? name with
        | some f => (.next, f args p)
        | none =>
          match launch n (name :: args) p with
          | .ok inner =>
            let after := { p.rejoin inner with killed := none }
            match inner.killed with
            | some signal =>
              -- These two are not worth a message.
              let after := if signal = 13 ∨ signal = 2 then after else after.complain (Signal.report signal)
              (.next, { after with status := 128 + signal })
            | none => (.next, after)
          | .error .unknownFormat =>
            match p.read name with
            | .ok (bytes, _) => (.next, p.rejoin (runScript n (textOf bytes) { p with name, args, traps := [] }))
            | .error fault => (.next, p.failAt 126 (startFault name fault).2)
          | .error fault =>
            let (status, message) := startFault name fault
            (.next, p.failAt status message)

def signalTo : Nat → List String → Process → Flow × Process
  | 0, _, p => (.leave, p.exhaust)
  | n + 1, args, p =>
    let (signal, targets) : Option Nat × List String :=
      match args with
      | "-s" :: name :: rest => (Signal.number? name, rest)
      | "-l" :: _ => (some 0, [])
      | "--" :: rest => (some 15, rest)
      | a :: rest =>
        match a.toList with
        | '-' :: name => (Signal.number? (String.ofList name), rest)
        | _ => (some 15, a :: rest)
      | [] => (some 15, [])
    match signal with
    | none => (.next, p.failAt 2 ("kill: Illegal option " ++ (args.headD "")))
    | some signal =>
      let reached := targets.any fun t ↦ t = toString p.pid || t = "0" || t = "-" ++ toString p.pid
      if !reached then
        if targets.isEmpty then (.next, p.failAt 2 "kill: Usage: kill [-s sigspec | -signum | -sigspec] [pid | job]... or\nkill -l [exitstatus]")
        else (.next, { p.failAt 1 "kill: No such process\n" with status := 1 })
      else
        match p.traps.find? fun t ↦ t.1 = toString signal with
        | some (_, action) =>
          if signal = 9 then (.leave, p.receive signal)
          else if signal = 0 ∨ action.isEmpty then (.next, { p with status := 0 })
          else
            let (flow, after) := evalText n action { p with status := 0 }
            (flow, { after with status := 0 })
        | none =>
          let p := { p.receive signal with status := 0 }
          (if p.stopped then .leave else .next, p)

def call : Nat → Command → List String → Process → Flow × Process
  | 0, _, _, p => (.leave, p.exhaust)
  | n + 1, body, args, p =>
    if maxCalls ≤ p.calls then
      (.leave, p.failAt 2 ("Maximum function recursion depth (" ++ toString maxCalls ++ ") reached"))
    else
      let (flow, after) := eval n false body { p with args, outside := [], calls := p.calls + 1, loops := 0 }
      let after := after.outside.foldl
        (fun (q : Process) (x, v) ↦
          match v with
          | some v => q.assign x v
          | none => { q with values := q.values.filter (·.1 ≠ x) })
        after
      let after := { after with args := p.args, outside := p.outside, calls := p.calls, loops := p.loops }
      (if flow = .leave then .leave else .next, after)

def evalText : Nat → String → Process → Flow × Process
  | 0, _, p => (.leave, p.exhaust)
  | n + 1, text, p => evalScript n (Script.ofText text) p

def evalScript : Nat → Script → Process → Flow × Process
  | 0, _, p => (.leave, p.exhaust)
  | n + 1, script, p =>
    match script.lines with
    | commands :: lines =>
      match evalList n false commands p with
      | (.next, p) => if p.stopped then (.leave, p) else evalScript n ⟨lines, script.fault⟩ p
      | (.out _, p) | (.again _, p) => evalScript n ⟨lines, script.fault⟩ p
      | other => other
    | [] =>
      match script.fault with
      | none => (.next, p)
      | some (line, message) => (.leave, { p with line }.failAt 2 message)

def runScript : Nat → String → Process → Process
  | 0, _, p => p.exhaust
  | n + 1, text, p =>
    let (_, after) := evalText n text { p with depth := p.depth + 1, broken := false }
    if after.stopped then after
    else
      -- A trap for leaving is carried out whatever the status was, and keeps it.
      match after.traps.find? (·.1 = "0") with
      | none => after
      | some (_, action) =>
        let (flow, final) := evalText n action { after with traps := [], broken := false }
        if flow = .leave then final else { final with status := after.status }

def launch : Nat → List String → Process → Except Fault Process
  | 0, _, p => .ok p.exhaust
  | n + 1, argv, p => do
    if argv.any fun a ↦ a.contains (Char.ofNat 0) then throw .nulInCommand
    match argv with
    | [] => throw .notFound
    | path :: args =>
      let p := { p with
        values := Tools.exports p, functions := [], traps := [], outside := [], switches := .none
        calls := 0, loops := 0, fixed := [], status := 0, line := 1, pid := p.pid + 1, depth := p.depth + 1, broken := false }
      -- Programs that start one another without end are killed when the memory is used up.
      if maxDepth < p.depth then return p.receive 11
      match ← lookUp path p with
      | .bare _ _ => throw .unknownFormat
      | .script words file => launch n (words ++ file :: args) p
      | .program name =>
        match Tools.table.find? (·.1 = name) with
        | some (_, tool) => return Tools.run name tool args p
        | none =>
          match name with
          | "sh" | "dash" => return startShell n path args p
          | "env" =>
            let given := args.takeWhile (·.contains '=')
            let rest := (args.drop given.length).filter (· ≠ "-i")
            let p := declare true given p
            match rest with
            | [] => return Tools.printenv [] p
            | program :: _ =>
              match launch n rest p with
              | .ok after => return after
              | .error fault =>
                let status := if fault = .notFound then 127 else 126
                return p.fail status ("env: '" ++ program ++ "': " ++ faultText fault)
          | "python3" =>
            match args with
            | "--version" :: _ => return p.say "Python 3"
            | file :: _ =>
              match p.read file with
              | .ok (bytes, _) =>
                let o := Snippet.run file (textOf bytes)
                return { (p.write 1 (bytesOf o.stdout)).write 2 (bytesOf o.stderr) with status := o.status }
              | .error fault =>
                return p.fail 2 (name ++ ": can't open file '" ++ file ++ "': " ++ fault.message)
            | [] => return p
          | "true" => return p
          | "false" => return { p with status := 1 }
          | "echo" => return plainEcho args p
          | "pwd" => return p.say (pathOf p.dir)
          | "kill" => return (signalTo n args { p with pid := p.pid - 1 }).2
          | _ => return ((builtIn? name).getD fun _ p ↦ p) args { p with name }

def startShell : Nat → String → List String → Process → Process
  | 0, _, _, p => p.exhaust
  | n + 1, path, args, p =>
    let shell (status : Nat) (message : String) : Process := p.fail status (path ++ ": 0: " ++ message)
    match shellOptions args p false with
    | .error message => shell 2 message
    | .ok (p, true, text :: rest) =>
      runScript n text { p with name := rest.headD path, args := rest.drop 1 }
    | .ok (_, true, []) => shell 2 "-c requires an argument"
    | .ok (p, false, file :: rest) =>
      match p.read file with
      | .ok (bytes, _) => runScript n (textOf bytes) { p with name := file, args := rest }
      | .error .isDirectory => { p with status := 0 }
      | .error fault => shell 2 (openFault file false fault)
    | .ok (p, false, []) =>
      let text := textOf p.input
      runScript n text { p.leave [] with name := path, args := [] }

end

end CodeRepair.Bench
