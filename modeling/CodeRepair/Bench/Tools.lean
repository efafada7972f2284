import CodeRepair.Bench.Format
import CodeRepair.Bench.Pattern
import CodeRepair.Bench.Condition

/-!
The small programs of the computer in memory. Each gets its arguments and changes the process it runs in; lines are
split at line feeds and nowhere else. They stand in for the tools of a system, which are no part of the program.
-/
namespace CodeRepair.Bench

open Files (Tree Node Place Fault)

abbrev Tool := List String → Process → Process

def faultText (f : Fault) : String := f.text.1

/-- Arguments apart: the letters of the options, and the rest. Options end at two dashes. -/
def splitOptions : List String → List Char × List String
  | [] => ([], [])
  | "--" :: rest => ([], rest)
  | a :: rest =>
    let (letters, operands) := splitOptions rest
    match a.toList with
    | '-' :: c :: cs => if c = '-' then (letters, operands) else (c :: cs ++ letters, operands)
    | _ => (letters, a :: operands)

/-- The lines of some bytes, each without its line feed, and whether the last one has one. -/
def splitLines (bytes : List UInt8) : List (List UInt8) × Bool :=
  let pieces := bytes.foldr
    (fun b (acc : List (List UInt8)) ↦
      match acc with
      | [] => if b = 10 then [[], []] else [[b]]
      | piece :: rest => if b = 10 then [] :: piece :: rest else (b :: piece) :: rest)
    [[]]
  match pieces.getLast? with
  | some [] => (pieces.dropLast, true)
  | _ => (pieces, pieces.isEmpty)

def joinLines (lines : List (List UInt8)) (ended : Bool) : List UInt8 :=
  match lines.getLast? with
  | none => []
  | some last => lines.dropLast.flatMap (· ++ [10]) ++ (if ended then last ++ [10] else last)

namespace Process

/-- The content of the files named, or of the input when none is. What cannot be read is told. -/
def contents (p : Process) (tool : String) (names : List String) : List UInt8 × Process :=
  let names := if names.isEmpty then ["-"] else names
  let (chunks, p) := names.foldl
    (fun (chunks, p) name ↦
      if name = "-" then (p.input :: chunks, p.leave [])
      else
        match p.read name with
        | .ok (bytes, unending) => (bytes :: chunks, if unending then { p with endless := true } else p)
        | .error fault => (chunks, p.fail 1 (tool ++ ": " ++ name ++ ": " ++ faultText fault)))
    (([] : List (List UInt8)), p)
  (chunks.reverse.flatten, p)

def filter (p : Process) (tool : String) (names : List String) (f : List UInt8 → List UInt8) : Process :=
  let (bytes, p) := p.contents tool names
  p.out (f bytes)

def forEach (p : Process) (tool what : String) (names : List String) (change : String → Tree → Except Fault Tree) :
    Process :=
  names.foldl
    (fun p name ↦
      match p.alter (change name) with
      | .ok p => p
      | .error fault => p.fail 1 (tool ++ ": " ++ what ++ " '" ++ name ++ "': " ++ faultText fault))
    p

end Process

namespace Tools

def cat : Tool := fun args p ↦
  let (options, names) := splitOptions args
  p.filter "cat" names fun bytes ↦
    if options.contains 'n' then
      let (lines, ended) := splitLines bytes
      joinLines (lines.zipIdx.map fun (l, i) ↦ ({ (default : Slot) with width := 6 }.fitInt (i + 1)) ++ 9 :: l) ended
    else bytes

def sleepMs? (s : String) : Option Nat :=
  let scale (k : Nat) (s : String) : Option Nat := (thousandths? s).map (· * k)
  match s.toList.getLast? with
  | some 's' => scale 1 (s.dropEnd 1).toString
  | some 'm' => scale 60 (s.dropEnd 1).toString
  | some 'h' => scale 3600 (s.dropEnd 1).toString
  | some 'd' => scale 86400 (s.dropEnd 1).toString
  | _ => if s = "infinity" then some (Nat.pow 10 15) else scale 1 s

def sleep : Tool := fun args p ↦
  match args.mapM sleepMs?, args with
  | _, [] => p.fail 1 "sleep: missing operand\nTry 'sleep --help' for more information."
  | some times, _ => p.sleep (times.foldl (· + ·) 0)
  | none, _ =>
    let bad := (args.filter fun a ↦ (sleepMs? a).isNone).map fun a ↦ "sleep: invalid time interval '" ++ a ++ "'"
    p.fail 1 ("\n".intercalate (bad ++ ["Try 'sleep --help' for more information."]))

def lastPart (path : String) : String := ((Files.Path.names path).getLast?).getD (if path.isEmpty then "" else "/")

def basename : Tool := fun args p ↦
  match args with
  | [] => p.fail 1 "basename: missing operand\nTry 'basename --help' for more information."
  | path :: rest =>
    let name := lastPart path
    let name :=
      match rest with
      | suffix :: _ =>
        if name ≠ suffix ∧ name.endsWith suffix then (name.dropEnd suffix.length).toString else name
      | [] => name
    p.say name

def dirname : Tool := fun args p ↦
  args.foldl
    (fun p path ↦
      match Files.Path.parent? path with
      | some parent => p.say (if parent.isEmpty then "." else parent)
      | none => p.say (if path.isEmpty then "." else "/"))
    p

def optionValue? (letter : Char) : List String → Option String
  | [] => none
  | a :: rest =>
    match a.toList with
    | '-' :: c :: value =>
      if c = letter then (if value.isEmpty then rest.head? else some (String.ofList value))
      else optionValue? letter rest
    | _ => optionValue? letter rest

/-- The arguments without options, of which those with these letters take a value; the first argument may be such a
value. -/
def operandsAfter (withValue : List Char) : (isValue : Bool) → List String → List String
  | _, [] => []
  | true, _ :: rest => operandsAfter withValue false rest
  | false, a :: rest =>
    if a = "--" then rest
    else
      match a.toList with
      | ['-', c] => operandsAfter withValue (withValue.contains c) rest
      | '-' :: _ :: _ => operandsAfter withValue false rest
      | _ => a :: operandsAfter withValue false rest

def operands (withValue : List Char) (args : List String) : List String := operandsAfter withValue false args

def splitBytes (by_ : UInt8) (bytes : List UInt8) : List (List UInt8) :=
  bytes.foldr
    (fun b (acc : List (List UInt8)) ↦
      match acc with
      | [] => if b = by_ then [[], []] else [[b]]
      | piece :: rest => if b = by_ then [] :: piece :: rest else (b :: piece) :: rest)
    [[]]

def cut : Tool := fun args p ↦
  let names := operands ['c', 'b', 'f', 'd'] args
  let pick {α : Type} (ranges : List (Nat × Nat)) (xs : List α) : List α :=
    (xs.zipIdx.filter fun (_, i) ↦ inRanges ranges (i + 1)).map (·.1)
  let lines (f : List UInt8 → List UInt8) : Process :=
    p.filter "cut" names fun bytes ↦ joinLines ((splitLines bytes).1.map f) true
  match ((optionValue? 'c' args) <|> (optionValue? 'b' args)).bind ranges?, (optionValue? 'f' args).bind ranges? with
  | some ranges, _ => lines (pick ranges)
  | none, some ranges =>
    let delimiter := (bytesOf ((optionValue? 'd' args).getD "\t")).headD 9
    lines fun line ↦
      if line.contains delimiter then
        List.intercalate [delimiter] (pick ranges (splitBytes delimiter line))
      else line
  | none, none =>
    p.fail 1 "cut: you must specify a list of bytes, characters, or fields\nTry 'cut --help' for more information."

def head : Tool := fun args p ↦
  let names := operands ['n', 'c'] args
  let (bytes, p) := p.contents "head" names
  let take (kept : List UInt8) : Process :=
    let p := if names.isEmpty then p.leave (bytes.drop kept.length) else p
    { p with endless := p.endless && kept.length = bytes.length }.out kept
  match (optionValue? 'c' args).bind plainInt? with
  | some n => take (bytes.take (if n < 0 then bytes.length - n.natAbs else n.toNat))
  | none =>
    let n := ((optionValue? 'n' args).bind plainInt?).getD 10
    let short := args.findSome? fun a ↦
      match a.toList with
      | '-' :: ds => Number.decimal? ds
      | _ => none
    let (lines, ended) := splitLines bytes
    let k := short.getD (if n < 0 then lines.length - n.natAbs else n.toNat)
    take (joinLines (lines.take k) (ended || k < lines.length))

def tail : Tool := fun args p ↦
  let names := operands ['n', 'c'] args
  let number (s : String) : Option (Bool × Nat) :=
    match s.toList with
    | '+' :: ds => (Number.decimal? ds).map fun n ↦ (true, n)
    | '-' :: ds => (Number.decimal? ds).map fun n ↦ (false, n)
    | ds => (Number.decimal? ds).map fun n ↦ (false, n)
  let pick {α : Type} (k : Bool × Nat) (xs : List α) : List α :=
    if k.1 then xs.drop (k.2 - 1) else xs.drop (xs.length - k.2)
  p.filter "tail" names fun bytes ↦
    match (optionValue? 'c' args).bind number with
    | some k => pick k bytes
    | none =>
      let (lines, ended) := splitLines bytes
      let short := args.findSome? fun a ↦
        match a.toList with
        | '-' :: ds => (Number.decimal? ds).map fun n ↦ (false, n)
        | _ => none
      joinLines (pick ((((optionValue? 'n' args).bind number) <|> short).getD (false, 10)) lines) ended

def wc : Tool := fun args p ↦
  let (options, names) := splitOptions args
  let chosen := if options.isEmpty then ['l', 'w', 'c'] else options
  let isBlank (b : UInt8) : Bool := b = 32 || (9 ≤ b && b ≤ 13)
  let words (bytes : List UInt8) : Nat :=
    (bytes.foldl (fun (n, inside) b ↦ if isBlank b then (n, false) else (if inside then n else n + 1, true))
      ((0 : Nat), false)).1
  let counts (bytes : List UInt8) : List Nat :=
    (if chosen.contains 'l' then [bytes.count 10] else []) ++ (if chosen.contains 'w' then [words bytes] else []) ++
      (if chosen.contains 'm' then [(Text.Utf8.decode bytes).length] else []) ++
      (if chosen.contains 'c' then [bytes.length] else [])
  let show_ (width : Nat) (ns : List Nat) (name : String) : List UInt8 :=
    let cells := ns.map fun n ↦ { (default : Slot) with width := width }.fitInt n
    List.intercalate [32] cells ++ bytesOf (if name.isEmpty then "\n" else " " ++ name ++ "\n")
  let one := chosen.eraseDups.length = 1
  match names with
  | [] =>
    let (bytes, p) := p.contents "wc" []
    p.out (show_ (if one then 0 else 7) (counts bytes) "")
  | names =>
    let (rows, p) := names.foldl
      (fun (rows, p) name ↦
        match p.read name with
        | .ok (bytes, _) => ((counts bytes, bytes.length, name) :: rows, p)
        | .error fault => (rows, p.fail 1 ("wc: " ++ name ++ ": " ++ faultText fault)))
      (([] : List (List Nat × Nat × String)), p)
    let rows := rows.reverse
    let width := if one ∧ rows.length ≤ 1 then 0 else (toString ((rows.map (·.2.1)).foldl (· + ·) 0)).length
    let p := rows.foldl (fun p (ns, _, name) ↦ p.out (show_ width ns name)) p
    if rows.length ≤ 1 then p
    else
      let total := (rows.map (·.1)).foldl (fun acc ns ↦ if acc.isEmpty then ns else List.zipWith (· + ·) acc ns) []
      p.out (show_ width total "total")

def tr : Tool := fun args p ↦
  let (options, sets) := splitOptions args
  let complement := options.contains 'c' || options.contains 'C'
  let first := bytesOfSet ((sets[0]?).getD "")
  let second := bytesOfSet ((sets[1]?).getD "")
  let inFirst (b : UInt8) : Bool := first.contains b != complement
  let squeeze (inSet : UInt8 → Bool) (bytes : List UInt8) : List UInt8 :=
    (bytes.foldl
      (fun (acc : List UInt8) b ↦ if inSet b ∧ acc.head? = some b then acc else b :: acc) []).reverse
  let translate (b : UInt8) : UInt8 :=
    if complement then (if inFirst b then second.getLast?.getD b else b)
    else
      match first.idxOf? b with
      | some i => ((second[i]?) <|> second.getLast?).getD b
      | none => b
  p.filter "tr" [] fun bytes ↦
    if options.contains 'd' then
      let bytes := bytes.filter fun b ↦ !inFirst b
      if options.contains 's' then squeeze second.contains bytes else bytes
    else if second.isEmpty then (if options.contains 's' then squeeze inFirst bytes else bytes)
    else
      let bytes := bytes.map translate
      if options.contains 's' then squeeze second.contains bytes else bytes

def bytesLe : List UInt8 → List UInt8 → Bool
  | [], _ => true
  | _ :: _, [] => false
  | a :: as, b :: bs => a < b || (a = b && bytesLe as bs)

def sort : Tool := fun args p ↦
  let (options, names) := splitOptions args
  let value (line : List UInt8) : Int := (leadingInt (textOf line).toList).1
  let le (a b : List UInt8) : Bool :=
    if options.contains 'n' ∧ value a ≠ value b then value a < value b else bytesLe a b
  let le (a b : List UInt8) : Bool := if options.contains 'r' then le b a else le a b
  p.filter "sort" names fun bytes ↦
    let lines := (splitLines bytes).1.mergeSort le
    joinLines (if options.contains 'u' then lines.eraseDups else lines) true

def uniq : Tool := fun args p ↦
  let (options, names) := splitOptions args
  p.filter "uniq" names fun bytes ↦
    let groups := (splitLines bytes).1.foldl
      (fun (acc : List (Nat × List UInt8)) line ↦
        match acc with
        | (n, last) :: rest => if last = line then (n + 1, last) :: rest else (1, line) :: acc
        | [] => [(1, line)])
      []
    let count (n : Nat) : List UInt8 :=
      if options.contains 'c' then { (default : Slot) with width := 7 }.fitInt n ++ [32] else []
    joinLines (groups.reverse.map fun (n, line) ↦ count n ++ line) true

def seq : Tool := fun args p ↦
  match args.mapM plainInt? with
  | some numbers =>
    let (first, step, last) : Int × Int × Int :=
      match numbers with
      | [last] => (1, 1, last)
      | [first, last] => (first, 1, last)
      | first :: step :: last :: _ => (first, step, last)
      | [] => (1, 1, 0)
    if step = 0 then p.fail 1 "seq: invalid Zero increment value: '0'\nTry 'seq --help' for more information."
    else
      let count := if (0 < step ∧ last < first) ∨ (step < 0 ∧ first < last) then 0
        else ((last - first) / step).toNat + 1
      p.out ((List.range count).flatMap fun (i : Nat) ↦ bytesOf (toString (first + (i : Int) * step) ++ "\n"))
  | none =>
    let bad := (args.find? fun a ↦ (plainInt? a).isNone).getD ""
    p.fail 1 ("seq: invalid floating point argument: '" ++ bad ++ "'\nTry 'seq --help' for more information.")

def yes : Tool := fun args p ↦
  let line := bytesOf ((if args.isEmpty then "y" else " ".intercalate args) ++ "\n")
  { p.out (List.replicate (262144 / line.length + 1) line).flatten with endless := true }

def rm : Tool := fun args p ↦
  let (options, names) := splitOptions args
  let force := options.contains 'f'
  let deep := options.contains 'r' || options.contains 'R'
  if names.isEmpty ∧ !force then p.fail 1 "rm: missing operand\nTry 'rm --help' for more information." else
  p.forEach "rm" "cannot remove" names fun name t ↦
    match t.find p.dir name with
    | .error .notFound => if force then .ok t else .error .notFound
    | .error fault => .error fault
    | .ok (place, .directory) => if deep then .ok (t.prune place) else .error .isDirectory
    | .ok (place, _) => .ok (t.clear place)

def rmdir : Tool := fun args p ↦
  p.forEach "rmdir" "failed to remove" (splitOptions args).2 fun name t ↦
    match t.find p.dir name with
    | .ok (place, .directory) => if (t.list place).isEmpty then .ok (t.clear place) else .error .notEmpty
    | .ok _ => .error .notDirectory
    | .error fault => .error fault

def mkdir : Tool := fun args p ↦
  let (options, names) := splitOptions args
  p.forEach "mkdir" "cannot create directory" names fun name t ↦
    if options.contains 'p' then t.mkdirAll p.dir name else t.mkdir p.dir name

def touch : Tool := fun args p ↦
  p.forEach "touch" "cannot touch" (splitOptions args).2 fun name t ↦
    if t.holds p.dir name then .ok t else t.write p.dir name []

def executableBy (mode : String) : Option Bool :=
  match Number.decimal? mode.toList with
  | some _ => some (mode.toList.any fun c ↦ (octal? c).any (· % 2 = 1))
  | none =>
    if mode.contains 'x' then some (mode.contains '+' || mode.contains '=')
    else if mode.contains '=' then some false else none

def chmod : Tool := fun args p ↦
  match args.filter (fun a ↦ a ≠ "-R" ∧ a ≠ "-f" ∧ a ≠ "-v") with
  | mode :: names =>
    names.foldl
      (fun p name ↦
        match p.computer.tree.find p.dir name with
        | .ok (place, .file bytes executable) =>
          let node := Node.file bytes ((executableBy mode).getD executable)
          { p with computer.tree := p.computer.tree.put place node }
        | .ok _ => p
        | .error fault => p.fail 1 ("chmod: cannot access '" ++ name ++ "': " ++ faultText fault))
      p
  | [] => p.fail 1 "chmod: missing operand\nTry 'chmod --help' for more information."

def destination (p : Process) (source path : String) : String :=
  if p.computer.tree.isDirectory p.dir path then Files.Path.join path (lastPart source) else path

def copy (move : Bool) : Tool := fun args p ↦
  let tool := if move then "mv" else "cp"
  let names := (splitOptions args).2
  match names.getLast?, names.dropLast with
  | some last, source :: more =>
    (source :: more).foldl
      (fun p source ↦
        match p.computer.tree.find p.dir source with
        | .error fault => p.fail 1 (tool ++ ": cannot stat '" ++ source ++ "': " ++ faultText fault)
        | .ok (place, .file bytes executable) =>
          let target := destination p source last
          let changed : Except Fault Tree := do
            let t ← p.computer.tree.write p.dir target bytes
            let there ← t.locate p.dir target
            let t := match t.node? there with
              | some (.file _ _) => t.put there (.file bytes executable)
              | _ => t
            return if move ∧ there ≠ place then t.clear place else t
          match changed with
          | .ok t => { p with computer.tree := t }
          | .error fault => p.fail 1 (tool ++ ": cannot create regular file '" ++ target ++ "': " ++ faultText fault)
        | .ok _ => p.fail 1 (tool ++ ": -r not specified; omitting directory '" ++ source ++ "'"))
      p
  | _, _ => p.fail 1 (tool ++ ": missing file operand\nTry '" ++ tool ++ " --help' for more information.")

def ls : Tool := fun args p ↦
  let (options, names) := splitOptions args
  let visible (name : String) : Bool := options.contains 'a' || options.contains 'A' || !name.startsWith "."
  let lines (names : List String) : List UInt8 := names.flatMap fun n ↦ bytesOf (n ++ "\n")
  let dots := if options.contains 'a' then [".", ".."] else []
  let (files, dirs, p) := (if names.isEmpty then ["."] else names).foldl
    (fun (files, dirs, p) name ↦
      match p.computer.tree.find p.dir name with
      | .ok (place, .directory) | .ok (place, .sealed) => (files, (name, place) :: dirs, p)
      | .ok _ => (name :: files, dirs, p)
      | .error fault => (files, dirs, p.fail 2 ("ls: cannot access '" ++ name ++ "': " ++ faultText fault)))
    (([] : List String), ([] : List (String × Place)), p)
  let p := p.out (lines files.reverse)
  let many := 1 < names.length
  dirs.reverse.zipIdx.foldl
    (fun p ((name, place), i) ↦
      let gap := if many ∧ (0 < i ∨ !files.isEmpty) then "\n" else ""
      let title := if many then gap ++ name ++ ":\n" else ""
      p.out (bytesOf title ++ lines (dots ++ (p.computer.tree.list place).filter visible)))
    p

def grep : Tool := fun args p ↦
  let options := (splitOptions args).1
  let given := optionValue? 'e' args
  let rest := operands ['e'] args
  match (match given with | some g => some (g, rest) | none => rest.head?.map fun g ↦ (g, rest.drop 1)) with
  | none => p.fail 2 "Usage: grep [OPTION]... PATTERNS [FILE]...\nTry 'grep --help' for more information."
  | some (pattern, names) =>
    let lower (cs : List Char) : List Char := if options.contains 'i' then cs.map Char.toLower else cs
    let pattern := lower pattern.toList
    let parts :=
      if options.contains 'F' then pattern.map fun c ↦ RegexPart.one (.char c)
      else RegexPart.ofChars (options.contains 'E') (pattern.length + 1) pattern
    let matches_ (line : List UInt8) : Bool :=
      (RegexPart.search? parts 0 (lower (Text.Utf8.decode line))).isSome != options.contains 'v'
    let (bytes, p) := p.contents "grep" names
    let lines := (splitLines bytes).1
    let found := lines.zipIdx.filter fun (l, _) ↦ matches_ l
    let label (i : Nat) : List UInt8 := if options.contains 'n' then bytesOf (toString (i + 1) ++ ":") else []
    let p :=
      if options.contains 'q' then p
      else if options.contains 'c' then p.say (toString found.length)
      else p.out (joinLines (found.map fun (l, i) ↦ label i ++ l) true)
    if found.isEmpty then { p with status := max 1 p.status } else p

/-- A text put in place of a match: an ampersand stands for the match, a digit after a backslash for a group. -/
def expandMatch (whole : List Char) (groups : List (List Char)) : List Char → List Char
  | [] => []
  | '\\' :: c :: cs =>
    let piece :=
      if c.isDigit then
        let i := c.toNat - '0'.toNat
        if i = 0 then whole else (groups[i - 1]?).getD []
      else if c = 'n' then ['\n'] else if c = 't' then ['\t'] else [c]
    piece ++ expandMatch whole groups cs
  | '&' :: cs => whole ++ expandMatch whole groups cs
  | c :: cs => c :: expandMatch whole groups cs

def substitute (parts : List RegexPart) (new : List Char) (all : Bool) : Nat → Nat → List Char → Option (List Char)
  | 0, _, _ => none
  | n + 1, from_, line =>
    (RegexPart.search? parts from_ (line.drop from_)).map fun (start, m) ↦
      let whole := (line.take m.length).drop start
      let before := line.take start
      let piece := expandMatch whole (RegexPart.groups line m.marks) new
      let after := line.drop m.length
      if all ∧ !after.isEmpty then
        let next := if m.length = start then start + 1 else m.length
        let between := (line.take next).drop m.length
        let rest := (substitute parts new all n next line).map (·.drop next)
        before ++ piece ++ between ++ rest.getD (line.drop next)
      else before ++ piece ++ after

def untilChar (stop : Char) : List Char → List Char × List Char
  | [] => ([], [])
  | '\\' :: c :: cs =>
    let (a, b) := untilChar stop cs
    (if c = stop then c :: a else '\\' :: c :: a, b)
  | c :: cs =>
    if c = stop then ([], cs)
    else
      let (a, b) := untilChar stop cs
      (c :: a, b)

inductive SedAddress
  | line (n : Nat)
  | last
  | matching (parts : List RegexPart)
  deriving Repr

structure SedCommand where
  first : Option SedAddress
  last : Option SedAddress
  letter : Char
  parts : List RegexPart
  new : List Char
  flags : List Char
  deriving Repr

def sedAddress? (extended : Bool) (cs : List Char) : Option SedAddress × List Char :=
  match cs with
  | '$' :: rest => (some .last, rest)
  | '/' :: rest =>
    let (pattern, rest) := untilChar '/' rest
    (some (.matching (RegexPart.ofChars extended (pattern.length + 1) pattern)), rest)
  | _ =>
    let digits := cs.takeWhile Char.isDigit
    ((Number.decimal? digits).map .line, cs.drop digits.length)

def sedCommands? (extended : Bool) : Nat → List Char → Option (List SedCommand)
  | 0, _ => none
  | n + 1, cs =>
    match cs.dropWhile fun c ↦ c = ' ' ∨ c = ';' ∨ c = '\n' with
    | [] => some []
    | cs =>
      let (first, cs) := sedAddress? extended cs
      let (last, cs) :=
        match first, cs with
        | some _, ',' :: rest => sedAddress? extended rest
        | _, _ => (none, cs)
      match cs.dropWhile (· = ' ') with
      | 's' :: stop :: rest =>
        let (pattern, rest) := untilChar stop rest
        let (new, rest) := untilChar stop rest
        let flags := rest.takeWhile fun c ↦ c ≠ ';' ∧ c ≠ '\n' ∧ c ≠ ' '
        let command := ⟨first, last, 's', RegexPart.ofChars extended (pattern.length + 1) pattern, new, flags⟩
        (sedCommands? extended n (rest.drop flags.length)).map (command :: ·)
      | c :: rest =>
        if "pdq".toList.contains c then (sedCommands? extended n rest).map (⟨first, last, c, [], [], []⟩ :: ·) else none
      | [] => none

namespace SedAddress

def holds (a : SedAddress) (number count : Nat) (line : List Char) : Bool :=
  match a with
  | .line n => number = n
  | .last => number = count
  | .matching parts => (RegexPart.search? parts 0 line).isSome

def reached (a : SedAddress) (number count : Nat) : Bool :=
  match a with
  | .line n => n < number
  | .last => count < number
  | .matching _ => false

end SedAddress

def SedCommand.applies (c : SedCommand) (number count : Nat) (line : List Char) : Bool :=
  match c.first, c.last with
  | none, _ => true
  | some a, none => a.holds number count line
  | some (.line n), some b => n ≤ number && (!(b.reached number count) || number = n)
  | some a, some b => a.holds number count line && !(b.reached number count)

/-- The commands for one line: what is written before it, the line as it becomes, whether it is kept, and whether
it is the last. -/
def sedLine (number count : Nat) : List SedCommand → List Char → List (List Char) × Option (List Char) × Bool
  | [], line => ([], some line, false)
  | c :: rest, line =>
    if c.applies number count line then
      match c.letter with
      | 'd' => ([], none, false)
      | 'q' => ([], some line, true)
      | 'p' =>
        let (out, kept, ended) := sedLine number count rest line
        (line :: out, kept, ended)
      | _ =>
        match substitute c.parts c.new (c.flags.contains 'g') (line.length + 2) 0 line with
        | some line' =>
          let (out, kept, ended) := sedLine number count rest line'
          (if c.flags.contains 'p' then line' :: out else out, kept, ended)
        | none => sedLine number count rest line
    else sedLine number count rest line

def sed : Tool := fun args p ↦
  let options := (splitOptions args).1
  let given := optionValue? 'e' args
  let rest := operands ['e'] args
  let script := given <|> rest.head?
  let names := if given.isSome then rest else rest.drop 1
  let extended := options.contains 'E' || options.contains 'r'
  match script.bind fun s ↦ sedCommands? extended (s.length + 2) s.toList with
  | none => p.fail 1 "Usage: sed [OPTION]... \x7bscript-only-if-no-other-script\x7d [input-file]..."
  | some commands =>
    let quiet := options.contains 'n'
    p.filter "sed" names fun bytes ↦
      let (lines, ended) := splitLines bytes
      let count := lines.length
      let (out, _) := lines.zipIdx.foldl
        (fun (out, finished) (line, i) ↦
          if finished then (out, true)
          else
            let (extra, kept, last) := sedLine (i + 1) count commands (Text.Utf8.decode line)
            let kept := if quiet then [] else kept.toList
            (out ++ (extra ++ kept).map fun l ↦ (Text.Utf8.encode l, ended || i + 1 < count), last))
        (([] : List (List UInt8 × Bool)), false)
      out.flatMap fun (line, fed) ↦ if fed then line ++ [10] else line

def tee : Tool := fun args p ↦
  let (options, names) := splitOptions args
  let bytes := p.input
  let p := (p.leave []).out bytes
  names.foldl
    (fun p name ↦
      let old := if options.contains 'a' then ((p.read name).toOption.map (·.1)).getD [] else []
      match p.alter fun t ↦ t.write p.dir name (old ++ bytes) with
      | .ok p => p
      | .error fault => p.fail 1 ("tee: " ++ name ++ ": " ++ faultText fault))
    p

def rev : Tool := fun args p ↦
  p.filter "rev" (splitOptions args).2 fun bytes ↦
    let (lines, ended) := splitLines bytes
    joinLines (lines.map fun l ↦ Text.Utf8.encode (Text.Utf8.decode l).reverse) ended

def tac : Tool := fun args p ↦
  p.filter "tac" (splitOptions args).2 fun bytes ↦
    let (lines, ended) := splitLines bytes
    joinLines lines.reverse ended

def exports (p : Process) : List (String × String) :=
  p.exported.filterMap fun name ↦ (p.lookup? name).map fun value ↦ (name, value)

def printenv : Tool := fun args p ↦
  match args with
  | [] => (exports p).foldl (fun p (name, value) ↦ p.say (name ++ "=" ++ value)) p
  | names =>
    names.foldl
      (fun p name ↦
        match (exports p).find? (·.1 = name) with
        | some (_, value) => p.say value
        | none => { p with status := 1 })
      p

def test (name : String) : Tool := fun args p ↦
  match Condition.holds p args with
  | .ok true => p
  | .ok false => { p with status := 1 }
  | .error fault => p.failAt 2 (name ++ ": " ++ fault)

def expr : Tool := fun args p ↦
  let result (s : String) : Process := { p.say s with status := if s = "" ∨ s = "0" then 1 else 0 }
  let truth (b : Bool) : Process := result (if b then "1" else "0")
  match args with
  | [] => p.fail 2 "expr: missing operand\nTry 'expr --help' for more information."
  | ["length", s] => result (toString s.length)
  | [a, op, b] =>
    match plainInt? a, plainInt? b with
    | some x, some y =>
      match op with
      | "+" => result (toString (x + y))
      | "-" => result (toString (x - y))
      | "*" => result (toString (x * y))
      | "/" => if y = 0 then p.fail 2 "expr: division by zero" else result (toString (Int.tdiv x y))
      | "%" => if y = 0 then p.fail 2 "expr: division by zero" else result (toString (Int.tmod x y))
      | "=" => truth (x = y)
      | "!=" => truth (x ≠ y)
      | "<" => truth (x < y)
      | "<=" => truth (x ≤ y)
      | ">" => truth (y < x)
      | ">=" => truth (y ≤ x)
      | _ => p.fail 2 ("expr: syntax error: unexpected argument '" ++ op ++ "'")
    | _, _ =>
      match op with
      | "=" => truth (a = b)
      | "!=" => truth (a ≠ b)
      | "<" => truth (a < b)
      | ">" => truth (b < a)
      | "+" | "-" | "*" | "/" | "%" => p.fail 2 "expr: non-integer argument"
      | _ => p.fail 2 ("expr: syntax error: unexpected argument '" ++ op ++ "'")
  | [s] => result s
  | _ :: op :: _ => p.fail 2 ("expr: syntax error: unexpected argument '" ++ op ++ "'")

def table : List (String × Tool) :=
  [("cat", cat), ("sleep", sleep), ("basename", basename), ("dirname", dirname), ("cut", cut), ("head", head),
   ("tail", tail), ("wc", wc), ("tr", tr), ("sort", sort), ("uniq", uniq), ("seq", seq), ("yes", yes), ("rm", rm),
   ("rmdir", rmdir), ("mkdir", mkdir), ("touch", touch), ("chmod", chmod), ("cp", copy false), ("mv", copy true),
   ("ls", ls), ("grep", grep), ("sed", sed), ("tee", tee), ("rev", rev), ("tac", tac), ("printenv", printenv), ("expr", expr),
   ("sync", fun _ p ↦ p), ("nproc", fun _ p ↦ p.say "1")]

/-- A program does its work, after which its status counts. One that is asked for its version tells no more than
its name. One whose output nobody can take says so. -/
def run (name : String) (tool : Tool) (args : List String) (p : Process) : Process :=
  let p := { p with status := 0 }
  let work (p : Process) : Process := if args = ["--version"] then p.say name else tool args p
  match p.target? 1 with
  | some _ => work p
  | none =>
    let (index, p) := p.newStream []
    let after := work (p.redirect 1 (some (.stream index)))
    let written := after.streamText index
    let after := { after with descriptors := p.descriptors }
    if written.isEmpty ∧ name ≠ "cat" then after
    else
      let what := if name = "cat" then "standard output" else "write error"
      after.fail 1 (name ++ ": " ++ what ++ ": Bad file descriptor")

end Tools

end CodeRepair.Bench
