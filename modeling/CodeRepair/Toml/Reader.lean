import CodeRepair.Toml.Lexeme

/-!
Reading a TOML document. Keys and headers add to a tree that remembers how each of its tables came about, because
a table may be opened again only as long as nothing but its parts has named it.
-/
namespace CodeRepair.Toml

/-- How a table came about: from a header or braces of its own, as a part of the name in a header, or as a part
of a dotted key. -/
inductive Origin
  | named
  | header
  | dotted
  deriving DecidableEq, Repr

inductive Node
  | value (v : Value)
  | table (origin : Origin) (members : List (String × Node))
  | tables (items : List (List (String × Node)))

abbrev Members := List (String × Node)

def Members.get? (ms : Members) (key : String) : Option Node := (ms.find? (·.1 = key)).map (·.2)

def Members.set (ms : Members) (key : String) (node : Node) : Members :=
  if ms.any (·.1 = key) then ms.map fun m ↦ if m.1 = key then (key, node) else m else ms ++ [(key, node)]

/-- The table under some path changed, the tables on the way being made where they are missing. A dotted key must
not enter a table that has a header or braces of its own. -/
def Members.update (dotted : Bool) (f : Origin → Members → Option Members) (origin : Origin) (ms : Members) :
    List String → Option Members
  | [] => f origin ms
  | key :: path =>
    match ms.get? key with
    | none => do
      let origin := if dotted then Origin.dotted else .header
      return ms.set key (.table origin (← Members.update dotted f origin [] path))
    | some (.value _) => none
    | some (.table origin inner) => do
      if dotted ∧ origin = .named then none
      return ms.set key (.table origin (← Members.update dotted f origin inner path))
    | some (.tables items) => do
      -- A path goes on into the newest table of an array.
      let last ← items.getLast?
      return ms.set key (.tables (items.dropLast ++ [← Members.update dotted f .named last path]))

/-- A key and its value added to a table. The table that a dotted key names must have come about by dotted keys,
and the one that holds a plain key must not. -/
def Members.addValue (origin : Origin) (ms : Members) (path : List String) (v : Value) : Option Members := do
  let key ← path.getLast?
  let way := path.dropLast
  Members.update true
    (fun origin ms ↦
      -- With no way to go, the table is the one that was opened; with one, it is what dotted keys made.
      if decide (origin = .dotted) = way.isEmpty then none
      else if (ms.get? key).isSome then none
      else some (ms ++ [(key, .value v)]))
    origin ms way

def Members.openTable (ms : Members) (path : List String) : Option Members := do
  let key ← path.getLast?
  Members.update false
    (fun _ ms ↦
      match ms.get? key with
      | none => some (ms ++ [(key, .table .named [])])
      -- Named by the headers of its parts only so far: it gets its own header, and a place after what is there.
      | some (.table .header inner) => some (ms.filter (·.1 ≠ key) ++ [(key, .table .named inner)])
      | _ => none)
    .named ms path.dropLast

def Members.openItem (ms : Members) (path : List String) : Option Members := do
  let key ← path.getLast?
  Members.update false
    (fun _ ms ↦
      match ms.get? key with
      | none => some (ms ++ [(key, .tables [[]])])
      | some (.tables items) => some (ms.set key (.tables (items ++ [[]])))
      | _ => none)
    .named ms path.dropLast

/-- A key and its value added to the table that was opened last. -/
def Members.addUnder (ms : Members) (opened path : List String) (v : Value) : Option Members :=
  Members.update false (fun origin ms ↦ Members.addValue origin ms path v) .named ms opened

mutual

def Node.toValue : Node → Value
  | .value v => v
  | .table _ ms => .table (membersToValue ms)
  | .tables items => .array (itemsToValue items)

def membersToValue : List (String × Node) → List (String × Value)
  | [] => []
  | (k, n) :: ms => (k, n.toValue) :: membersToValue ms

def itemsToValue : List (List (String × Node)) → List Value
  | [] => []
  | ms :: rest => .table (membersToValue ms) :: itemsToValue rest

end

def isKeyChar (c : Char) : Bool := c.isAlphanum || c = '_' || c = '-'

def simpleKey : Reader String := fun cs ↦
  match cs with
  | '"' :: _ | '\x27' :: _ => shortString cs
  | cs =>
    let run := cs.takeWhile isKeyChar
    if run.isEmpty then none else some (String.ofList run, cs.drop run.length)

def key (done : List String) (cs : List Char) : Nat → Option (List String × List Char)
  | 0 => none
  | fuel + 1 => do
    let (part, rest) ← simpleKey (skipBlanks cs)
    match skipBlanks rest with
    | '.' :: rest => key (part :: done) rest fuel
    | rest => return ((part :: done).reverse, rest)

def depthLimit : Nat := 80

mutual

def value (fuel depth : Nat) (cs : List Char) : Option (Value × List Char) :=
  match fuel with
  | 0 => none
  | fuel + 1 =>
    match cs with
    | [] => none
    | c :: rest =>
      if c = '"' ∨ c = '\x27' then (string cs).map fun (s, rest) ↦ (.string s, rest)
      else if c = '[' then
        if depth = 0 then none
        else (items fuel (depth - 1) [] rest).map fun (vs, rest) ↦ (.array vs, rest)
      else if c = '\x7b' then
        if depth = 0 then none
        else
          match skipBlanks rest with
          | '\x7d' :: rest => some (.table [], rest)
          | rest => (pairs fuel (depth - 1) [] rest).map fun (ms, rest) ↦ (.table (membersToValue ms), rest)
      else if c = 't' then
        (Text.dropPattern? ['t', 'r', 'u', 'e'] cs).map fun rest ↦ (.bool true, rest)
      else if c = 'f' then
        (Text.dropPattern? ['f', 'a', 'l', 's', 'e'] cs).map fun rest ↦ (.bool false, rest)
      else
        -- Each of these may begin like the next one, so the longest form comes first.
        match dateTime cs, float cs, integer cs with
        | some (_, rest), _, _ => some (.dateTime, rest)
        | none, some (x, rest), _ => some (.float x, rest)
        | none, none, some (n, rest) => some (.int n, rest)
        | none, none, none => none

def items (fuel depth : Nat) (done : List Value) (cs : List Char) : Option (List Value × List Char) :=
  match fuel with
  | 0 => none
  | fuel + 1 =>
    match skipLines cs (cs.length + 1) with
    | ']' :: rest => some (done.reverse, rest)
    | cs => do
      let (v, rest) ← value fuel depth cs
      match skipLines rest (rest.length + 1) with
      | ']' :: rest => some ((v :: done).reverse, rest)
      | ',' :: rest => items fuel depth (v :: done) rest
      | _ => none

def pairs (fuel depth : Nat) (done : Members) (cs : List Char) : Option (Members × List Char) :=
  match fuel with
  | 0 => none
  | fuel + 1 => do
    let (path, rest) ← key [] cs (cs.length + 1)
    if depthLimit ≤ path.length then none
    let (v, rest) ← value fuel depth (skipBlanks (← mark '=' rest))
    let done ← Members.addValue .named done path v
    match skipBlanks rest with
    | '\x7d' :: rest => return (done, rest)
    | ',' :: rest => pairs fuel depth done rest
    | _ => none

end

/-- The lines of a document, added to what has been read under the header `opened`. -/
def document (ms : Members) (opened : List String) (cs : List Char) : Nat → Option Members
  | 0 => none
  | fuel + 1 =>
    match skipBlanks cs with
    | [] => some ms
    | '[' :: '[' :: rest => do
      let (path, rest) ← key [] rest (rest.length + 1)
      if depthLimit ≤ path.length then none
      let rest ← mark ']' (← mark ']' rest)
      document (← Members.openItem ms path) path (← endLine? rest) fuel
    | '[' :: rest => do
      let (path, rest) ← key [] rest (rest.length + 1)
      if depthLimit ≤ path.length then none
      let rest ← mark ']' rest
      document (← Members.openTable ms path) path (← endLine? rest) fuel
    | c :: rest =>
      if c = '#' ∨ (lineBreak? (c :: rest)).isSome then do document ms opened (← endLine? (c :: rest)) fuel
      else do
        let (path, after) ← key [] (c :: rest) (rest.length + 2)
        if depthLimit ≤ path.length then none
        let after := skipBlanks (← mark '=' after)
        let (v, after) ← value (2 * after.length + 2) (depthLimit - 1) after
        document (← Members.addUnder ms opened path v) opened (← endLine? after) fuel

/-- The table that a text is; a byte order mark may stand before it. -/
def parse (text : String) : Option (List (String × Value)) :=
  let cs := text.toList
  let cs := if cs.head? = some (Char.ofNat 0xFEFF) then cs.tail else cs
  (document [] [] cs (cs.length + 1)).map membersToValue

end CodeRepair.Toml
