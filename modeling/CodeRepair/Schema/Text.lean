import CodeRepair.Schema.Shape
import CodeRepair.Json.Reader

/-!
Reading a JSON text along a shape. The text is read once from left to right, so the failure reported is the
first one in it, be it of form or of meaning.
-/
namespace CodeRepair.Schema

open Json Json.Access

/-- A reader of one value. -/
abbrev Reader := Cursor → Except Fault (Datum × Cursor)

def mismatchAt {α : Type} (c : Cursor) (m : Mismatch) : Except Fault α :=
  .error ⟨.mismatch m, some c.position, []⟩

/-- The failure for a value of the wrong type under the cursor: reported after the value, or before it when
it is an array or an object; a value that is not well formed is reported as such. -/
def wrongType {α : Type} (x : Char) (c : Cursor) (expected : String) : Except Fault α := do
  if x = 'n' then
    mismatchAt (← c.advance.word ['u', 'l', 'l']) (.wrongType .null expected)
  else if x = 't' then
    mismatchAt (← c.advance.word ['r', 'u', 'e']) (.wrongType (.bool true) expected)
  else if x = 'f' then
    mismatchAt (← c.advance.word ['a', 'l', 's', 'e']) (.wrongType (.bool false) expected)
  else if x = '-' then
    let (n, c) ← Lexeme.number c.advance true
    mismatchAt c (.wrongType (foundValue (.number n)) expected)
  else if x.isDigit then
    let (n, c) ← Lexeme.number c false
    mismatchAt c (.wrongType (foundValue (.number n)) expected)
  else if x = '"' then
    let (s, c) ← Lexeme.string c.advance
    mismatchAt c (.wrongType (.string s) expected)
  -- The content of an array or object is not read, so a fault in it is not told.
  else if x = '[' then mismatchAt c (.wrongType .sequence expected)
  else if x = '\x7b' then mismatchAt c (.wrongType .map expected)
  else c.failNext .noValue

/-- A checked value, a mismatch being reported at the cursor after it. -/
def checked {α : Type} (c : Cursor) (result : Except Mismatch α) : Except Fault (α × Cursor) :=
  match result with
  | .ok a => .ok (a, c)
  | .error m => mismatchAt c m

def readString {α : Type} (expected : String) (check : String → Except Mismatch α) (c : Cursor) :
    Except Fault (α × Cursor) := do
  let (x, c) ← atValue c
  if x = '"' then
    let (s, c) ← Lexeme.string c.advance
    checked c (check s)
  else wrongType x c expected

def readNumber (expected : String) (check : Json.Number → Except Mismatch Datum) : Reader := fun c ↦ do
  let (x, c) ← atValue c
  if x = '-' then
    let (n, c) ← Lexeme.number c.advance true
    checked c (check n)
  else if x.isDigit then
    let (n, c) ← Lexeme.number c false
    checked c (check n)
  else wrongType x c expected

def readBool : Reader := fun c ↦ do
  let (x, c) ← atValue c
  if x = 't' then return (.bool true, ← c.advance.word ['r', 'u', 'e'])
  else if x = 'f' then return (.bool false, ← c.advance.word ['a', 'l', 's', 'e'])
  else wrongType x c Shape.bool.expected

def readNull (expected : String) (c : Cursor) : Except Fault Cursor := do
  let (x, c) ← atValue c
  if x = 'n' then c.advance.word ['u', 'l', 'l'] else wrongType x c expected

/-- The name of a choice: a string, or an object whose only key it is, with the value null. -/
def readName {α : Type} (check : String → Except Mismatch α) (c : Cursor) : Except Fault (α × Cursor) := do
  let (x, c) ← atValue c
  if x = '"' then
    let (s, c) ← Lexeme.string c.advance
    checked c (check s)
  else if x = '\x7b' then
    let c := c.advance.skipSpace
    match c.peek? with
    | some '"' =>
      let (s, c) ← Lexeme.string c.advance
      let (a, c) ← checked c (check s)
      let c ← readNull "unit" (← colon c)
      let c := c.skipSpace
      match c.peek? with
      | some '\x7d' => return (a, c.advance)
      | some _ => c.fail .noValue
      | none => c.fail .endInObject
    | some '\x7d' => c.failNext .noValue
    | some _ => c.failNext .keyNotString
    | none => c.failNext .endInObject
  else c.failNext .noValue

/-- The items of an array after `done`, which is held backwards. -/
def readItems (read : Reader) (first : Bool) (done : List Datum) (c : Cursor) :
    Nat → Except Fault (List Datum × Cursor)
  | 0 => .ok (done.reverse, c)
  | fuel + 1 => do
    match ← item? first c with
    | none => return (done.reverse, c)
    | some c =>
      let (d, c) ← (read c).mapError (Fault.inside (.item done.length))
      readItems read false (d :: done) c fuel

def readList (read : Reader) (expected : String) : Reader := fun c ↦ do
  let (x, c) ← atValue c
  if x = '[' then
    let (items, c) ← readItems read true [] c.advance c.rest.length
    return (.list items, ← closed closeArray c)
  else wrongType x c expected

/-- The members of an object that are fields of a record, added to those in `slots`. -/
def readMembers (readers : List (String × Reader)) (first : Bool) (slots : List (Option Datum)) (c : Cursor) :
    Nat → Except Fault (List (Option Datum) × Cursor)
  | 0 => .ok (slots, c)
  | fuel + 1 => do
    match ← key? first c with
    | none => return (slots, c)
    | some (key, c) =>
      match readers.findIdx? (·.1 = key), readers.find? (·.1 = key) with
      | some i, some (_, read) =>
        -- A field that stands twice is refused before its second value is read.
        if (slots[i]?.join).isSome then failClosing closeObject c (.duplicateField key)
        else
          let (d, c) ← (do read (← colon c)).mapError (Fault.inside (.field key))
          readMembers readers false (slots.set i (some d)) c fuel
      | _, _ =>
        let c ← (do skip (← colon c)).mapError (Fault.inside (.field key))
        readMembers readers false slots c fuel

/-- The fields of a record written as an array, from the field with the given index on. -/
def readPositional (expected : String) (first : Bool) (index : Nat) (c : Cursor) :
    List (FieldRule × Reader) → Except Fault (List Datum × Cursor)
  | [] => .ok ([], c)
  | (rule, read) :: rest => do
    match ← item? first c with
    | none =>
      match rule.absent with
      | some d =>
        let (ds, c) ← readPositional expected first (index + 1) c rest
        return (d :: ds, c)
      | none => failClosing closeArray c (.wrongLength index expected)
    | some c =>
      let (d, c) ← (read c).mapError (Fault.inside (.item index))
      let (ds, c) ← readPositional expected false (index + 1) c rest
      return (d :: ds, c)

/-- A record: an object with its fields, or an array with them in order. -/
def readRecord (name : String) (fields : Fields) (readers : List (String × FieldRule × Reader)) : Reader :=
  fun c ↦ do
    let (x, c) ← atValue c
    if x = '[' then
      let (ds, c) ← readPositional (recordText name fields) true 0 c.advance (readers.map (·.2))
      return (.record ds, ← closed closeArray c)
    else if x = '\x7b' then
      let named := readers.map fun (name, _, read) ↦ (name, read)
      let (slots, c) ← readMembers named true (named.map fun _ ↦ none) c.advance c.rest.length
      match fields.complete slots with
      | .ok ds => return (.record ds, ← closed closeObject c)
      | .error m => failClosing closeObject c m
    else wrongType x c ("struct " ++ name)

/-- The text of a variant from a value that was set aside until the variant was known. -/
def detailOf (name variant : String) (hasText : Bool) (v : Json.Value) : Except Mismatch (Option String) :=
  match hasText, v with
  | true, .string s => .ok (some s)
  | true, v => .error (.wrongType (foundValue v) Shape.text.expected)
  | false, .null => .ok none
  | false, v => .error (.wrongType (foundValue v) (unitText name (camelCase variant)))

def readDetail (name variant : String) (hasText : Bool) (depth : Nat) (c : Cursor) :
    Except Fault (Option String × Cursor) := do
  let (x, c) ← atValue c
  if hasText then
    if x = '"' then
      let (s, c) ← Lexeme.string c.advance
      return (some s, c)
    else wrongType x c Shape.text.expected
  else
    let expected := unitText name (camelCase variant)
    if x = 'n' then return (none, ← c.advance.word ['u', 'l', 'l'])
    else if x = '[' then
      if depth ≤ 1 then c.failNext .tooDeep
      else failClosing closeArray c.advance (.wrongType .sequence expected)
    else if x = '\x7b' then
      if depth ≤ 1 then c.failNext .tooDeep
      else failClosing closeObject c.advance (.wrongType .map expected)
    else wrongType x c expected

def nextTagKey (first : Bool) (c : Cursor) : Nat → Except Fault (Option (Bool × Cursor) × Cursor)
  | 0 => .ok (none, c)
  | fuel + 1 => do
    match ← key? first c with
    | none => return (none, c)
    | some (key, c) =>
      if key = "kind" then return (some (true, c), c)
      else if key = "detail" then return (some (false, c), c)
      else nextTagKey false (← skip (← colon c)) fuel

def readTagged (name : String) (variants : List (String × Bool)) (depth : Nat) : Reader := fun c ↦ do
  let (x, c) ← atValue c
  let variantAt (i : Nat) : String × Bool := variants.getD i ("", false)
  if x = '[' then
    match ← item? true c.advance with
    | none => failClosing closeArray c.advance (.wrongLength 0 (Shape.tagged name variants).expected)
    | some c =>
      let (i, c) ← readString "variant identifier" (findVariant variants) c
      match ← item? false c with
      | none => failClosing closeArray c (.wrongLength 1 (Shape.tagged name variants).expected)
      | some c =>
        let (detail, c) ← readDetail name (variantAt i).1 (variantAt i).2 (depth - 1) c
        return (.tagged i detail, ← closed closeArray c)
  else if x = '\x7b' then
    let fuel := c.rest.length
    let kindAgain (c : Cursor) : Except Fault (Datum × Cursor) := failClosing closeObject c (.duplicateField "kind")
    let detailAgain (c : Cursor) : Except Fault (Datum × Cursor) :=
      failClosing closeObject c (.duplicateField "detail")
    let last (d : Datum) (c : Cursor) : Except Fault (Datum × Cursor) := do
      match ← nextTagKey false c fuel with
      | (some (true, c), _) => kindAgain c
      | (some (false, c), _) => detailAgain c
      | (none, c) => return (d, ← closed closeObject c)
    match ← nextTagKey true c.advance fuel with
    | (none, c) => failClosing closeObject c (.missingField "kind")
    | (some (true, c), _) =>
      let (i, c) ← readName (findVariant variants) (← colon c)
      match ← nextTagKey false c fuel with
      | (some (true, c), _) => kindAgain c
      | (some (false, c), _) =>
        let (detail, c) ← readDetail name (variantAt i).1 (variantAt i).2 (depth - 1) (← colon c)
        last (.tagged i detail) c
      | (none, c) =>
        if (variantAt i).2 then failClosing closeObject c (.missingField "detail")
        else return (.tagged i none, ← closed closeObject c)
    | (some (false, c), _) =>
      let c ← colon c
      -- The detail came before the variant, so its value is set aside until it can be checked.
      let (v, c) ← readValue (fuelFor c) (depth - 1) c
      match ← nextTagKey false c fuel with
      | (none, c) => failClosing closeObject c (.missingField "kind")
      | (some (false, c), _) => detailAgain c
      | (some (true, c), _) =>
        let (i, c) ← readName (findVariant variants) (← colon c)
        match detailOf name (variantAt i).1 (variantAt i).2 v with
        | .ok detail => last (.tagged i detail) c
        | .error m => failClosing closeObject c m
  else wrongType x c (Shape.tagged name variants).expected

def findOption (options : List String) (name : String) : Except Mismatch Datum :=
  match options.findIdx? (· = name) with
  | some i => .ok (.choice i)
  | none => .error (.unknownVariant name options)

mutual

/-- The reader of a shape, where values may still nest `depth - 1` deep. -/
def Shape.reader (depth : Nat) : Shape → Reader
  | .bool => readBool
  | .text => readString Shape.text.expected fun s ↦ .ok (.text s)
  | .path => readString Shape.path.expected fun s ↦ .ok (.text s)
  | .integer range => readNumber range.name range.check
  | .real => readNumber Shape.real.expected fun n ↦ .ok (.real (realOf n))
  | .single => readNumber Shape.single.expected fun n ↦ .ok (.single (singleOf n))
  | .time => readString Shape.time.expected timeOf
  | .optional of => fun c ↦ do
    let c := c.skipSpace
    if c.peek? = some 'n' then return (.none, ← c.advance.word ['u', 'l', 'l'])
    else
      let (d, c) ← of.reader depth c
      return (.some d, c)
  -- Only arrays and objects count for the depth.
  | .list of => readList (of.reader (depth - 1)) "a sequence"
  | .choice options => readName (findOption options)
  | .tagged name variants => readTagged name variants depth
  | .record name fields => readRecord name fields (fields.readers (depth - 1))

def Fields.readers (depth : Nat) : Fields → List (String × FieldRule × Reader)
  | .nil => []
  | .cons name rule shape rest => (name, rule, shape.reader depth) :: rest.readers depth

end

def Shape.parse (shape : Shape) (text : String) : Except Fault Datum := do
  let (d, c) ← shape.reader depthLimit (Cursor.ofChars text.toList)
  finish c
  return d

end CodeRepair.Schema
