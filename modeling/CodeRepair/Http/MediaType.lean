import CodeRepair.Text.Search

/-!
Media types, as far as telling JSON from everything else takes.
-/
namespace CodeRepair.Http

def isTokenChar (c : Char) : Bool := c.isAlphanum || "!#$%&'*+-.^_|~".toList.contains c || c = Char.ofNat 0x60

def isQuotedChar (c : Char) : Bool := 32 ≤ c.toNat && c.toNat < 127

/-- What follows the closing quotation mark of a quoted text. A quotation mark closes a text only when something
stands before it. -/
def afterQuoted : List Char → Option (List Char)
  | [] => none
  | c :: rest =>
    if !isQuotedChar c then none
    else
      match rest.dropWhile fun d ↦ isQuotedChar d && d ≠ '"' with
      | '"' :: rest => some rest
      | _ => none

/-- What follows the value of a parameter and its semicolon, if the value is well formed. An unquoted value may be
missing at the end. -/
def afterValue : List Char → Option (List Char)
  | '"' :: rest => do
    match (← afterQuoted rest).dropWhile (· = ' ') with
    | [] => some []
    | ';' :: rest => some rest
    | _ => none
  | cs =>
    match cs.dropWhile isTokenChar with
    | [] => some []
    | ';' :: rest => if cs.head? = some ';' then none else some rest
    | _ => none

def areParameters (cs : List Char) : Nat → Bool
  | 0 => false
  | fuel + 1 =>
    let cs := cs.dropWhile (· = ' ')
    if cs.isEmpty then true
    else
      match cs.dropWhile isTokenChar with
      | '=' :: value => cs.head? ≠ some '=' && (afterValue value).any (areParameters · fuel)
      | _ => false

def mediaType? (cs : List Char) : Option (List Char × List Char) :=
  let kind := cs.takeWhile isTokenChar
  match cs.drop kind.length with
  | '/' :: rest =>
    let subtype := rest.takeWhile isTokenChar
    let wellFormed :=
      match rest.drop subtype.length with
      | [] => true
      | ';' :: rest => areParameters rest (rest.length + 1)
      | _ => false
    if kind.isEmpty ∨ subtype.isEmpty ∨ !wellFormed then none
    else some (kind.map Char.toLower, subtype.map Char.toLower)
  | _ => none

/-- Whether a media type stands for JSON: `application/json`, or a type built on it after a plus sign. -/
def isJson (mediaType : String) : Bool :=
  match mediaType? mediaType.toList with
  | none => false
  | some (kind, subtype) =>
    let json := "json".toList
    let whole :=
      match Text.beforeLast? ['+'] subtype with
      | some (c :: before) => c :: before = json || subtype.drop (before.length + 2) = json
      | _ => subtype = json
    kind = "application".toList && whole

end CodeRepair.Http
