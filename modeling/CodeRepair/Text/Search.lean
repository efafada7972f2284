/-!
Looking for one text inside another, and cutting a text at what was found.
-/
namespace CodeRepair.Text

def dropPattern? : List Char → List Char → Option (List Char)
  | [], rest => some rest
  | p :: ps, c :: cs => if p = c then dropPattern? ps cs else none
  | _ :: _, [] => none

def startsWith (pattern text : List Char) : Bool := (dropPattern? pattern text).isSome

def splitFirst? (pattern : List Char) : List Char → Option (List Char × List Char)
  | [] => (dropPattern? pattern []).map fun rest ↦ ([], rest)
  | c :: cs =>
    match dropPattern? pattern (c :: cs) with
    | some rest => some ([], rest)
    | none => (splitFirst? pattern cs).map fun (before, after) ↦ (c :: before, after)

def beforeLast? (pattern : List Char) : List Char → Option (List Char)
  | [] => if pattern.isEmpty then some [] else none
  | c :: cs =>
    match beforeLast? pattern cs with
    | some before => some (c :: before)
    | none => if startsWith pattern (c :: cs) then some [] else none

/-- The text with other text for every occurrence of `opening`, counted from the left, that has an extent: the number
of characters after it that are replaced with it. The first argument bounds the number of occurrences. -/
def replaceSpans (opening new : List Char) (extent : List Char → Option Nat) : Nat → List Char → List Char
  | 0, cs => cs
  | fuel + 1, cs =>
    match splitFirst? opening cs with
    | none => cs
    | some (before, after) =>
      match extent after with
      | some n => before ++ new ++ replaceSpans opening new extent fuel (after.drop n)
      | none => before ++ opening ++ replaceSpans opening new extent fuel after

def replaceSpansIn (s opening new : String) (extent : List Char → Option Nat) : String :=
  String.ofList (replaceSpans opening.toList new.toList extent (s.length + 1) s.toList)

def replaceIn (s pattern new : String) : String := replaceSpansIn s pattern new fun _ ↦ some 0

def occurs (pattern : List Char) : List Char → Bool
  | [] => pattern.isEmpty
  | c :: cs => startsWith pattern (c :: cs) || occurs pattern cs

def occursIn (pattern text : String) : Bool := occurs pattern.toList text.toList

/-- The pieces between the characters that satisfy `p`, one more than there are such characters. -/
def splitAt (p : Char → Bool) : List Char → List (List Char)
  | [] => [[]]
  | c :: cs =>
    match splitAt p cs with
    | [] => [[]]
    | piece :: pieces => if p c then [] :: piece :: pieces else (c :: piece) :: pieces

/-- The lines of a text: each ends at a line feed, which it loses together with a carriage return before it;
an empty rest after the last line feed is no line. -/
def lines (cs : List Char) : List (List Char) :=
  let pieces := splitAt (· = '\n') cs
  let ended := pieces.dropLast.map fun piece ↦
    match piece.getLast? with
    | some '\r' => piece.dropLast
    | _ => piece
  match pieces.getLast? with
  | some (c :: rest) => ended ++ [c :: rest]
  | _ => ended

def replaceChar (old new : Char) (cs : List Char) : List Char :=
  cs.map fun c ↦ if c = old then new else c

def joinWith (sep : String) (texts : List String) : String := sep.intercalate texts

end CodeRepair.Text
