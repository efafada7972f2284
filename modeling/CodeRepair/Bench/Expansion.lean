import CodeRepair.Bench.Pattern
import CodeRepair.Bench.Process

/-!
What becomes of the words of a command: values are split at blanks and matched against file names unless they are
quoted. This is part of the stand-in for the shell of a system.
-/
namespace CodeRepair.Bench

inductive Fragment
  /-- Text that stays as it is, and makes a field even where it is empty. -/
  | solid (cs : List Char)
  | plain (cs : List Char)
  /-- A value, which is split as well. -/
  | loose (cs : List Char)
  /-- The end of a field. -/
  | gap
  deriving DecidableEq, Repr

/-- A field while it grows: its characters with whether they are quoted. -/
abbrev Field := List (Char × Bool)

/-- Fields while they are made: those that are done, the last first, and the one that grows. -/
structure Fields where
  done : List Field
  growing : Option Field

namespace Fields

def add (f : Fields) (cs : List Char) (quoted : Bool) : Fields :=
  { f with growing := some ((f.growing.getD []) ++ cs.map (·, quoted)) }

def close (f : Fields) : Fields :=
  match f.growing with
  | some field => ⟨field :: f.done, none⟩
  | none => f

def isBlankSeparator (c : Char) : Bool := c = ' ' || c = '\t' || c = '\n'

def split (separators : List Char) (f : Fields) (cs : List Char) : Fields :=
  cs.foldl
    (fun f c ↦
      if separators.contains c then
        if isBlankSeparator c then f.close
        else (if f.growing.isSome then f else f.add [] false).close
      else f.add [c] false)
    f

def take (separators : List Char) (f : Fields) : Fragment → Fields
  | .solid cs => f.add cs true
  | .plain cs => if cs.isEmpty then f else f.add cs false
  | .loose cs => f.split separators cs
  | .gap => f.close

end Fields

def fieldsOf (separators : List Char) (fragments : List Fragment) : List Field :=
  (fragments.foldl (Fields.take separators) ⟨[], none⟩).close.done.reverse

def fieldText (f : Field) : String := String.ofList (f.map (·.1))

def joined (fragments : List Fragment) : String :=
  String.ofList (fragments.flatMap fun
    | .solid cs | .plain cs | .loose cs => cs
    | .gap => [' '])

/-- The file names that a field matches, or its own text if there is none. -/
def matchNames (p : Process) (f : Field) : List String :=
  if !f.any fun (c, quoted) ↦ !quoted && (c = '*' || c = '?' || c = '[') then [fieldText f]
  else
    let last := (f.reverse.takeWhile (·.1 ≠ '/')).reverse
    let dir := fieldText (f.take (f.length - last.length))
    let pattern := Glob.ofChars (last.length + 1) last
    let hidden := last.head?.any (·.1 = '.')
    let found :=
      match p.computer.tree.find p.dir (if dir.isEmpty then "." else dir) with
      | .ok (place, .directory) =>
        (p.computer.tree.list place).filter fun (name : String) ↦
          (hidden || !name.startsWith ".") && Glob.accepts pattern name.toList
      | _ => []
    if found.isEmpty then [fieldText f] else found.map (dir ++ ·)

def cutStart (longest : Bool) (pattern : List Glob) (cs : List Char) : List Char :=
  let sizes := List.range (cs.length + 1)
  let sizes := if longest then sizes.reverse else sizes
  match sizes.find? fun n ↦ Glob.accepts pattern (cs.take n) with
  | some n => cs.drop n
  | none => cs

def cutEnd (longest : Bool) (pattern : List Glob) (cs : List Char) : List Char :=
  let sizes := List.range (cs.length + 1)
  let sizes := if longest then sizes else sizes.reverse
  match sizes.find? fun n ↦ Glob.accepts pattern (cs.drop n) with
  | some n => cs.take n
  | none => cs

def patternOf (fragments : List Fragment) : List Glob :=
  let cs := fragments.flatMap fun
    | .solid cs => cs.map (·, true)
    | .plain cs | .loose cs => cs.map (·, false)
    | .gap => [(' ', true)]
  Glob.ofChars (cs.length + 1) cs

end CodeRepair.Bench
