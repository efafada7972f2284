import CodeRepair.Text.Search

/-!
Names of files. The parts of a path stand between slashes; empty parts count for nothing, and neither does a part
that is a single dot, unless a relative path begins with it.
-/
namespace CodeRepair.Files.Path

def names (path : String) : List String :=
  ((Text.splitAt (· = '/') path.toList).filter (!·.isEmpty)).map String.ofList

def isAbsolute (path : String) : Bool := path.toList.head? = some '/'

def parts (path : String) : List String :=
  match names path with
  | [] => []
  | name :: rest =>
    let rest := rest.filter (· ≠ ".")
    -- A dot at the start of a relative path counts as a part of it.
    if name = "." ∧ isAbsolute path then rest else name :: rest

def same (a b : String) : Bool := isAbsolute a = isAbsolute b && parts a = parts b

/-- A name in a directory. An absolute name stays what it is. -/
def join (dir name : String) : String :=
  if isAbsolute name ∨ dir.isEmpty then name
  else if dir.toList.getLast? = some '/' then dir ++ name
  else dir ++ "/" ++ name

/-- What follows the last dot of the last part, unless that part is hidden by this dot alone. -/
def extension? (path : String) : Option String :=
  match (parts path).getLast? with
  | none => none
  | some name =>
    if name = ".." ∨ name = "." then none
    else
      match Text.beforeLast? ['.'] name.toList with
      | none | some [] => none
      | some stem => some (String.ofList (name.toList.drop (stem.length + 1)))

/-- A reversed path without the slashes and single dots at its end. -/
def trimEnd : List Char → List Char
  | '/' :: rest => if rest.isEmpty then ['/'] else trimEnd rest
  | '.' :: '/' :: rest => trimEnd ('/' :: rest)
  | cs => cs
termination_by cs => cs.length

def parent? (path : String) : Option String :=
  match trimEnd path.toList.reverse with
  | [] => none
  | ['/'] => none
  | cs => some (String.ofList (trimEnd (cs.dropWhile (· ≠ '/'))).reverse)

/-- The directory that holds a file named by a path with a directory in it. -/
def directory? (path : String) : Option String := (parent? path).filter (!·.isEmpty)

end CodeRepair.Files.Path
