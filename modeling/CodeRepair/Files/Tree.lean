import CodeRepair.Files.Fault
import CodeRepair.Files.Path
import CodeRepair.Text.Utf8

/-!
Files held in memory. A tree maps places, each the list of names that lead to it from the root, to what is there. It
has no symbolic links: every name leads one step down, apart from the two names made of dots.
-/
namespace CodeRepair.Files

inductive Node
  | directory
  | file (bytes : List UInt8) (executable : Bool)
  /-- Takes whatever is written to it and holds nothing. -/
  | sink
  /-- Gives zeros without end. -/
  | zeros
  /-- A directory in which nothing can be made. -/
  | sealed
  deriving DecidableEq, Repr, Inhabited

/-- A place, as the names that lead to it from the root. -/
abbrev Place := List String

/-- Files and directories by their places. The root is always there. -/
structure Tree where
  nodes : List (Place × Node)
  deriving Repr, Inhabited

def maxNameBytes : Nat := 255

def maxPathBytes : Nat := 4095

/-- More zeros than anything here reads. -/
def someZeros : List UInt8 := List.replicate 262144 0

namespace Tree

def empty : Tree :=
  ⟨[(["bin"], .directory), (["usr"], .directory), (["usr", "bin"], .directory),
    (["proc"], .sealed), (["dev"], .directory), (["dev", "null"], .sink), (["dev", "zero"], .zeros), (["tmp"], .directory)]⟩

def node? (t : Tree) (place : Place) : Option Node :=
  if place.isEmpty then some .directory else (t.nodes.find? (·.1 = place)).map (·.2)

def put (t : Tree) (place : Place) (node : Node) : Tree := ⟨(place, node) :: t.nodes.filter (·.1 ≠ place)⟩

def clear (t : Tree) (place : Place) : Tree := ⟨t.nodes.filter (·.1 ≠ place)⟩

/-- The place that names lead to. Everything on the way has to be a directory; what is at the end need not be
there. -/
def follow (t : Tree) : Place → List String → Except Fault Place
  | here, [] => .ok here
  | here, name :: rest =>
    match t.node? here with
    | none => .error .notFound
    | some .directory | some .sealed =>
      if name = "." then t.follow here rest
      else if name = ".." then t.follow here.dropLast rest
      else if maxNameBytes < Text.Utf8.size name.toList then .error .nameTooLong
      else t.follow (here ++ [name]) rest
    | some _ => .error .notDirectory

/-- The place that a path leads to from a directory. A slash at the end asks for a directory. -/
def locate (t : Tree) (here : Place) (path : String) : Except Fault Place :=
  if path.isEmpty then .error .notFound
  else if Char.ofNat 0 ∈ path.toList then .error .nulInPath
  else if maxPathBytes < Text.Utf8.size path.toList then .error .nameTooLong
  else
    let names := Path.names path
    -- Following a dot fails where there is no directory.
    let names := if path.toList.getLast? = some '/' then names ++ ["."] else names
    t.follow (if Path.isAbsolute path then [] else here) names

def find (t : Tree) (here : Place) (path : String) : Except Fault (Place × Node) := do
  let place ← t.locate here path
  match t.node? place with
  | some node => return (place, node)
  | none => throw .notFound

def holds (t : Tree) (here : Place) (path : String) : Bool := (t.find here path).toOption.isSome

/-- The content of a file, or as much as will do of one that has no end. -/
def read (t : Tree) (here : Place) (path : String) : Except Fault (List UInt8) := do
  match ← t.find here path with
  | (_, .file bytes _) => return bytes
  | (_, .sink) => return []
  | (_, .zeros) => return someZeros
  | _ => throw .isDirectory

def above? (t : Tree) (place : Place) : Option Node := t.node? place.dropLast

/-- Something new at a place, which a directory has to hold. -/
def make (t : Tree) (place : Place) (node : Node) : Except Fault Tree :=
  match t.above? place with
  | some .directory => .ok (t.put place node)
  | some .sealed | none => .error .notFound
  | some _ => .error .notDirectory

def write (t : Tree) (here : Place) (path : String) (bytes : List UInt8) : Except Fault Tree := do
  let place ← t.locate here path
  match t.node? place with
  | some (.file _ executable) => return t.put place (.file bytes executable)
  | some .sink | some .zeros => return t
  | some _ => throw .isDirectory
  | none => if path.toList.getLast? = some '/' then throw .isDirectory else t.make place (.file bytes false)

def mkdir (t : Tree) (here : Place) (path : String) : Except Fault Tree := do
  let slashless := String.ofList (path.toList.reverse.dropWhile (· = '/')).reverse
  if slashless.isEmpty then throw .present
  let place ← t.locate here slashless
  match t.node? place with
  | some _ => throw .present
  | none => t.make place .directory

def isDirectory (t : Tree) (here : Place) (path : String) : Bool :=
  match t.find here path with
  | .ok (_, .directory) | .ok (_, .sealed) => true
  | _ => false

/-- A directory is made with all that lead to it. One that is there already is well. -/
def mkdirs (t : Tree) (here : Place) (path : String) : Nat → Except Fault Tree
  | 0 => .error .notFound
  | depth + 1 =>
    if path.isEmpty then .ok t
    else
      match t.mkdir here path with
      | .ok t => .ok t
      -- What leads to it is missing: it is made first, and then the directory is tried again.
      | .error .notFound =>
        match Path.parent? path with
        | none => .error .notFound
        | some parent => do
          let t ← t.mkdirs here parent depth
          match t.mkdir here path with
          | .ok t => return t
          | .error fault => if t.isDirectory here path then return t else throw fault
      | .error fault => if t.isDirectory here path then .ok t else .error fault

def mkdirAll (t : Tree) (here : Place) (path : String) : Except Fault Tree :=
  t.mkdirs here path ((Path.names path).length + 2)

/-- A file is removed; a directory stays. -/
def remove (t : Tree) (here : Place) (path : String) : Except Fault Tree := do
  match ← t.find here path with
  | (place, .file _ _) | (place, .sink) | (place, .zeros) => return t.clear place
  | _ => throw .isDirectory

def list (t : Tree) (place : Place) : List String :=
  let names := t.nodes.filterMap fun (p, _) ↦
    if p.length = place.length + 1 ∧ p.take place.length = place then p.getLast? else none
  names.mergeSort fun a b ↦ !decide (b < a)

def filesBelow (t : Tree) (place : Place) : List (Place × List UInt8) :=
  t.nodes.filterMap fun (p, node) ↦
    match node with
    | .file bytes _ => if place.isPrefixOf p then some (p.drop place.length, bytes) else none
    | _ => none

def prune (t : Tree) (place : Place) : Tree := ⟨t.nodes.filter fun (p, _) ↦ !place.isPrefixOf p⟩

end Tree

end CodeRepair.Files
