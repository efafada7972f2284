/-!
Shell scripts as they are read, before anything in them is expanded. The shell stands in for the one of a system, which
is no part of the program.
-/
namespace CodeRepair.Bench

inductive Rule
  | default
  | assign
  | demand
  | replace
  | cutStart (longest : Bool)
  | cutEnd (longest : Bool)
  deriving DecidableEq, Repr, Inhabited

inductive Redirection
  | read
  | write
  | append
  | duplicate
  | here
  deriving DecidableEq, Repr, Inhabited

mutual

/-- A part of a word. What is quoted is neither split nor matched against file names. -/
inductive Piece
  | text (chars : List Char) (quoted : Bool)
  | parameter (name : String) (quoted : Bool)
  | length (name : String) (quoted : Bool)
  /-- A parameter under a rule; `orEmpty` when an empty value counts as unset. -/
  | ruled (name : String) (rule : Rule) (orEmpty : Bool) (word : List Piece) (quoted : Bool)
  | output (script : List Command) (quoted : Bool)
  | arithmetic (expression : List Piece) (quoted : Bool)

inductive Redirect
  | mk (descriptor : Nat) (kind : Redirection) (target : List Piece)

inductive Command
  | simple (line : Nat) (assignments : List (String × List Piece)) (words : List (List Piece))
      (redirects : List Redirect)
  | group (body : List Command) (redirects : List Redirect)
  | subshell (body : List Command) (redirects : List Redirect)
  | branch (condition yes no : List Command) (redirects : List Redirect)
  | loop (whileTrue : Bool) (condition body : List Command) (redirects : List Redirect)
  | each (name : String) (words : Option (List (List Piece))) (body : List Command) (redirects : List Redirect)
  | choose (subject : List Piece) (arms : List (List (List Piece) × List Command)) (redirects : List Redirect)
  | define (name : String) (body : Command)
  | negate (c : Command)
  | pipe (parts : List Command)
  | both (a b : Command)
  | either (a b : Command)
  | background (c : Command)

end

instance : Inhabited Piece := ⟨.text [] false⟩

instance : Inhabited Command := ⟨.group [] []⟩

abbrev Word := List Piece

/-- A script: its commands line by line, and what is wrong with the first line that cannot be read. -/
structure Script where
  lines : List (List Command)
  fault : Option (Nat × String)
  deriving Inhabited

end CodeRepair.Bench
