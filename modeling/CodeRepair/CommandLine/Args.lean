import CodeRepair.CommandLine.Flag

/-!
What a sequence of words on the command line asks for. The words are read from left to right, and the first thing
that ends the reading decides: a request for help or for the version, or a word that makes no sense. A flag or a
file is looked at only when the next one comes or when its words are over.
-/
namespace CodeRepair.CommandLine

inductive Misuse
  | unknownFlag (word : String)
  | unknownCommand (word : String)
  | unexpectedWord (word : String)
  | unexpectedValue (flag : Flag)
  | missingValue (flag : Flag)
  | badValue (name value : String)
  | repeated (flag : Flag)
  | missingFile
  | missingCommand
  deriving DecidableEq, Repr

inductive Topic
  | program
  | verb (v : Verb)
  | help
  deriving DecidableEq, Repr

inductive Stop
  | help (topic : Topic)
  | version
  | misuse (m : Misuse)
  deriving DecidableEq, Repr

inductive Pending
  | nothing
  | flag (f : Flag) (value : Option String)
  | file (path : String)
  deriving DecidableEq, Repr

/-- What the words after a command, or before any, have given so far. Flags without a value have an empty one. -/
structure Given where
  flags : List (Flag × String)
  file : Option String
  pending : Pending
  deriving DecidableEq, Repr

namespace Given

def none : Given := ⟨[], .none, .nothing⟩

/-- A flag with its value, which no other flag may repeat. -/
def add (g : Given) (f : Flag) (value : String) : Except Stop Given :=
  if g.flags.any (·.1 = f) then .error (.misuse (.repeated f))
  else
    match f.value? with
    | some (_, kind) =>
      if kind.admits value then .ok { g with flags := g.flags ++ [(f, value)] }
      else .error (.misuse (.badValue f.long value))
    | .none => .ok { g with flags := g.flags ++ [(f, value)] }

def settle (g : Given) : Except Stop Given :=
  match g.pending with
  | .nothing => .ok g
  | .flag f (some value) => { g with pending := .nothing }.add f value
  | .flag f .none => .error (.misuse (.missingValue f))
  | .file path =>
    if path.isEmpty then .error (.misuse (.badValue "FILE" path))
    else .ok { g with file := some path, pending := .nothing }

def waitsFor? (g : Given) : Option Flag :=
  match g.pending with
  | .flag f .none => some f
  | _ => .none

def mark (g : Given) (topic : Topic) (f : Flag) : Except Stop Given := do
  let g ← g.settle
  match f with
  | .help => throw (.help topic)
  | .version => throw .version
  | f => g.add f ""

/-- A flag that has a value, which may come with it or follow. -/
def take (g : Given) (f : Flag) (value : Option String) : Except Stop Given := do
  let g ← g.settle
  match value with
  | some value => g.add f value
  | .none => return { g with pending := .flag f .none }

def readLong (g : Given) (topic : Topic) (flags : List Flag) (word : List Char) : Except Stop Given :=
  let name := String.ofList (word.takeWhile (· ≠ '='))
  let value : Option String :=
    match word.dropWhile (· ≠ '=') with
    | _ :: value => some (String.ofList value)
    | [] => .none
  match flags.find? (·.long = name) with
  | .none => .error (.misuse (.unknownFlag ("--" ++ name)))
  | some f =>
    if f.value?.isSome then g.take f value
    else if value.isSome then .error (.misuse (.unexpectedValue f))
    else g.mark topic f

/-- Letters with one dash before them: flags without a value, then at most one that takes the rest as its
value. -/
def readShort (g : Given) (topic : Topic) (flags : List Flag) : List Char → Except Stop Given
  | [] => .ok g
  | c :: rest =>
    match flags.find? (·.short? = some c) with
    | .none => .error (.misuse (.unknownFlag (String.ofList ['-', c])))
    | some f =>
      if f.value?.isSome then
        match rest with
        | [] => g.take f .none
        | '=' :: value => g.take f (some (String.ofList value))
        | value => g.take f (some (String.ofList value))
      else do readShort (← g.mark topic f) topic flags rest

def readDashed (g : Given) (topic : Topic) (flags : List Flag) (word : String) : Option (Except Stop Given) :=
  match word.toList with
  | '-' :: '-' :: rest => some (g.readLong topic flags rest)
  | '-' :: c :: rest => some (g.readShort topic flags (c :: rest))
  | _ => .none

def readFile (g : Given) (verb : Verb) (word : String) : Except Stop Given :=
  let taken :=
    match g.pending with
    | .file _ => true
    | _ => g.file.isSome
  if verb.takesFile && !taken then do return { ← g.settle with pending := .file word }
  else .error (.misuse (.unexpectedWord word))

/-- The words after a command. After two dashes alone no word is a flag. -/
def readVerb (verb : Verb) (plain : Bool) (g : Given) : List String → Except Stop Given
  | [] => do
    let g ← g.settle
    if verb.takesFile ∧ g.file = .none then throw (.misuse .missingFile)
    return g
  | word :: words =>
    if plain then do readVerb verb true (← g.readFile verb word) words
    else if word = "--" then readVerb verb true g words
    else
      match g.readDashed (.verb verb) (flagsOf verb) word with
      | some given => do readVerb verb false (← given) words
      | .none =>
        match g.waitsFor? with
        | some f => readVerb verb false { g with pending := .flag f (some word) } words
        | .none => do readVerb verb false (← g.readFile verb word) words

end Given

def helpOn : List String → Stop
  | [] => .help .program
  | [word] =>
    if word = "help" then .help .help
    else
      match Verb.ofName? word with
      | some verb => .help (.verb verb)
      | none => .misuse (.unknownCommand word)
  | word :: next :: _ =>
    .misuse (.unknownCommand (if word = "help" ∨ (Verb.ofName? word).isSome then next else word))

def readProgram (g : Given) : List String → Except Stop (Given × Verb × Given)
  | [] => do
    let _ ← g.settle
    throw (.misuse .missingCommand)
  | word :: words =>
    if word = "--" then
      match words with
      | [] => .error (.misuse .missingCommand)
      | next :: _ => .error (.misuse (.unexpectedWord next))
    else
      match g.readDashed .program (flagsOf none) word with
      | some given => do readProgram (← given) words
      | none =>
        match g.waitsFor? with
        | some f => readProgram { g with pending := .flag f (some word) } words
        | none =>
          if word = "help" then .error (helpOn words)
          else
            match Verb.ofName? word with
            | none => .error (.misuse (.unknownCommand word))
            | some verb => do
              let after ← Given.none.readVerb verb false words
              return (← g.settle, verb, after)

inductive Command
  | run (file : String) (language : Option String) (json : Bool)
  | check (file : String)
  | debug (file : String) (language : Option String) (json : Bool)
  | retry (file : String) (language : Option String) (maxAttempts : Option Nat) (onNoFix : Option NoFixPolicy)
      (json : Bool)
  | serve (host : Option String) (port : Option Nat)
  | initConfig (output : Option String) (force : Bool)
  deriving DecidableEq, Repr

structure Invocation where
  config : Option String
  verbose : Bool
  command : Command
  deriving DecidableEq, Repr

namespace Given

def value? (g : Given) (f : Flag) : Option String := (g.flags.find? (·.1 = f)).map (·.2)

def has (g : Given) (f : Flag) : Bool := (g.value? f).isSome

def command (g : Given) (verb : Verb) : Command :=
  let file := g.file.getD ""
  match verb with
  | .run => .run file (g.value? .language) (g.has .json)
  | .check => .check file
  | .debug => .debug file (g.value? .language) (g.has .json)
  | .retry =>
    .retry file (g.value? .language) ((g.value? .maxAttempts).bind wholeNumber?)
      ((g.value? .onNoFix).bind fun text ↦ (NoFixPolicy.parse text).toOption) (g.has .json)
  | .serve => .serve (g.value? .host) ((g.value? .port).bind wholeNumber?)
  | .initConfig => .initConfig (g.value? .output) (g.has .force)

end Given

/-- What the words ask for. A flag after the command goes before the same flag in front of it. -/
def Invocation.ofWords (words : List String) : Except Stop Invocation := do
  let (before, verb, after) ← readProgram .none words
  return {
    config := (after.value? .config).or (before.value? .config)
    verbose := before.has .verbose || after.has .verbose
    command := after.command verb }

namespace Misuse

def message : Misuse → String
  | unknownFlag word => "unexpected argument '" ++ word ++ "' found"
  | unknownCommand word => "unrecognized subcommand '" ++ word ++ "'"
  | unexpectedWord word => "unexpected argument '" ++ word ++ "' found"
  | unexpectedValue f => "no value is allowed for '--" ++ f.long ++ "'"
  | missingValue f => "a value is required for '--" ++ f.long ++ "' but none was supplied"
  | badValue name value => "invalid value '" ++ value ++ "' for '" ++ name ++ "'"
  | repeated f => "the argument '--" ++ f.long ++ "' cannot be used multiple times"
  | missingFile => "the following required arguments were not provided: <FILE>"
  | missingCommand => "a subcommand is required"

end Misuse

end CodeRepair.CommandLine
