import CodeRepair.About
import CodeRepair.CommandLine.Args

/-!
The texts that tell how the program is called. Every list is a table of two columns, or, when what is said about
an entry would not fit beside it, a list with the second column on lines of its own.
-/
namespace CodeRepair.CommandLine.Help

def width : Nat := 100

def blanks (n : Nat) : String := String.ofList (List.replicate n ' ')

def nameOf (f : Flag) : String :=
  let value :=
    match f.value? with
    | some (name, _) => " <" ++ name ++ ">"
    | none => ""
  let short :=
    match f.short? with
    | some c => String.ofList ['-', c, ',', ' ']
    | none => blanks 4
  short ++ "--" ++ f.long ++ value

/-- Where a flag stands among those declared at the same place: by its letter, small letters first, and by its name
when it has none. -/
def sortKey (f : Flag) : String :=
  match f.short? with
  | some c => String.ofList [c.toLower, if c.isLower then '0' else '1']
  | none => f.long

/-- Entries under a title. `margin` is the room that lists of flags take beside their names. -/
def listing (title : String) (margin : Nat) (entries : List (String × String)) : String :=
  let longest := (entries.map fun e ↦ e.1.length).foldl max 0
  let taken := longest + margin
  let below : Bool :=
    decide (2 * width < 5 * taken) && decide (taken ≤ width) && entries.any fun e ↦ decide (width - taken < e.2.length)
  let line (e : String × String) : String :=
    if below then "  " ++ e.1 ++ "\n" ++ blanks 10 ++ e.2
    else "  " ++ e.1 ++ blanks (longest - e.1.length + 2) ++ e.2
  title ++ ":\n" ++ Text.joinWith "\n" (entries.map line)

/-- The flags in the order of the list. The flags of a command and those of all commands are counted from the
start each, and help and the version come last. -/
def orderedFlags (own : List (Flag × String)) : List (Flag × String) :=
  let counted := own.zipIdx ++ globalFlags.zipIdx
  (counted.mergeSort fun a b ↦
    decide (a.2 < b.2) || (decide (a.2 = b.2) && !decide (sortKey b.1.1 < sortKey a.1.1))).map (·.1)

def flagsSection (flags : List (Flag × String)) : String :=
  listing "Options" 12 (flags.map fun f ↦ (nameOf f.1, f.2))

def helpEntry : Flag × String := (.help, "Print help")

def aboutHelp : String := "Print this message or the help of the given subcommand(s)"

def usage : Topic → String
  | .program => "Usage: " ++ programName ++ " [OPTIONS] <COMMAND>"
  | .help => "Usage: " ++ programName ++ " help [COMMAND]..."
  | .verb v =>
    "Usage: " ++ programName ++ " " ++ v.name ++ " [OPTIONS]" ++ (if v.takesFile then " <FILE>" else "")

def parts : Topic → List String
  | .program =>
    ["Run and repair Python/C++ snippets", usage .program,
      listing "Commands" 12 ((Verb.all.map fun v ↦ (v.name, v.about)) ++ [("help", aboutHelp)]),
      flagsSection (orderedFlags [] ++ [helpEntry, (.version, "Print version")])]
  | .help => [aboutHelp, usage .help, listing "Arguments" 12 [("[COMMAND]...", "Print help for the subcommand(s)")]]
  | .verb v =>
    [v.about, usage (.verb v)] ++
      (if v.takesFile then [listing "Arguments" 12 [("<FILE>", aboutFile)]] else []) ++
      [flagsSection (orderedFlags v.ownFlags ++ [helpEntry])]

def text (topic : Topic) : String := Text.joinWith "\n\n" (parts topic) ++ "\n"

end CodeRepair.CommandLine.Help
