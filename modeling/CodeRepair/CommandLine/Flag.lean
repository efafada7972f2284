import CodeRepair.Number.Digits
import CodeRepair.Session.Record

/-!
The words of the command line: its commands, the flags of each, and what a flag may be given.
-/
namespace CodeRepair.CommandLine

inductive ValueKind
  | path
  | text
  | number (max : Nat)
  | policy
  deriving DecidableEq, Repr

inductive Flag
  | config
  | verbose
  | language
  | json
  | maxAttempts
  | onNoFix
  | host
  | port
  | output
  | force
  | help
  | version
  deriving DecidableEq, Repr

inductive Verb
  | run
  | check
  | debug
  | retry
  | serve
  | initConfig
  deriving DecidableEq, Repr

/-- The number that a text spells. A sign is allowed, but nothing is below zero. -/
def wholeNumber? (text : String) : Option Nat :=
  match text.toList with
  | '+' :: digits => Number.decimal? digits
  | '-' :: digits => (Number.decimal? digits).filter (· = 0)
  | digits => Number.decimal? digits

def ValueKind.admits (kind : ValueKind) (text : String) : Bool :=
  match kind with
  | path => !text.isEmpty
  | .text => true
  | number max => (wholeNumber? text).any (· ≤ max)
  | policy => (NoFixPolicy.parse text).toOption.isSome

namespace Flag

def long : Flag → String
  | config => "config"
  | verbose => "verbose"
  | language => "language"
  | json => "json"
  | maxAttempts => "max-attempts"
  | onNoFix => "on-no-fix"
  | host => "host"
  | port => "port"
  | output => "output"
  | force => "force"
  | help => "help"
  | version => "version"

def short? : Flag → Option Char
  | verbose => some 'v'
  | language => some 'l'
  | maxAttempts => some 'n'
  | port => some 'p'
  | output => some 'o'
  | help => some 'h'
  | version => some 'V'
  | _ => none

def value? : Flag → Option (String × ValueKind)
  | config => some ("PATH", .path)
  | language => some ("LANGUAGE", .text)
  | maxAttempts => some ("MAX_ATTEMPTS", .number 4294967295)
  | onNoFix => some ("POLICY", .policy)
  | host => some ("HOST", .text)
  | port => some ("PORT", .number 65535)
  | output => some ("PATH", .path)
  | _ => none

end Flag

namespace Verb

def all : List Verb := [run, check, debug, retry, serve, initConfig]

def name : Verb → String
  | run => "run"
  | check => "check"
  | debug => "debug"
  | retry => "retry"
  | serve => "serve"
  | initConfig => "init-config"

def about : Verb → String
  | run => "Execute a snippet once in the sandbox"
  | check => "Run the safety check only"
  | debug => "Execute once and ask for a single fix on failure"
  | retry => "Run the full execute-fix-retry loop"
  | serve => "Start the HTTP gateway"
  | initConfig => "Print the default config as TOML, or write it to a file"

def takesFile : Verb → Bool
  | run | check | debug | retry => true
  | serve | initConfig => false

def ownFlags : Verb → List (Flag × String)
  | run => [language, (.json, "Print the execution result as JSON")]
  | check => []
  | debug => [language, (.json, "")]
  | retry =>
    [language, (.maxAttempts, "Attempt budget (1-10, defaults to the configured value)"),
      (.onNoFix, "Behaviour when no usable fix comes back: retry_unchanged or abort"), (.json, "")]
  | serve => [(.host, ""), (.port, "")]
  | initConfig =>
    [(.output, "Destination; `default` means the per-user config path"), (.force, "Overwrite an existing file")]
where
  language : Flag × String := (.language, "Language (python, cpp); inferred from the file extension if omitted")

def ofName? (name : String) : Option Verb := all.find? (·.name = name)

end Verb

def aboutFile : String := "Source file, or `-` for stdin"

def globalFlags : List (Flag × String) :=
  [(.config, "Config file (defaults to $MENDER_CONFIG, then the per-user config)"), (.verbose, "Debug logging")]

/-- The flags that are understood after a command, or before any. -/
def flagsOf : Option Verb → List Flag
  | none => globalFlags.map (·.1) ++ [.help, .version]
  | some verb => verb.ownFlags.map (·.1) ++ globalFlags.map (·.1) ++ [.help]

end CodeRepair.CommandLine
