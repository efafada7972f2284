import CodeRepair.CommandLine.Help
import CodeRepair.CommandLine.Printed
import CodeRepair.Config.Check
import CodeRepair.Gateway.Server

/-!
The commands carried out. Each ends with a status and with text on the two streams, but the one that starts a
gateway leaves it listening.
-/
namespace CodeRepair.CommandLine

/-- A system with files to read and addresses to listen on. -/
structure Desk (m : Type → Type) extends Surroundings m where
  read : String → m (Except Files.Fault String)
  /-- Writes a file that is there to stay. -/
  save : (path content : String) → m (Except Files.Fault Unit)
  prepare : String → m (Except Files.Fault Unit)
  input : m (Except Files.Fault String)
  /-- Whether a path leads to anything. -/
  holds : String → m Bool
  /-- Whether a path leads to a file. -/
  isFile : String → m Bool
  accountHome : m (Option String)
  listen : (host : String) → (port : Nat) → m (Except Gateway.ListenFault Unit)

inductive Failure
  | unreadableConfig (path : String) (fault : Files.Fault)
  | badConfig (path : String) (fault : ConfigFault)
  | unknownLanguage (file : String)
  | unreadableInput (fault : Files.Fault)
  | unreadable (file : String) (fault : Files.Fault)
  | refused (e : SessionError)
  | unanswered
  | homeless
  | present (path : String)
  | notCreated (dir : String) (fault : Files.Fault)
  | notWritten (path : String) (fault : Files.Fault)
  | notBound (host : String) (port : Nat) (fault : Gateway.ListenFault)
  deriving DecidableEq, Repr

def Failure.message : Failure → String
  | unreadableConfig path fault => "Failed to read config file " ++ path ++ ": " ++ fault.message
  | badConfig path fault =>
    Text.joinWith ": " (("Invalid config file " ++ path) :: fault.message :: fault.causes)
  | unknownLanguage file =>
    "Cannot infer the language of " ++ file ++ "; pass --language (" ++ Language.supported ++ ")"
  | unreadableInput fault => "Failed to read code from stdin: " ++ fault.message
  | unreadable file fault => "Failed to read " ++ file ++ ": " ++ fault.message
  | refused e => e.message
  | unanswered => "no answer"
  | homeless => "No config directory on this platform"
  | present path => path ++ " already exists (use --force to overwrite)"
  | notCreated dir fault => "Failed to create " ++ dir ++ ": " ++ fault.message
  | notWritten path fault => "Failed to write " ++ path ++ ": " ++ fault.message
  | notBound host port fault =>
    "Failed to bind " ++ host ++ ":" ++ toString port ++ ": " ++ fault.message

inductive Outcome
  | ended (status : Nat) (printed : Printed)
  | serving (server : Gateway.Server)

def configVariable : String := "MENDER_CONFIG"

namespace Desk

variable {m : Type → Type} [Monad m]

def configDir (desk : Desk m) : m (Option String) := do
  match (← desk.valueOf "XDG_CONFIG_HOME").filter Files.Path.isAbsolute with
  -- A relative directory in the variable does not count.
  | some dir => return some dir
  | none =>
    let home ← match (← desk.valueOf "HOME").filter (!·.isEmpty) with
      | some home => pure (some home)
      | none => desk.accountHome
    return home.map (Files.Path.join · ".config")

def userConfig (desk : Desk m) : m (Option String) := do
  return (← desk.configDir).map fun dir ↦ Files.Path.join (Files.Path.join dir programName) "config.toml"

/-- Which file to read the configuration from, if any: the one that was named, then the one that the variable
names, then that of the user when there is one. -/
def configFile (desk : Desk m) (named : Option String) : m (Option String) := do
  match named with
  | some path => return some path
  | none =>
    match (← desk.valueOf configVariable).filter (!·.isEmpty) with
    | some path => return some path
    | none =>
      match ← desk.userConfig with
      | some path => return if ← desk.isFile path then some path else none
      | none => return none

def config (desk : Desk m) (named : Option String) : ExceptT Failure m Config := do
  match ← desk.configFile named with
  | none => return .default
  | some path =>
    match ← desk.read path with
    | .error fault => throw (.unreadableConfig path fault)
    | .ok text =>
      match Config.ofToml text with
      | .error fault => throw (.badConfig path fault)
      | .ok config => return config

def code (desk : Desk m) (file : String) : ExceptT Failure m String := do
  if Files.Path.same file "-" then
    match ← desk.input with
    | .ok code => return code
    | .error fault => throw (.unreadableInput fault)
  else
    match ← desk.read file with
    | .ok code => return code
    | .error fault => throw (.unreadable file fault)

/-- The language of a file: what was said, as it was said, or what its name suggests. -/
def languageOf (file : String) (said : Option String) : Except Failure String :=
  match said with
  | some language => .ok language
  | none =>
    match (Files.Path.extension? file).bind Language.ofExtension? with
    | some language => .ok language.name
    | none => .error (.unknownLanguage file)

def ask (desk : Desk m) (config : Config) (request : Request) : ExceptT Failure m Payload := do
  let service ← (Service.ofConfig desk.toSurroundings config : m Service)
  -- Each command has a service of its own, so what is registered ends with it.
  let (answer, _) ← (do
    (service.outside desk.toSurroundings).serve service.settings (.start service.settings) request (← desk.bits) :
      m (Option Answer × Machine))
  match answer with
  | some (.ok payload) => return payload
  | some (.error e) => throw (.refused e)
  | none => throw .unanswered

def present (json : Bool) : Payload → Printed
  | .result r => if json then .document r else .ofResult r
  | .report r => if json then .document r else .ofReport r
  | .attempt a => if json then .document a else .ofAttempt a
  | .summary s => if json then .document s else .ofSummary s
  | .summaries ss => if json then .document ss else .all (ss.map .ofSummary)

def wentWell : Payload → Bool
  | .result r => r.succeeded
  | .report r => r.result.succeeded
  | .attempt a => a.succeeded
  | .summary s => s.succeeded
  | .summaries _ => true

def request (desk : Desk m) (config : Config) (json : Bool) (request : Request) : ExceptT Failure m Outcome := do
  let payload ← desk.ask config request
  return .ended (if wentWell payload then 0 else 1) (present json payload)

def check (desk : Desk m) (config : Config) (file : String) : ExceptT Failure m Outcome := do
  let code ← desk.code file
  let verdict := (SafetyGate.withExtraTerms config.safety.extraTerms).check code
  if verdict.safe then return .ended 0 (.line "safe")
  else return .ended 1 (.line ("unsafe: " ++ verdict.reason.getD ""))

def lookForTools (desk : Desk m) (config : Config) : m Unit :=
  Language.all.forM fun language ↦ do discard (desk.toHost.isAvailable config.sandbox language)

/-- A gateway starts to listen. That a language cannot be run keeps it from nothing. -/
def serve (desk : Desk m) (config : Config) : ExceptT Failure m Outcome := do
  (desk.lookForTools config : m Unit)
  let service ← (Service.ofConfig desk.toSurroundings config : m Service)
  match ← desk.listen config.gateway.host config.gateway.port with
  | .ok () => return .serving (.start service)
  | .error fault => throw (.notBound config.gateway.host config.gateway.port fault)

def defaultDocument : String := (Config.toToml .default).toOption.getD ""

def writeConfig (desk : Desk m) (path : String) (force : Bool) : ExceptT Failure m Outcome := do
  -- Whatever is there already stays, be it a file or not, unless it may be overwritten.
  if (← desk.holds path) && !force then throw (.present path)
  match Files.Path.directory? path with
  | none => pure ()
  | some dir =>
    match ← desk.prepare dir with
    | .ok () => pure ()
    | .error fault => throw (.notCreated dir fault)
  match ← desk.save path defaultDocument with
  | .ok () => return .ended 0 (.remark ("Wrote " ++ path))
  | .error fault => throw (.notWritten path fault)

def initConfig (desk : Desk m) (output : Option String) (force : Bool) : ExceptT Failure m Outcome := do
  match output with
  | none => return .ended 0 (.toOut defaultDocument)
  | some path =>
    if Files.Path.same path "default" then
      match ← desk.userConfig with
      | some path => desk.writeConfig path force
      | none => throw .homeless
    else desk.writeConfig path force

def perform (desk : Desk m) (i : Invocation) : ExceptT Failure m Outcome := do
  match i.command with
  | .run file language json =>
    let config ← desk.config i.config
    let language ← languageOf file language
    desk.request config json (.execute language (← desk.code file))
  | .check file => desk.check (← desk.config i.config) file
  | .debug file language json =>
    let config ← desk.config i.config
    let language ← languageOf file language
    desk.request config json (.debug language (← desk.code file))
  | .retry file language maxAttempts onNoFix json =>
    let config ← desk.config i.config
    let config := { config with retry.onNoFix := onNoFix.getD config.retry.onNoFix }
    let language ← languageOf file language
    desk.request config json (.run language (← desk.code file) maxAttempts none)
  | .serve host port =>
    let config ← desk.config i.config
    desk.serve { config with
      gateway.host := host.getD config.gateway.host
      gateway.port := port.getD config.gateway.port }
  | .initConfig output force => desk.initConfig output force

def explain : Stop → Outcome
  | .help topic => .ended 0 (.toOut (Help.text topic))
  | .version => .ended 0 (.line (programName ++ " " ++ version))
  | .misuse misuse =>
    .ended 2 (.remark ("error: " ++ misuse.message ++ "\n\n" ++ Help.usage .program ++
      "\n\nFor more information, try '--help'."))

def call (desk : Desk m) (words : List String) : m Outcome := do
  match Invocation.ofWords words with
  | .error stop => return explain stop
  | .ok i =>
    match ← (desk.perform i).run with
    | .ok outcome => return outcome
    | .error failure => return .ended 2 (.remark ("Error: " ++ failure.message))

end Desk

end CodeRepair.CommandLine
