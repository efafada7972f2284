import CodeRepair.Bench.Desk
import CodeRepair.Http.Target
import Std.Time.DateTime.Timestamp

/-!
The program on a real system. The files of the user are real; snippets run on a computer in memory, which starts
empty, and nothing is sent over a network. A gateway reads requests from the input, one on a line: the method, the
path, and the body.
-/
namespace CodeRepair.Main

open CommandLine (Desk)

/-- The refusal that an error of the system stands for. -/
def faultOf : IO.Error → Files.Fault
  | .noFileOrDirectory .. | .noSuchThing .. => .notFound
  | .alreadyExists .. => .present
  | .inappropriateType .. => .isDirectory
  | .unsatisfiedConstraints .. => .notEmpty
  | _ => .denied

def attempt {α : Type} (action : IO α) : IO (Except Files.Fault α) := do
  try return .ok (← action)
  catch e => return .error (faultOf e)

def readText (path : String) : IO (Except Files.Fault String) := do
  match ← attempt (IO.FS.readBinFile path) with
  | .error fault => return .error fault
  | .ok bytes =>
    match String.fromUTF8? bytes with
    | some text => return .ok text
    | none => return .error .notText

def now : IO Time.Stamp := do
  let nanos := (← Std.Time.Timestamp.now).toNanosecondsSinceUnixEpoch.val
  return ⟨nanos.fdiv 1000000000, (nanos.fmod 1000000000).toNat⟩

def drawBits : IO Nat := do return (← IO.getRandomBytes 16).foldl (fun n b ↦ 256 * n + b.toNat) 0

def station : Bench.Station := .ofFiles "/work" [] [("PATH", "/usr/bin:/bin"), ("HOME", "/work")] "/tmp"

def desk : Desk (StateT Bench.Station IO) :=
  { Bench.Station.desk "" (fun _ ↦ return .nothing) now drawBits [] with
    valueOf name := IO.getEnv name
    read path := readText path
    save path content := attempt (IO.FS.writeFile path content)
    prepare path := attempt (IO.FS.createDirAll path)
    input := do attempt (← IO.getStdin).readToEnd
    holds path := do return ← ((← IO.currentDir) / path).pathExists
    isFile path := do
      let there := (← IO.currentDir) / path
      return (← there.pathExists) && !(← there.isDir)
    accountHome := return none }

def requestOf (line : String) : Option Http.Request :=
  let words := Text.splitAt (· = ' ') line.toList
  match words with
  | method :: path :: body =>
    (Http.target? (String.ofList path)).map fun target ↦
      { method := String.ofList method, target
        headers := [⟨"content-type", "application/json"⟩]
        body := Text.joinWith " " (body.map String.ofList) }
  | _ => none

partial def answerAll (server : Gateway.Server) : StateT Bench.Station IO Unit := do
  let line ← (← IO.getStdin).getLine
  unless line.isEmpty do
    match requestOf line.trimAscii.toString with
    | none => answerAll server
    | some r =>
      let (response, server) ← server.answer desk.toSurroundings r
      IO.println (toString response.status ++ " " ++ response.body)
      (← IO.getStdout).flush
      answerAll server

def call (words : List String) : StateT Bench.Station IO UInt32 := do
  match ← desk.call words with
  | .ended status printed =>
    IO.print printed.out
    IO.eprint printed.err
    return UInt32.ofNat status
  | .serving server =>
    answerAll server
    return 0

end CodeRepair.Main

def main (args : List String) : IO UInt32 := do
  return (← (CodeRepair.Main.call args).run CodeRepair.Main.station).1
