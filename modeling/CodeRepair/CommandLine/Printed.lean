import CodeRepair.Json.Writer
import CodeRepair.About
import CodeRepair.Number.Binary
import CodeRepair.Report

/-!
Results as they are told to a reader: what a program wrote goes to the stream it was written to, what is to be
used goes to the output, and what is said about it goes to the error output.
-/
namespace CodeRepair.CommandLine

/-- Text on the two streams. -/
structure Printed where
  out : String
  err : String
  deriving DecidableEq, Repr, Inhabited

namespace Printed

def nothing : Printed := ⟨"", ""⟩

def toOut (text : String) : Printed := ⟨text, ""⟩

def line (text : String) : Printed := toOut (text ++ "\n")

def remark (text : String) : Printed := ⟨"", text ++ "\n"⟩

instance : Append Printed := ⟨fun a b ↦ ⟨a.out ++ b.out, a.err ++ b.err⟩⟩

def all (ps : List Printed) : Printed := ps.foldl (· ++ ·) nothing

def document {α : Type} [Schema.HasShape α] (a : α) : Printed := line (Schema.toJson a).pretty

def note (text : String) : Printed := remark ("[" ++ programName ++ "] " ++ text)

/-- What is said about a run that failed. -/
def verdict (r : ExecutionResult) : Printed :=
  match r.failureReason with
  | some reason => note (reason.message ++ " (" ++ toString r.durationMs ++ " ms)")
  | none =>
    if r.succeeded then nothing
    else
      match r.exitCode with
      | some code => note ("exited with status " ++ toString code)
      | none => note "failed"

def ofResult (r : ExecutionResult) : Printed := ⟨r.stdout, r.stderr⟩ ++ verdict r

def ofFix (f : Fix) : Printed :=
  all [line ("\n--- suggested fix (" ++ f.provider.getD "unknown" ++ ") ---"),
    line f.explanation,
    (match f.confidence with
      | some c => line ("confidence: " ++ Number.formatFloat32Places2 c)
      | none => nothing),
    line ("\n" ++ f.fixedCode)]

def ofReport (r : Report) : Printed :=
  ofResult r.result ++
  all (r.diagnostics.map fun d ↦ note ("line " ++ toString d.line ++ ": " ++ d.message)) ++
  (match r.fix with
    | some f => if f.isUsable then ofFix f else nothing
    | none => nothing)

def ofAttempt (a : Attempt) : Printed :=
  let reason :=
    match a.result.failureReason with
    | some reason => " (" ++ reason.message ++ ")"
    | none => ""
  remark ("attempt " ++ toString a.index ++ ": " ++ (if a.succeeded then "ok" else "failed") ++ reason) ++
  (match a.fix with
    | some f => if f.isUsable then remark ("  fix: " ++ f.explanation) else nothing
    | none => nothing)

def ofSummary (s : Summary) : Printed :=
  let closing :=
    remark ("session " ++ s.sessionId ++ ": " ++ s.state.name ++ " after " ++ toString s.totalAttempts ++
      " attempt(s) in " ++ Number.formatPlaces2 s.elapsedSeconds ++ "s")
  let output :=
    match s.attempts.getLast? with
    | some a => toOut a.result.stdout
    | none => nothing
  let change := if s.finalCode = s.initialCode then nothing else line ("\n--- final code ---\n" ++ s.finalCode)
  all (s.attempts.map ofAttempt) ++ closing ++ (if s.succeeded then output ++ change else nothing)

end Printed

end CodeRepair.CommandLine
