import CodeRepair.Proofs.Execution.Itinerary

/-!
How a run ended, as its result tells it: what the fields of a result say about each other, and how the set-up, the
compiler and the program ended, which decides every one of them.
-/
namespace CodeRepair

def SandboxConfig.Compiles (c : SandboxConfig) (language : Language) (argv : List String) : Prop :=
  ∃ source binary, c.compileCommand language source binary = some argv

def SandboxConfig.Starts (c : SandboxConfig) (language : Language) (argv : List String) : Prop :=
  ∃ file, c.runCommand language file = argv

def Act.command? : Act → Option (List String × Ending)
  | .command argv _ _ ending => some (argv, ending)
  | _ => none

def commands (acts : List Act) : List (List String × Ending) := acts.filterMap Act.command?

def SetUp (code : String) (acts : List Act) : Prop :=
  (∃ dir, Act.createDirs dir (.ok ()) ∈ acts) ∧ ∃ path, Act.write path code (.ok ()) ∈ acts

def SetUpFails (code : String) (acts : List Act) : Prop :=
  (∃ dir fault, Act.createDirs dir (.error fault) ∈ acts) ∨ ∃ path fault, Act.write path code (.error fault) ∈ acts

def CompilerEnds (c : SandboxConfig) (language : Language) (acts : List Act) (ending : Ending) : Prop :=
  ∃ argv, c.Compiles language argv ∧ (argv, ending) ∈ commands acts

def ProgramEnds (c : SandboxConfig) (language : Language) (acts : List Act) (ending : Ending) : Prop :=
  ∃ argv, c.Starts language argv ∧ (argv, ending) ∈ commands acts

def SomeEnds (c : SandboxConfig) (language : Language) (acts : List Act) (ending : Ending) : Prop :=
  CompilerEnds c language acts ending ∨ ProgramEnds c language acts ending

/-- The system let a command down: it was not started, or it was lost. -/
def Ending.Broken (ending : Ending) : Prop := ∃ fault, ending = .notStarted fault ∨ ending = .lost fault

/-- A result whose fields agree with each other. -/
structure ExecutionResult.Coherent (r : ExecutionResult) : Prop where
  succeeded_iff : r.succeeded = true ↔ r.exitCode = some 0
  of_succeeded : r.succeeded = true → r.stage = .run ∧ r.failureReason = none
  of_compilationFailed : r.failureReason = some .compilationFailed → r.stage = .compile ∧ r.stdout = ""
  of_timedOut : r.failureReason = some .timedOut → r.stdout = "" ∧ r.stderr = "" ∧ r.exitCode = none
  of_no_reason : r.failureReason = none → r.stage = .run
  of_setup : r.stage = .setup → ∃ message, r.failureReason = some (.internal message)

/-- A result says how the set-up, the compiler and the program ended, and their ends decide what it says. -/
structure Reports (c : SandboxConfig) (language : Language) (code : String) (acts : List Act) (r : ExecutionResult) :
    Prop where
  setup_iff : r.stage = .setup ↔ SetUpFails code acts
  compile_iff : r.stage = .compile ↔
    ∃ ending, CompilerEnds c language acts ending ∧ ∀ out err, ending ≠ .exited (some 0) out err
  run_iff : r.stage = .run ↔ ∃ ending, ProgramEnds c language acts ending
  succeeded_iff_exited : r.succeeded = true ↔ ∃ out err, ProgramEnds c language acts (.exited (some 0) out err)
  compilationFailed_iff : r.failureReason = some .compilationFailed ↔
    ∃ status out err, status ≠ some 0 ∧ CompilerEnds c language acts (.exited status out err)
  timedOut_iff : r.failureReason = some .timedOut ↔ SomeEnds c language acts .timedOut
  internal_iff : (∃ message, r.failureReason = some (.internal message)) ↔
    SetUpFails code acts ∨ ∃ ending, SomeEnds c language acts ending ∧ ending.Broken
  plain_failure_iff : r.failureReason = none ∧ r.succeeded = false ↔
    r.exitCode ≠ some 0 ∧ ∃ out err, ProgramEnds c language acts (.exited r.exitCode out err)
  exited : ∀ status out err, ProgramEnds c language acts (.exited status out err) → r.exitCode = status ∧
    r.stdout = capture c.limits.maxOutputBytes out ∧ r.stderr = capture c.limits.maxOutputBytes err
  refused : ∀ status out err, CompilerEnds c language acts (.exited status out err) → status ≠ some 0 →
    r.exitCode = status ∧ r.stderr = capture c.limits.maxOutputBytes err

/-- A result that agrees with itself, with what was asked and with what came of it. -/
structure Classified (c : SandboxConfig) (language : Language) (code : String) (acts : List Act)
    (r : ExecutionResult) : Prop extends r.Coherent, Reports c language code acts r where
  setup_without_process : r.stage = .setup → commands acts = []
  program_iff : (∃ ending, ProgramEnds c language acts ending) ↔
    SetUp code acts ∧ (language.isCompiled = true → ∃ out err, CompilerEnds c language acts (.exited (some 0) out err))
  processes : ∃ compilers programs, commands acts = compilers ++ programs ∧
    compilers.length ≤ 1 ∧ (∀ p ∈ compilers, c.Compiles language p.1) ∧
    programs.length ≤ 1 ∧ ∀ p ∈ programs, c.Starts language p.1
  of_interpreted : language.isCompiled = false → r.stage ≠ .compile

/-- What the result of a run shows of the command that ended it. -/
structure ExecutionResult.Shows (r : ExecutionResult) (max : Nat) (ending : Ending) : Prop where
  timedOut_iff : r.failureReason = some .timedOut ↔ ending = .timedOut
  internal_iff : (∃ message, r.failureReason = some (.internal message)) ↔ ending.Broken
  exited : ∀ status out err, ending = .exited status out err → r.exitCode = status ∧ r.stderr = capture max err

variable {σ : Type} {c : SandboxConfig} {language : Language} {code dir : String} {w : Workplace}
  {acts front : List Act} {argv : List String} {ending : Ending} {r : ExecutionResult}

section Results

open ExecutionResult

theorem programResult_exited (c : SandboxConfig) (argv : List String) (status : Option Int)
    (out err : List (List UInt8)) : c.programResult argv (.exited status out err) =
      ⟨status = some 0, capture c.limits.maxOutputBytes out, capture c.limits.maxOutputBytes err, none, .run, status,
        0⟩ := by
  rw [SandboxConfig.programResult]
  split
  next hstatus => simp [success, hstatus]
  next hstatus => simp [runtimeFailure, hstatus]

theorem compilerResult?_exited_iff {status : Option Int} {out err : List (List UInt8)} :
    c.compilerResult? argv (.exited status out err) = some r ↔
      status ≠ some 0 ∧ r = compileFailure (capture c.limits.maxOutputBytes err) status := by
  rw [SandboxConfig.compilerResult?]
  split
  next hstatus => simp [hstatus]
  next hstatus => simp [hstatus, eq_comm]

theorem coherent_timedOut {stage : ExecutionStage} (h : stage ≠ .setup) : (timedOut stage).Coherent := by
  constructor <;> simp [timedOut, h]

theorem coherent_internal (stage : ExecutionStage) (message : String) : (internal stage message).Coherent := by
  constructor <;> simp [internal]

theorem programResult_coherent (c : SandboxConfig) (argv : List String) (ending : Ending) :
    (c.programResult argv ending).Coherent := by
  cases ending with
  | notStarted fault => exact coherent_internal _ _
  | lost fault => exact coherent_internal _ _
  | timedOut => exact coherent_timedOut (by decide)
  | exited status out err =>
    rw [programResult_exited]
    constructor <;> simp

theorem programResult_stage (c : SandboxConfig) (argv : List String) (ending : Ending) :
    (c.programResult argv ending).stage = .run := by
  cases ending with
  | exited status out err => rw [programResult_exited]
  | _ => rfl

theorem programResult_not_refused (c : SandboxConfig) (argv : List String) (ending : Ending) :
    (c.programResult argv ending).failureReason ≠ some .compilationFailed := by
  intro hrefused
  have hstage := ((programResult_coherent c argv ending).of_compilationFailed hrefused).1
  rw [programResult_stage] at hstage
  cases hstage

theorem programResult_succeeded_iff :
    (c.programResult argv ending).succeeded = true ↔ ∃ out err, ending = .exited (some 0) out err := by
  cases ending with
  | exited status out err => simp [programResult_exited]
  | _ => simp [SandboxConfig.programResult, internal, timedOut]

theorem programResult_no_reason_iff : (c.programResult argv ending).failureReason = none ↔
    ∃ out err, ending = .exited (c.programResult argv ending).exitCode out err := by
  cases ending with
  | exited status out err => simp [programResult_exited]
  | _ => simp [SandboxConfig.programResult, internal, timedOut]

theorem programResult_shows (c : SandboxConfig) (argv : List String) (ending : Ending) :
    (c.programResult argv ending).Shows c.limits.maxOutputBytes ending := by
  cases ending with
  | exited status out err =>
    rw [programResult_exited]
    constructor <;> simp [Ending.Broken]
  | _ => constructor <;> simp [SandboxConfig.programResult, internal, timedOut, Ending.Broken]

theorem compilerResult?_eq_none (h : c.compilerResult? argv ending = none) :
    ∃ out err, ending = .exited (some 0) out err := by
  cases ending with
  | exited status out err =>
    rw [SandboxConfig.compilerResult?] at h
    split at h
    next hstatus => exact ⟨out, err, by rw [hstatus]⟩
    · cases h
  | _ => cases h

theorem compilerResult?_failed (h : c.compilerResult? argv ending = some r) (out err : List (List UInt8)) :
    ending ≠ .exited (some 0) out err := by
  rintro rfl
  cases h

theorem compilerResult?_coherent (h : c.compilerResult? argv ending = some r) : r.Coherent := by
  cases ending with
  | notStarted fault => exact Option.some.inj h ▸ coherent_internal _ _
  | lost fault => exact Option.some.inj h ▸ coherent_internal _ _
  | timedOut => exact Option.some.inj h ▸ coherent_timedOut (by decide)
  | exited status out err =>
    obtain ⟨hstatus, rfl⟩ := compilerResult?_exited_iff.1 h
    constructor <;> simp [compileFailure, hstatus]

theorem compilerResult?_stage (h : c.compilerResult? argv ending = some r) :
    r.stage = .compile ∧ r.failureReason ≠ none := by
  cases ending with
  | exited status out err =>
    obtain ⟨-, rfl⟩ := compilerResult?_exited_iff.1 h
    exact ⟨rfl, Option.some_ne_none _⟩
  | _ =>
    rw [← Option.some.inj h]
    exact ⟨rfl, Option.some_ne_none _⟩

theorem compilerResult?_compilationFailed (h : c.compilerResult? argv ending = some r) :
    r.failureReason = some .compilationFailed ↔
      ∃ status out err, status ≠ some 0 ∧ ending = .exited status out err := by
  cases ending with
  | exited status out err =>
    obtain ⟨hstatus, rfl⟩ := compilerResult?_exited_iff.1 h
    exact ⟨fun _ ↦ ⟨status, out, err, hstatus, rfl⟩, fun _ ↦ rfl⟩
  | _ =>
    rw [← Option.some.inj h]
    simp [internal, timedOut]

theorem compilerResult?_shows (h : c.compilerResult? argv ending = some r) :
    r.Shows c.limits.maxOutputBytes ending := by
  cases ending with
  | exited status out err =>
    obtain ⟨-, rfl⟩ := compilerResult?_exited_iff.1 h
    constructor <;> simp [compileFailure, Ending.Broken]
  | _ =>
    rw [← Option.some.inj h]
    constructor <;> simp [internal, timedOut, Ending.Broken]

end Results

section Commands

theorem SandboxConfig.Compiles.not_starts (h : c.Compiles language argv) : ¬ c.Starts language argv := by
  rintro ⟨file, hfile⟩
  obtain ⟨source, binary, hargv⟩ := h
  cases language with
  | python => cases hargv
  | cpp =>
    have hlength := congrArg List.length ((Option.some.inj hargv).trans hfile.symm)
    simp [SandboxConfig.runCommand] at hlength

structure Ready (code : String) (acts : List Act) : Prop where
  setUp : SetUp code acts
  nothing_failed : ¬ SetUpFails code acts

/-- The commands of a run: those of the compiler, then those of the program. -/
structure Runs (c : SandboxConfig) (language : Language) (acts : List Act)
    (compilers programs : List (List String × Ending)) : Prop where
  commands_eq : commands acts = compilers ++ programs
  compiles : ∀ p ∈ compilers, c.Compiles language p.1
  starts : ∀ p ∈ programs, c.Starts language p.1

theorem Runs.compilerEnds_iff {compilers programs : List (List String × Ending)}
    (h : Runs c language acts compilers programs) :
    CompilerEnds c language acts ending ↔ ∃ argv, (argv, ending) ∈ compilers := by
  constructor
  · rintro ⟨argv, hcompiles, hmem⟩
    rw [h.commands_eq, List.mem_append] at hmem
    rcases hmem with hmem | hmem
    · exact ⟨argv, hmem⟩
    · exact absurd (h.starts _ hmem) hcompiles.not_starts
  · rintro ⟨argv, hmem⟩
    exact ⟨argv, h.compiles _ hmem, h.commands_eq ▸ List.mem_append_left _ hmem⟩

theorem Runs.programEnds_iff {compilers programs : List (List String × Ending)}
    (h : Runs c language acts compilers programs) :
    ProgramEnds c language acts ending ↔ ∃ argv, (argv, ending) ∈ programs := by
  constructor
  · rintro ⟨argv, hstarts, hmem⟩
    rw [h.commands_eq, List.mem_append] at hmem
    rcases hmem with hmem | hmem
    · exact absurd hstarts (h.compiles _ hmem).not_starts
    · exact ⟨argv, hmem⟩
  · rintro ⟨argv, hmem⟩
    exact ⟨argv, h.starts _ hmem, h.commands_eq ▸ List.mem_append_right _ hmem⟩

/-- What a run did, and what follows from how its commands ended. -/
inductive Story (c : SandboxConfig) (language : Language) (code : String) (acts : List Act) : ExecutionResult → Prop
  | unprepared (message : String) : SetUpFails code acts → ¬ SetUp code acts → Runs c language acts [] [] →
    Story c language code acts (.internal .setup message)
  | interpreted {argv : List String} (ending : Ending) : language.isCompiled = false → Ready code acts →
    Runs c language acts [] [(argv, ending)] → Story c language code acts (c.programResult argv ending)
  | uncompiled {argv : List String} {ending : Ending} {r : ExecutionResult} : language.isCompiled = true →
    Ready code acts → Runs c language acts [(argv, ending)] [] → c.compilerResult? argv ending = some r →
    Story c language code acts r
  | compiled {compiler argv : List String} {made : Ending} (ending : Ending) : language.isCompiled = true →
    Ready code acts → Runs c language acts [(compiler, made)] [(argv, ending)] →
    c.compilerResult? compiler made = none → Story c language code acts (c.programResult argv ending)

theorem commands_around (h : Lodges c dir front) (start stop : Nat) (acts : List Act) :
    commands (.clock start :: (front ++ (acts ++ [.clock stop]))) = commands acts := by
  have hfront : commands front = [] := by cases h <;> rfl
  calc commands (.clock start :: (front ++ (acts ++ [.clock stop])))
      = commands front ++ (commands acts ++ commands [.clock stop]) := by
        rw [commands, List.filterMap_cons_none rfl, List.filterMap_append, List.filterMap_append]
        rfl
    _ = commands acts := by
        rw [hfront, List.nil_append]
        exact List.append_nil _

theorem setUp_around (h : Lodges c dir front) (start stop : Nat) (acts : List Act) :
    SetUp code (.clock start :: (front ++ (acts ++ [.clock stop]))) ↔ SetUp code acts := by
  cases h <;> simp [SetUp]

theorem setUpFails_around (h : Lodges c dir front) (start stop : Nat) (acts : List Act) :
    SetUpFails code (.clock start :: (front ++ (acts ++ [.clock stop]))) ↔ SetUpFails code acts := by
  cases h <;> simp [SetUpFails]

theorem Works.story {token : String} (h : Works c language code w acts r) :
    Story c language code (.createDirs dir (.ok ()) :: .token token :: acts) r := by
  cases h with
  | unwritten fault =>
    exact .unprepared _ (by simp [SetUpFails]) (by simp [SetUp]) ⟨rfl, by simp, by simp⟩
  | interpreted ending hcommand =>
    exact .interpreted ending (isCompiled_of_no_command hcommand) ⟨by simp [SetUp], by simp [SetUpFails]⟩
      ⟨rfl, by simp, by simp [SandboxConfig.Starts]⟩
  | uncompiled hcommand hr =>
    have hcompiles : c.Compiles language _ := ⟨_, _, hcommand⟩
    exact .uncompiled (isCompiled_of_command hcommand) ⟨by simp [SetUp], by simp [SetUpFails]⟩
      ⟨rfl, by simpa using hcompiles, by simp⟩ hr
  | compiled ending hcommand hmade =>
    have hcompiles : c.Compiles language _ := ⟨_, _, hcommand⟩
    exact .compiled ending (isCompiled_of_command hcommand) ⟨by simp [SetUp], by simp [SetUpFails]⟩
      ⟨rfl, by simpa using hcompiles, by simp [SandboxConfig.Starts]⟩ hmade

theorem Ready.around (h : Ready code acts) (hfront : Lodges c dir front) (start stop : Nat) :
    Ready code (.clock start :: (front ++ (acts ++ [.clock stop]))) :=
  ⟨(setUp_around hfront start stop acts).2 h.setUp,
    fun hfails ↦ h.nothing_failed ((setUpFails_around hfront start stop acts).1 hfails)⟩

theorem Runs.around {compilers programs : List (List String × Ending)} (h : Runs c language acts compilers programs)
    (hfront : Lodges c dir front) (start stop : Nat) :
    Runs c language (.clock start :: (front ++ (acts ++ [.clock stop]))) compilers programs :=
  ⟨(commands_around hfront start stop acts).trans h.commands_eq, h.compiles, h.starts⟩

theorem Story.around (h : Story c language code acts r) (hfront : Lodges c dir front) (start stop : Nat) :
    Story c language code (.clock start :: (front ++ (acts ++ [.clock stop]))) r := by
  cases h with
  | unprepared message hfails hbare hruns =>
    exact .unprepared message ((setUpFails_around hfront start stop acts).2 hfails)
      (fun hready ↦ hbare ((setUp_around hfront start stop acts).1 hready)) (hruns.around hfront start stop)
  | interpreted ending hlanguage hready hruns =>
    exact .interpreted ending hlanguage (hready.around hfront start stop) (hruns.around hfront start stop)
  | uncompiled hlanguage hready hruns hr =>
    exact .uncompiled hlanguage (hready.around hfront start stop) (hruns.around hfront start stop) hr
  | compiled ending hlanguage hready hruns hmade =>
    exact .compiled ending hlanguage (hready.around hfront start stop) (hruns.around hfront start stop) hmade

theorem Itinerary.story (h : Itinerary c language code acts r) :
    ∃ r' ms, Story c language code acts r' ∧ r = { r' with durationMs := ms } := by
  obtain ⟨start, stop, hfront, hsettles⟩ := h
  refine ⟨_, _, Story.around ?_ hfront start stop, rfl⟩
  cases hsettles with
  | homeless fault => exact .unprepared _ (by simp [SetUpFails]) (by simp [SetUp]) ⟨rfl, by simp, by simp⟩
  | housed hworks => exact hworks.story

end Commands

section Classified

/-- The command with this ending decided the run: no other command ended, unless successfully. -/
def Decides (c : SandboxConfig) (language : Language) (acts : List Act) (ending : Ending) : Prop :=
  ∀ e, (∀ out err, e ≠ .exited (some 0) out err) → (SomeEnds c language acts e ↔ ending = e)

theorem Decides.timedOut_iff {max : Nat} (h : Decides c language acts ending) (hshows : r.Shows max ending) :
    r.failureReason = some .timedOut ↔ SomeEnds c language acts .timedOut := by
  rw [hshows.timedOut_iff, h .timedOut (by simp)]

theorem Decides.internal_iff {max : Nat} (h : Decides c language acts ending) (hshows : r.Shows max ending)
    (hready : Ready code acts) : (∃ message, r.failureReason = some (.internal message)) ↔
      SetUpFails code acts ∨ ∃ e, SomeEnds c language acts e ∧ e.Broken := by
  have hends {e : Ending} (hbroken : e.Broken) : SomeEnds c language acts e ↔ ending = e := by
    apply h
    rintro out err rfl
    obtain ⟨fault, hfault | hfault⟩ := hbroken <;> cases hfault
  rw [hshows.internal_iff]
  constructor
  · intro hbroken
    exact .inr ⟨ending, (hends hbroken).2 rfl, hbroken⟩
  · rintro (hfails | ⟨e, hsome, hbroken⟩)
    · exact absurd hfails hready.nothing_failed
    · rw [(hends hbroken).1 hsome]
      exact hbroken

theorem reports_unprepared (message : String) (hfails : SetUpFails code acts)
    (hcompiler : ∀ e, ¬ CompilerEnds c language acts e) (hprogram : ∀ e, ¬ ProgramEnds c language acts e) :
    Reports c language code acts (.internal .setup message) := by
  constructor <;> simp [ExecutionResult.internal, SomeEnds, hfails, hcompiler, hprogram]

theorem reports_compiler (hready : Ready code acts) (hcompiler : ∀ e, CompilerEnds c language acts e ↔ ending = e)
    (hprogram : ∀ e, ¬ ProgramEnds c language acts e) (hr : c.compilerResult? argv ending = some r) :
    Reports c language code acts r := by
  have hshows := compilerResult?_shows hr
  have hcoherent := compilerResult?_coherent hr
  obtain ⟨hstage, hreason⟩ := compilerResult?_stage hr
  have hlast : Decides c language acts ending := by simp [Decides, SomeEnds, hcompiler, hprogram]
  exact {
    setup_iff := by simp [hstage, hready.nothing_failed]
    compile_iff := by simp [hstage, hcompiler, compilerResult?_failed hr]
    run_iff := by simp [hstage, hprogram]
    succeeded_iff_exited := by
      simp only [hprogram, exists_false, iff_false]
      exact fun hsucceeded ↦ hreason (hcoherent.of_succeeded hsucceeded).2
    compilationFailed_iff := by simp only [compilerResult?_compilationFailed hr, hcompiler]
    timedOut_iff := hlast.timedOut_iff hshows
    internal_iff := hlast.internal_iff hshows hready
    plain_failure_iff := by simp [hreason, hprogram]
    exited := by simp [hprogram]
    refused := fun status out err hends _ ↦ hshows.exited status out err ((hcompiler _).1 hends) }

theorem reports_program (hready : Ready code acts)
    (hcompiler : ∀ e, CompilerEnds c language acts e → ∃ out err, e = .exited (some 0) out err)
    (hprogram : ∀ e, ProgramEnds c language acts e ↔ ending = e) :
    Reports c language code acts (c.programResult argv ending) := by
  have hshows := programResult_shows c argv ending
  have hcoherent := programResult_coherent c argv ending
  have hstage := programResult_stage c argv ending
  have hmade {e : Ending} (he : ∀ out err, e ≠ .exited (some 0) out err) : ¬ CompilerEnds c language acts e := by
    intro hends
    obtain ⟨out, err, heq⟩ := hcompiler e hends
    exact he out err heq
  have hlast : Decides c language acts ending := fun e he ↦ by
    rw [SomeEnds, or_iff_right (hmade he), hprogram]
  exact {
    setup_iff := by simp [hstage, hready.nothing_failed]
    compile_iff := by
      refine iff_of_false (by simp [hstage]) ?_
      rintro ⟨e, hends, he⟩
      exact hmade he hends
    run_iff := by simp [hstage, hprogram]
    succeeded_iff_exited := by simp only [programResult_succeeded_iff, hprogram]
    compilationFailed_iff := by
      refine iff_of_false (programResult_not_refused c argv ending) ?_
      rintro ⟨status, out, err, hstatus, hends⟩
      exact hmade (by simp [hstatus]) hends
    timedOut_iff := hlast.timedOut_iff hshows
    internal_iff := hlast.internal_iff hshows hready
    plain_failure_iff := by
      simp only [hprogram, ← programResult_no_reason_iff, ← Bool.not_eq_true, hcoherent.succeeded_iff, and_comm]
    exited := by
      intro status out err hends
      obtain rfl := (hprogram _).1 hends
      rw [programResult_exited]
      exact ⟨rfl, rfl, rfl⟩
    refused := fun status out err hends hstatus ↦ absurd hends (hmade (by simp [hstatus])) }

theorem Story.classified (h : Story c language code acts r) : Classified c language code acts r := by
  cases h with
  | unprepared message hfails hbare hruns =>
    have hcompiler (e : Ending) : ¬ CompilerEnds c language acts e := by simp [hruns.compilerEnds_iff]
    have hprogram (e : Ending) : ¬ ProgramEnds c language acts e := by simp [hruns.programEnds_iff]
    exact {
      coherent_internal _ _, reports_unprepared message hfails hcompiler hprogram with
      setup_without_process := fun _ ↦ hruns.commands_eq
      program_iff := by simp [hprogram, hbare]
      processes := ⟨[], [], hruns.commands_eq, by simp⟩
      of_interpreted := by simp [ExecutionResult.internal] }
  | @interpreted argv ending hlanguage hready hruns =>
    have hcompiler (e : Ending) : ¬ CompilerEnds c language acts e := by simp [hruns.compilerEnds_iff]
    have hprogram (e : Ending) : ProgramEnds c language acts e ↔ ending = e := by
      simp [hruns.programEnds_iff, eq_comm]
    exact {
      programResult_coherent c argv ending,
      reports_program hready (fun e hends ↦ absurd hends (hcompiler e)) hprogram with
      setup_without_process := by simp [programResult_stage]
      program_iff := by simp [hprogram, hready.setUp, hlanguage]
      processes := ⟨[], [(argv, ending)], hruns.commands_eq, by simp, hruns.compiles, by simp, hruns.starts⟩
      of_interpreted := by simp [programResult_stage] }
  | @uncompiled argv ending r hlanguage hready hruns hr =>
    have hcompiler (e : Ending) : CompilerEnds c language acts e ↔ ending = e := by
      simp [hruns.compilerEnds_iff, eq_comm]
    have hprogram (e : Ending) : ¬ ProgramEnds c language acts e := by simp [hruns.programEnds_iff]
    exact {
      compilerResult?_coherent hr, reports_compiler hready hcompiler hprogram hr with
      setup_without_process := by simp [(compilerResult?_stage hr).1]
      program_iff := by simp [hprogram, hcompiler, hlanguage, compilerResult?_failed hr]
      processes := ⟨[(argv, ending)], [], hruns.commands_eq, by simp, hruns.compiles, by simp, hruns.starts⟩
      of_interpreted := by simp [hlanguage] }
  | @compiled compiler argv made ending hlanguage hready hruns hmade =>
    obtain ⟨out, err, rfl⟩ := compilerResult?_eq_none hmade
    have hcompiler (e : Ending) : CompilerEnds c language acts e ↔ .exited (some 0) out err = e := by
      simp [hruns.compilerEnds_iff, eq_comm]
    have hprogram (e : Ending) : ProgramEnds c language acts e ↔ ending = e := by
      simp [hruns.programEnds_iff, eq_comm]
    exact {
      programResult_coherent c argv ending,
      reports_program hready (fun e hends ↦ ⟨out, err, ((hcompiler e).1 hends).symm⟩) hprogram with
      setup_without_process := by simp [programResult_stage]
      program_iff := by simp [hprogram, hcompiler, hready.setUp]
      processes := ⟨[(compiler, _)], [(argv, ending)], hruns.commands_eq, by simp, hruns.compiles, by simp,
        hruns.starts⟩
      of_interpreted := by simp [hlanguage] }

theorem Classified.timed (h : Classified c language code acts r) (ms : Nat) :
    Classified c language code acts { r with durationMs := ms } where
  toCoherent := { h.toCoherent with }
  toReports := { h.toReports with }
  setup_without_process := h.setup_without_process
  program_iff := h.program_iff
  processes := h.processes
  of_interpreted := h.of_interpreted

/-- Whatever the system answers, the result of a run agrees with itself and with what the system did at each request of
the run: how the set-up, the compiler and the program ended decides its stage, its status and its failure. -/
theorem run_classified (host : Host (StateM σ)) (c : SandboxConfig) (language : Language) (code : String) (s : σ) :
    Performed host s (host.record c language code s) (host.run c language code s).2 ∧
      Classified c language code (host.acts c language code s) (host.run c language code s).1 := by
  obtain ⟨hitinerary, hperformed⟩ := run_itinerary host c language code s
  obtain ⟨r, ms, hstory, hr⟩ := hitinerary.story
  rw [hr]
  exact ⟨hperformed, hstory.classified.timed ms⟩

end Classified

end CodeRepair
