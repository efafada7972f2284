import CodeRepair.Proofs.Execution.Recording

/-!
Everything that a run can ask of the system, and in which order. What holds of every run is read off these itineraries.
-/
namespace CodeRepair

def Workplace.files (w : Workplace) (language : Language) : List String :=
  w.source :: if language.isCompiled then [w.binary] else []

/-- Where the directory of a run comes from: the configuration names it, or else the system is asked. -/
inductive Lodges (c : SandboxConfig) : String → List Act → Prop
  | named {dir : String} : c.workDir = some dir → Lodges c dir []
  | given {dir : String} : c.workDir = none → Lodges c dir [.tempDir dir]

/-- What is asked from the writing of the source on, and what comes of it. -/
inductive Works (c : SandboxConfig) (language : Language) (code : String) (w : Workplace) :
    List Act → ExecutionResult → Prop
  | unwritten (fault : Files.Fault) :
    Works c language code w [.write w.source code (.error fault), .remove w.source]
      (.internal .setup ("failed to write source file: " ++ fault.message))
  | interpreted (ending : Ending) : c.compileCommand language w.source w.binary = none →
    Works c language code w
      [.write w.source code (.ok ()),
        .command (c.runCommand language w.source) w.dir (some c.limits.timeoutSecs) ending, .remove w.source]
      (c.programResult (c.runCommand language w.source) ending)
  | uncompiled {argv : List String} {ending : Ending} {r : ExecutionResult} :
    c.compileCommand language w.source w.binary = some argv → c.compilerResult? argv ending = some r →
    Works c language code w
      [.write w.source code (.ok ()), .command argv w.dir (some c.limits.compileTimeoutSecs) ending,
        .remove w.source, .remove w.binary] r
  | compiled {argv : List String} {made : Ending} (ending : Ending) :
    c.compileCommand language w.source w.binary = some argv → c.compilerResult? argv made = none →
    Works c language code w
      [.write w.source code (.ok ()), .command argv w.dir (some c.limits.compileTimeoutSecs) made,
        .command (c.runCommand language w.binary) w.dir (some c.limits.timeoutSecs) ending,
        .remove w.source, .remove w.binary]
      (c.programResult (c.runCommand language w.binary) ending)

inductive Settles (c : SandboxConfig) (language : Language) (code dir : String) : List Act → ExecutionResult → Prop
  | homeless (fault : Files.Fault) :
    Settles c language code dir [.createDirs dir (.error fault)]
      (.internal .setup ("failed to create work dir " ++ dir ++ ": " ++ fault.message))
  | housed {token : String} {acts : List Act} {r : ExecutionResult} :
    Works c language code (.ofToken dir token language) acts r →
    Settles c language code dir (.createDirs dir (.ok ()) :: .token token :: acts) r

/-- What a whole run asks, and what comes of it. -/
inductive Itinerary (c : SandboxConfig) (language : Language) (code : String) : List Act → ExecutionResult → Prop
  | intro {dir : String} {front acts : List Act} {r : ExecutionResult} (start stop : Nat) :
    Lodges c dir front → Settles c language code dir acts r →
    Itinerary c language code (.clock start :: (front ++ (acts ++ [.clock stop]))) { r with durationMs := stop - start }

variable {σ : Type} {host : Host (StateM σ)} {c : SandboxConfig} {language : Language} {code : String} {w : Workplace}

def removals (language : Language) (w : Workplace) : List Act := (w.files language).map .remove

theorem isCompiled_of_command {source binary : String} {argv : List String}
    (h : c.compileCommand language source binary = some argv) : language.isCompiled = true := by
  cases language with
  | python => cases h
  | cpp => rfl

theorem isCompiled_of_no_command {source binary : String} (h : c.compileCommand language source binary = none) :
    language.isCompiled = false := by
  cases language with
  | python => rfl
  | cpp => cases h

theorem execute_goes (w : Workplace) (argv : List String) :
    Goes host (host.recording.execute c w argv) (host.execute c w argv) fun acts r ↦
      ∃ ending, acts = [.command argv w.dir (some c.limits.timeoutSecs) ending] ∧ r = c.programResult argv ending := by
  apply Goes.ask (.command argv w.dir (some c.limits.timeoutSecs)) (fun _ ↦ rfl)
  intro ending
  exact .pure ⟨ending, rfl, rfl⟩

theorem compileAndExecute_goes (w : Workplace) :
    Goes host (host.recording.compileAndExecute c language w) (host.compileAndExecute c language w) fun acts r ↦
      Works c language code w (.write w.source code (.ok ()) :: (acts ++ removals language w)) r := by
  unfold Host.compileAndExecute
  cases hcommand : c.compileCommand language w.source w.binary with
  | none =>
    apply (execute_goes w _).mono
    rintro acts r ⟨ending, rfl, rfl⟩
    rw [removals, Workplace.files, isCompiled_of_no_command hcommand]
    exact .interpreted ending hcommand
  | some argv =>
    rw [removals, Workplace.files, isCompiled_of_command hcommand]
    apply Goes.ask (.command argv w.dir (some c.limits.compileTimeoutSecs)) (fun _ ↦ rfl)
    intro made
    cases hmade : c.compilerResult? argv made with
    | some r => exact .pure (.uncompiled hcommand hmade)
    | none =>
      apply (execute_goes w _).mono
      rintro acts r ⟨ending, rfl, rfl⟩
      exact .compiled ending hcommand hmade

theorem clean_goes (language : Language) (w : Workplace) :
    Goes host (host.recording.clean language w) (host.clean language w) fun acts _ ↦ acts = removals language w := by
  apply Goes.ask (fun (_ : Unit) ↦ .remove w.source) (fun _ ↦ rfl)
  intro _
  rw [removals, Workplace.files]
  cases language.isCompiled with
  | true => exact (Goes.noting (fun (_ : Unit) ↦ .remove w.binary) fun _ ↦ rfl).mono fun _ _ hacts ↦ congrArg _ hacts
  | false => exact .pure rfl

theorem writeAndExecute_goes (w : Workplace) :
    Goes host (host.recording.writeAndExecute c language code w) (host.writeAndExecute c language code w)
      (Works c language code w) := by
  apply Goes.ask (.write w.source code) (fun _ ↦ rfl)
  intro answer
  cases answer with
  | error fault =>
    apply Goes.ask (fun (_ : Unit) ↦ .remove w.source) (fun _ ↦ rfl)
    intro _
    exact .pure (.unwritten fault)
  | ok _ =>
    apply (compileAndExecute_goes w).bind
    intro acts r hworks
    apply (clean_goes language w).bind
    rintro _ _ rfl
    apply Goes.pure
    rw [List.append_nil]
    exact hworks

theorem workDir_goes (c : SandboxConfig) :
    Goes host (host.recording.workDir c) (host.workDir c) fun acts dir ↦ Lodges c dir acts := by
  unfold Host.workDir
  cases hdir : c.workDir with
  | some dir => exact .pure (.named hdir)
  | none =>
    apply (Goes.noting .tempDir fun _ ↦ rfl).mono
    rintro _ dir rfl
    exact .given hdir

theorem makeAndExecute_goes (dir : String) :
    Goes host (host.recording.makeAndExecute c language code dir) (host.makeAndExecute c language code dir)
      (Settles c language code dir) := by
  apply Goes.ask (.createDirs dir) (fun _ ↦ rfl)
  intro answer
  cases answer with
  | error fault => exact .pure (.homeless fault)
  | ok _ =>
    apply Goes.ask .token (fun _ ↦ rfl)
    intro token
    apply (writeAndExecute_goes _).mono
    intro acts r hworks
    exact .housed hworks

theorem run_goes :
    Goes host (host.recording.run c language code) (host.run c language code) (Itinerary c language code) := by
  apply Goes.ask .clock (fun _ ↦ rfl)
  intro start
  apply (workDir_goes c).bind
  intro front dir hlodges
  apply (makeAndExecute_goes dir).bind
  intro acts r hsettles
  apply Goes.ask .clock (fun _ ↦ rfl)
  intro stop
  exact .pure ⟨start, stop, hlodges, hsettles⟩

theorem run_itinerary (host : Host (StateM σ)) (c : SandboxConfig) (language : Language) (code : String) (s : σ) :
    Itinerary c language code (host.acts c language code s) (host.run c language code s).1 ∧
      Performed host s (host.record c language code s) (host.run c language code s).2 := by
  obtain ⟨deeds, r, s', hrecorded, hplain, hperformed, hitinerary⟩ := @run_goes σ host c language code s
  rw [Host.acts, Host.record, hrecorded [], hplain, List.nil_append]
  exact ⟨hitinerary, hperformed⟩

end CodeRepair
