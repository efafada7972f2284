import CodeRepair.Proofs.Execution.Itinerary
import CodeRepair.Proofs.Files.Resolution

/-!
Which files the commands of a run are pointed at. A command gets the very paths that the source was written to and that
are removed in the end, but it is started in the work directory, and a relative path means something else there unless
the work directory leads back to itself.
-/
namespace CodeRepair

open Files (Tree Place)
open Files.Path (Plain isAbsolute)

/-- The file that is started: the binary of a compiled program, or else the source. -/
def Workplace.artifact (w : Workplace) (language : Language) : String :=
  if language.isCompiled then w.binary else w.source

/-- An act that has to do with the files of a workplace only. -/
def Act.KeepsTo (c : SandboxConfig) (language : Language) (w : Workplace) : Act → Prop
  | .write path _ _ => path = w.source
  | .remove path => path ∈ w.files language
  | .command argv dir _ _ => dir = w.dir ∧
    (c.compileCommand language w.source w.binary = some argv ∨ c.runCommand language (w.artifact language) = argv)
  | _ => True

/-- The workplace of a run: its directory was made, and its files have the token that was drawn. -/
structure Workplace.OfRun (w : Workplace) (language : Language) (acts : List Act) : Prop where
  made : .createDirs w.dir (.ok ()) ∈ acts
  drawn : ∃ token, .token token ∈ acts ∧ w = .ofToken w.dir token language

/-- A run that starts processes uses the files of a workplace, and no others. -/
structure Workplace.Serves (w : Workplace) (c : SandboxConfig) (language : Language) (code : String) (acts : List Act) :
    Prop extends w.OfRun language acts where
  named : ∀ dir, c.workDir = some dir → w.dir = dir
  written : .write w.source code (.ok ()) ∈ acts
  removed : ∀ file ∈ w.files language, .remove file ∈ acts
  keeps : ∀ act ∈ acts, act.KeepsTo c language w

variable {σ : Type} {c : SandboxConfig} {language : Language} {code dir token : String} {w : Workplace}
  {acts front : List Act} {argv : List String} {seconds : Option Nat} {ending : Ending} {r : ExecutionResult}

theorem Lodges.eq_of_named (h : Lodges c dir front) {named : String} (hnamed : c.workDir = some named) :
    dir = named := by
  cases h with
  | named hdir => exact Option.some.inj (hdir.symm.trans hnamed)
  | given hnone => cases hnone.symm.trans hnamed

theorem Lodges.keeps (h : Lodges c dir front) (w : Workplace) : ∀ act ∈ front, act.KeepsTo c language w := by
  cases h <;> simp [Act.KeepsTo]

theorem Works.keeps (h : Works c language code w acts r) : ∀ act ∈ acts, act.KeepsTo c language w := by
  cases h with
  | unwritten fault => simp [Act.KeepsTo, Workplace.files]
  | interpreted ending hnone =>
    simp [Act.KeepsTo, Workplace.files, Workplace.artifact, isCompiled_of_no_command hnone]
  | uncompiled hsome hr => simp [Act.KeepsTo, Workplace.files, hsome, isCompiled_of_command hsome]
  | compiled ending hsome hmade =>
    simp [Act.KeepsTo, Workplace.files, Workplace.artifact, hsome, isCompiled_of_command hsome]

theorem Works.keeps_around (h : Works c language code (.ofToken dir token language) acts r)
    (hlodges : Lodges c dir front) (start stop : Nat) :
    ∀ act ∈ .clock start :: (front ++ ((.createDirs dir (.ok ()) :: .token token :: acts) ++ [.clock stop])),
      act.KeepsTo c language (.ofToken dir token language) := by
  simp only [List.mem_cons, List.mem_append, List.not_mem_nil, or_false]
  rintro act (rfl | hfront | ((rfl | rfl | hacts) | rfl))
  · trivial
  · exact hlodges.keeps _ act hfront
  · trivial
  · trivial
  · exact h.keeps act hacts
  · trivial

theorem Works.around_command (h : Works c language code w acts r) (hcommand : .command argv dir seconds ending ∈ acts) :
    .write w.source code (.ok ()) ∈ acts ∧ ∀ file ∈ w.files language, .remove file ∈ acts := by
  cases h with
  | unwritten fault => simp at hcommand
  | interpreted ending hnone => simp [Workplace.files, isCompiled_of_no_command hnone]
  | uncompiled hsome hr => simp [Workplace.files, isCompiled_of_command hsome]
  | compiled ending hsome hmade => simp [Workplace.files, isCompiled_of_command hsome]

theorem Itinerary.serves (h : Itinerary c language code acts r) (hcommand : .command argv dir seconds ending ∈ acts) :
    ∃ w : Workplace, w.Serves c language code acts := by
  obtain @⟨home, front, _, _, start, stop, hlodges, hsettles⟩ := h
  cases hsettles with
  | homeless fault => cases hlodges <;> simp at hcommand
  | @housed token inner _ hworks =>
    have hinner : .command argv dir seconds ending ∈ inner := by cases hlodges <;> simpa using hcommand
    obtain ⟨hwritten, hremoved⟩ := hworks.around_command hinner
    refine ⟨.ofToken home token language, ⟨?_, token, by simp, rfl⟩, ?_, by simp [hwritten], ?_, ?_⟩
    · simp [Workplace.ofToken]
    · exact fun _ ↦ hlodges.eq_of_named
    · intro file hfile
      simp [hremoved file hfile]
    · exact hworks.keeps_around hlodges start stop

theorem plain_stem (htoken : '/' ∉ token.toList) (ending : String) (hending : '/' ∉ ending.toList) :
    Plain (programName ++ "-" ++ token ++ ending) := by
  have hlist : (programName ++ "-" ++ token ++ ending).toList =
      'm' :: ("ender-".toList ++ token.toList ++ ending.toList) := by
    simp [programName]
  refine ⟨?_, ?_, ?_, ?_⟩
  · rw [hlist]
    simp [htoken, hending]
  · rw [hlist]
    exact List.cons_ne_nil _ _
  · intro hname
    rw [hname] at hlist
    cases hlist
  · intro hname
    rw [hname] at hlist
    cases hlist

theorem exists_plain (htoken : '/' ∉ token.toList) {file : String}
    (hfile : file ∈ [(Workplace.ofToken dir token language).source, (Workplace.ofToken dir token language).binary]) :
    ∃ name, Plain name ∧ file = Files.Path.join dir name := by
  simp only [List.mem_cons, List.not_mem_nil, or_false] at hfile
  rcases hfile with rfl | rfl
  · have hextension : '/' ∉ ("." ++ language.fileExtension).toList := by cases language <;> decide
    refine ⟨_, plain_stem htoken ("." ++ language.fileExtension) hextension, ?_⟩
    rw [← String.append_assoc]
    rfl
  · refine ⟨_, plain_stem htoken "" (by decide), ?_⟩
    rw [String.append_empty]
    rfl

/-- A command finds the files of its run exactly when the work directory, looked up in itself, is that directory: always
when it is absolute, never when it is relative and without dots. The last holds because a tree has no symbolic links;
the others do not depend on that. -/
theorem command_reaches_files (host : Host (StateM σ)) (c : SandboxConfig) (language : Language) (code : String) (s : σ)
    {argv : List String} {dir : String} {seconds : Option Nat} {ending : Ending}
    (hcommand : .command argv dir seconds ending ∈ host.acts c language code s)
    (htoken : ∀ token, .token token ∈ host.acts c language code s → '/' ∉ token.toList) :
    ∃ w : Workplace, w.Serves c language code (host.acts c language code s) ∧
      ∀ (t : Tree) (here inner : Place), t.locate here w.dir = .ok inner →
        (∀ file ∈ [w.source, w.binary], ∀ place, t.locate here file = .ok place →
          (t.locate inner file = .ok place ↔ t.locate inner w.dir = .ok inner)) ∧
        (isAbsolute w.dir = true → t.locate inner w.dir = .ok inner) ∧
        (isAbsolute w.dir = false → (∀ name ∈ Files.Path.names w.dir, name ≠ "." ∧ name ≠ "..") →
          t.locate inner w.dir ≠ .ok inner) := by
  obtain ⟨w, hserves⟩ := (run_itinerary host c language code s).1.serves hcommand
  refine ⟨w, hserves, ?_⟩
  intro t here inner hdir
  refine ⟨?_, ?_, ?_⟩
  · intro file hfile place hplace
    obtain ⟨token, hmem, hw⟩ := hserves.drawn
    rw [hw] at hfile
    obtain ⟨name, hname, rfl⟩ := exists_plain (htoken token hmem) hfile
    exact Tree.locate_join hname hdir hplace inner
  · intro habsolute
    exact Tree.locate_absolute habsolute hdir inner
  · exact Tree.locate_relative

/-- A source written to a relative work directory is not found by the interpreter that is started there. -/
theorem command_reaches_files_astray :
    let host := Host.ofPaths "/tmp" "7f" fun _ ↦ (.exited (some 0) [] [], [])
    let acts := host.acts { SandboxConfig.default with workDir := some "work" } .python "" []
    let t : Tree :=
      ⟨[(["home"], .directory), (["home", "work"], .directory), (["home", "work", "mender-7f.py"], .file [] false)]⟩
    .command ["python3", "work/mender-7f.py"] "work" (some 3) (.exited (some 0) [] []) ∈ acts ∧
      (∀ token, .token token ∈ acts → '/' ∉ token.toList) ∧
      .write "work/mender-7f.py" "" (.ok ()) ∈ acts ∧
      t.locate ["home"] "work" = .ok ["home", "work"] ∧
      t.locate ["home"] "work/mender-7f.py" = .ok ["home", "work", "mender-7f.py"] ∧
      t.locate ["home", "work"] "work/mender-7f.py" ≠ .ok ["home", "work", "mender-7f.py"] := by
  intro host acts t
  have hacts : acts =
      [.clock 0, .createDirs "work" (.ok ()), .token "7f", .write "work/mender-7f.py" "" (.ok ()),
        .command ["python3", "work/mender-7f.py"] "work" (some 3) (.exited (some 0) [] []),
        .remove "work/mender-7f.py", .clock 0] := by rfl
  have hcommand : .command ["python3", "work/mender-7f.py"] "work" (some 3) (.exited (some 0) [] []) ∈ acts := by
    simp [hacts]
  have htoken : ∀ token, .token token ∈ acts → '/' ∉ token.toList := by
    intro token hmem
    have heq : token = "7f" := by simpa [hacts] using hmem
    rw [heq]
    decide
  have hdir : t.locate ["home"] "work" = .ok ["home", "work"] := by rfl
  have hplace : t.locate ["home"] "work/mender-7f.py" = .ok ["home", "work", "mender-7f.py"] := by rfl
  refine ⟨hcommand, htoken, by simp [hacts], hdir, hplace, ?_⟩
  obtain ⟨w, hserves, hreaches⟩ := command_reaches_files host _ _ _ _ hcommand htoken
  have hw : w.dir = "work" := hserves.named "work" rfl
  have hwritten : .write w.source "" (.ok ()) ∈ acts := hserves.written
  have hsource : w.source = "work/mender-7f.py" := by simpa [hacts] using hwritten
  obtain ⟨hfiles, -, hrelative⟩ := hreaches t ["home"] ["home", "work"] (by rw [hw]; exact hdir)
  rw [← hsource] at hplace ⊢
  rw [Ne, hfiles w.source (by simp) _ hplace]
  apply hrelative
  · rw [hw]
    rfl
  · rw [hw]
    decide

end CodeRepair
