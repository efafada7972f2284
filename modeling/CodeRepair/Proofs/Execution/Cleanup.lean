import CodeRepair.Proofs.Execution.Addressing
import Mathlib.Data.Set.Insert

/-!
What a run leaves behind. Seen as the set of the paths that exist, the file system has none of the files of a run after
it, and it has everything else that was there before, unless a process that the run started removed it.
-/
namespace CodeRepair

/-- What an act does to the paths that exist. A command may do anything. -/
def Act.Effect (before after : Set String) : Act → Prop
  | .tempDir _ | .token _ | .clock _ => after = before
  | .createDirs _ _ => before ⊆ after
  | .write path _ _ => ∀ p ≠ path, p ∈ after ↔ p ∈ before
  | .remove path => after = before \ {path}
  | .command _ _ _ _ => True

/-- All that a host does has its effect on the paths that exist. In particular, to remove a file is to be rid of it.
Nothing acts between two acts of a run: no process that a command started outlives the command. -/
def Host.Lawful {σ : Type} (host : Host (StateM σ)) (present : σ → Set String) : Prop :=
  ∀ (act : Act) (s s' : σ), act.DoneBy host s s' → act.Effect (present s) (present s')

def Act.IsCommand : Act → Prop
  | .command _ _ _ _ => True
  | _ => False

def Act.MayMake (p : String) : Act → Prop
  | .createDirs _ _ | .command _ _ _ _ => True
  | .write path _ _ => path = p
  | _ => False

def Act.MayRemove (p : String) : Act → Prop
  | .write path _ _ | .remove path => path = p
  | .command _ _ _ _ => True
  | _ => False

/-- Where a token is drawn, no file has the name yet that the token gives to the binary. -/
def Fresh {σ : Type} (language : Language) (present : σ → Set String) (deeds : List (Deed σ)) : Prop :=
  ∀ d ∈ deeds, ∀ token, d.act = .token token →
    ∀ w : Workplace, w.OfRun language (deeds.map Deed.act) → w.binary ∉ present d.before

variable {σ : Type} {host : Host (StateM σ)} {present : σ → Set String} {c : SandboxConfig} {language : Language}
  {code dir token p file : String} {w : Workplace} {act : Act} {acts front pre post : List Act} {r : ExecutionResult}
  {s s' : σ} {d : Deed σ} {deeds : List (Deed σ)}

section Steps

theorem Act.Effect.mayMake {before after : Set String} (h : act.Effect before after) (hbefore : p ∉ before)
    (hafter : p ∈ after) : act.MayMake p := by
  cases act with
  | tempDir | token | clock => exact absurd (Eq.subset h hafter) hbefore
  | createDirs | command => trivial
  | write path content answer =>
    by_contra hother
    exact hbefore ((h p (Ne.symm hother)).1 hafter)
  | remove path => exact absurd (Eq.subset h hafter).1 hbefore

theorem Act.Effect.mayRemove {before after : Set String} (h : act.Effect before after) (hbefore : p ∈ before)
    (hafter : p ∉ after) : act.MayRemove p := by
  cases act with
  | tempDir | token | clock => exact absurd (Eq.superset h hbefore) hafter
  | createDirs dir answer => exact absurd (h hbefore) hafter
  | write path content answer =>
    by_contra hother
    exact hafter ((h p (Ne.symm hother)).2 hbefore)
  | remove path =>
    by_contra hother
    exact hafter (Eq.superset h ⟨hbefore, Ne.symm hother⟩)
  | command => trivial

/-- What holds of one world and not of a later one was ended by some deed between them. -/
theorem Performed.changes {Q : σ → Prop} (h : Performed host s deeds s') (hs : Q s) (hs' : ¬ Q s') :
    ∃ d ∈ deeds, d.act.DoneBy host d.before d.after ∧ Q d.before ∧ ¬ Q d.after := by
  induction h with
  | nil => exact absurd hs hs'
  | @cons s middle s' act deeds hdone hrest ih =>
    by_cases hmiddle : Q middle
    · obtain ⟨d, hmem, hd⟩ := ih hmiddle hs'
      exact ⟨d, List.mem_cons_of_mem _ hmem, hd⟩
    · exact ⟨_, List.mem_cons_self, hdone, hs, hmiddle⟩

theorem Performed.cut (h : Performed host s deeds s') (hacts : deeds.map Deed.act = pre ++ act :: post) :
    ∃ d ∈ deeds, ∃ rest, d.act = act ∧ d.act.DoneBy host d.before d.after ∧ Performed host d.before (d :: rest) s' ∧
      Performed host d.after rest s' ∧ rest.map Deed.act = post ∧ ∀ d ∈ rest, d ∈ deeds := by
  obtain ⟨first, last, rfl, -, hlast⟩ := List.map_eq_append_iff.1 hacts
  obtain ⟨d, rest, rfl, hact, hrest⟩ := List.map_eq_cons_iff.1 hlast
  obtain ⟨middle, -, hperformed⟩ := h.of_append
  refine ⟨d, by simp, rest, hact, ?_⟩
  cases hperformed with
  | cons hdone htail =>
    exact ⟨hdone, .cons hdone htail, htail, hrest, fun d hd ↦ by simp [hd]⟩

theorem Performed.exists_mayMake (h : Performed host s deeds s') (hlawful : host.Lawful present)
    (hbefore : p ∉ present s) (hafter : p ∈ present s') :
    ∃ d ∈ deeds, d.act.MayMake p ∧ p ∉ present d.before ∧ p ∈ present d.after := by
  obtain ⟨d, hmem, hdone, hd, hd'⟩ := h.changes (Q := fun s ↦ p ∉ present s) hbefore (not_not.2 hafter)
  exact ⟨d, hmem, (hlawful _ _ _ hdone).mayMake hd (not_not.1 hd'), hd, not_not.1 hd'⟩

theorem Performed.exists_mayRemove (h : Performed host s deeds s') (hlawful : host.Lawful present)
    (hbefore : p ∈ present s) (hafter : p ∉ present s') :
    ∃ d ∈ deeds, d.act.MayRemove p ∧ p ∈ present d.before ∧ p ∉ present d.after := by
  obtain ⟨d, hmem, hdone, hd, hd'⟩ := h.changes (Q := fun s ↦ p ∈ present s) hbefore hafter
  exact ⟨d, hmem, (hlawful _ _ _ hdone).mayRemove hd hd', hd, hd'⟩

theorem Performed.removed (h : Performed host s deeds s') (hlawful : host.Lawful present)
    (hacts : deeds.map Deed.act = pre ++ .remove p :: post) (hpost : ∀ act ∈ post, ¬ act.MayMake p) :
    p ∉ present s' := by
  obtain ⟨d, -, rest, hact, hdone, -, hrest, rfl, -⟩ := h.cut hacts
  have heffect := hlawful _ _ _ hdone
  rw [hact] at heffect
  have hgone : p ∉ present d.after := by
    rw [show present d.after = present d.before \ {p} from heffect]
    simp
  intro hpresent
  obtain ⟨d', hmem, hmakes, -⟩ := hrest.exists_mayMake hlawful hgone hpresent
  exact hpost _ (List.mem_map_of_mem hmem) hmakes

end Steps

section Files

open Files.Path (join isAbsolute)

theorem join_injective {a b : String} (ha : isAbsolute a = false) (hb : isAbsolute b = false)
    (h : join dir a = join dir b) : a = b := by
  simp only [join, ha, hb, Bool.false_eq_true, false_or] at h
  split_ifs at h
  · exact h
  all_goals exact String.toList_inj.1 (by simpa using congrArg String.toList h)

theorem source_ne_binary (dir token : String) (language : Language) :
    (Workplace.ofToken dir token language).source ≠ (Workplace.ofToken dir token language).binary := by
  intro h
  have hstem (ending : String) : isAbsolute (programName ++ "-" ++ token ++ ending) = false := by
    simp [isAbsolute, programName]
  have hsame := join_injective (hstem ("." ++ language.fileExtension)) (hstem "")
    (by simpa [Workplace.ofToken, String.append_assoc] using h)
  simp [← String.toList_inj] at hsame

end Files

section Runs

theorem Works.no_directory (h : Works c language code w acts r) (answer : Except Files.Fault Unit) :
    .createDirs dir answer ∉ acts := by
  cases h <;> simp

theorem Works.no_token (h : Works c language code w acts r) : .token token ∉ acts := by
  cases h <;> simp

theorem Works.mayMake (h : Works c language code w acts r) (hmem : act ∈ acts) (hmakes : act.MayMake p) :
    act.IsCommand ∨ p = w.source := by
  cases act with
  | command argv dir seconds ending => exact .inl trivial
  | createDirs dir answer => exact absurd hmem (h.no_directory answer)
  | write path content answer => exact .inr (hmakes.symm.trans (h.keeps _ hmem))
  | _ => cases hmakes

theorem removals_split (first : List Act) (hfile : file ∈ w.files language) :
    ∃ pre post, first ++ removals language w = pre ++ .remove file :: post ∧ ∀ act ∈ post, ¬ act.MayMake file := by
  obtain ⟨before, after, hfiles⟩ := List.append_of_mem hfile
  refine ⟨first ++ before.map .remove, after.map .remove, by simp [removals, hfiles], ?_⟩
  intro act hact
  obtain ⟨other, -, rfl⟩ := List.mem_map.1 hact
  exact id

theorem Works.ends_with_removals (h : Works c language code w acts r) :
    (∃ first, acts = first ++ removals language w) ∨
      ∃ fault, acts = [.write w.source code (.error fault), .remove w.source] := by
  cases h with
  | unwritten fault => exact .inr ⟨fault, rfl⟩
  | interpreted ending hnone =>
    rw [removals, Workplace.files, isCompiled_of_no_command hnone]
    exact .inl ⟨[_, _], rfl⟩
  | uncompiled hsome hr =>
    rw [removals, Workplace.files, isCompiled_of_command hsome]
    exact .inl ⟨[_, _], rfl⟩
  | compiled ending hsome hmade =>
    rw [removals, Workplace.files, isCompiled_of_command hsome]
    exact .inl ⟨[_, _, _], rfl⟩

/-- A file is removed in the end. Only the binary of a program whose source could not be written is not. -/
theorem Works.ends (h : Works c language code w acts r) (hfile : file ∈ w.files language) :
    (∃ pre post, acts = pre ++ .remove file :: post ∧ ∀ act ∈ post, ¬ act.MayMake file) ∨
      (file = w.binary ∧ ∀ act ∈ acts, ¬ act.IsCommand) := by
  rcases h.ends_with_removals with ⟨first, rfl⟩ | ⟨fault, rfl⟩
  · exact .inl (removals_split first hfile)
  · rcases List.mem_cons.1 hfile with rfl | hbinary
    · exact .inl ⟨[_], [], rfl, by simp⟩
    · refine .inr ⟨?_, by simp [Act.IsCommand]⟩
      split at hbinary
      · exact List.mem_singleton.1 hbinary
      · cases hbinary

theorem Itinerary.housed (h : Itinerary c language code acts r) (hw : w.OfRun language acts) :
    ∃ (first : List Act) (token : String) (inner : List Act) (r' : ExecutionResult) (stop : Nat),
      acts = first ++ .token token :: (inner ++ [.clock stop]) ∧ w = .ofToken w.dir token language ∧
        Works c language code w inner r' ∧ ∀ act ∈ first, ¬ act.IsCommand := by
  obtain @⟨home, front, _, result, start, stop, hlodges, hsettles⟩ := h
  obtain ⟨token', hdrawn, hw'⟩ := hw.drawn
  cases hsettles with
  | homeless fault => cases hlodges <;> simp at hdrawn
  | @housed token inner _ hworks =>
    have htoken : token' = token := by cases hlodges <;> simpa [hworks.no_token] using hdrawn
    have hdir : w.dir = home := by cases hlodges <;> simpa [hworks.no_directory] using hw.made
    rw [htoken, hdir] at hw'
    refine ⟨.clock start :: (front ++ [.createDirs home (.ok ())]), token, inner, result, stop, by simp, ?_, ?_, ?_⟩
    · rw [hdir]
      exact hw'
    · rw [hw']
      exact hworks
    · cases hlodges <;> simp [Act.IsCommand]

theorem Itinerary.mayRemove (h : Itinerary c language code acts r) (hmem : act ∈ acts) (hremoves : act.MayRemove p) :
    act.IsCommand ∨ ∃ w : Workplace, w.OfRun language acts ∧ p ∈ w.files language := by
  obtain @⟨home, front, _, _, start, stop, hlodges, hsettles⟩ := h
  cases hsettles with
  | homeless fault =>
    have hquiet : ∀ act ∈ .clock start :: (front ++ ([.createDirs home (.error fault)] ++ [.clock stop])),
        ¬ act.MayRemove p := by
      cases hlodges <;> simp [Act.MayRemove]
    exact absurd hremoves (hquiet act hmem)
  | @housed token inner _ hworks =>
    have hkeeps := hworks.keeps_around hlodges start stop act hmem
    refine or_iff_not_imp_left.2 fun hother ↦ ⟨.ofToken home token language, ⟨?_, token, by simp, rfl⟩, ?_⟩
    · simp [Workplace.ofToken]
    · cases act with
      | command argv dir seconds ending => exact absurd trivial hother
      | write path content answer =>
        rw [← show path = p from hremoves, show path = _ from hkeeps]
        exact List.mem_cons_self
      | remove path =>
        rw [← show path = p from hremoves]
        exact hkeeps
      | _ => cases hremoves

variable (hlawful : host.Lawful present) (h : Performed host s deeds s')
  (hitinerary : Itinerary c language code (deeds.map Deed.act) r)

include hlawful h hitinerary

theorem binary_made_by_command (hfresh : Fresh language present deeds)
    (hw : w.OfRun language (deeds.map Deed.act)) (hbinary : w.binary ∈ present s') :
    ∃ d ∈ deeds, d.act.IsCommand ∧ w.binary ∉ present d.before ∧ w.binary ∈ present d.after := by
  obtain ⟨first, token, inner, r', stop, hacts, hw', hworks, -⟩ := hitinerary.housed hw
  obtain ⟨d, hmem, rest, hact, -, hperformed, -, hrest, hsub⟩ := h.cut hacts
  have habsent : w.binary ∉ present d.before := hfresh d hmem token hact w hw
  obtain ⟨d', hmem', hmakes, hbefore, hafter⟩ := hperformed.exists_mayMake hlawful habsent hbinary
  have hlater : d'.act ∈ .token token :: (inner ++ [.clock stop]) := by
    rw [← hact, ← hrest, ← List.map_cons]
    exact List.mem_map_of_mem hmem'
  have hdeed : d' ∈ deeds := by
    rcases List.mem_cons.1 hmem' with rfl | hmem'
    · exact hmem
    · exact hsub d' hmem'
  have hinner : d'.act ∈ inner := by
    simp only [List.mem_cons, List.mem_append, List.not_mem_nil, or_false] at hlater
    rcases hlater with htoken | hinner | hclock
    · rw [htoken] at hmakes
      cases hmakes
    · exact hinner
    · rw [hclock] at hmakes
      cases hmakes
  rcases hworks.mayMake hinner hmakes with hcommand | hsource
  · exact ⟨d', hdeed, hcommand, hbefore, hafter⟩
  · rw [hw'] at hsource
    exact absurd hsource.symm (source_ne_binary w.dir token language)

theorem files_gone (hfresh : Fresh language present deeds) (hw : w.OfRun language (deeds.map Deed.act))
    (hfile : file ∈ w.files language) : file ∉ present s' := by
  obtain ⟨first, token, inner, r', stop, hacts, hw', hworks, hquiet⟩ := hitinerary.housed hw
  rcases hworks.ends hfile with ⟨pre, post, rfl, hpost⟩ | ⟨rfl, hidle⟩
  · have hcut : deeds.map Deed.act = (first ++ .token token :: pre) ++ .remove file :: (post ++ [.clock stop]) := by
      rw [hacts]
      simp
    apply h.removed hlawful hcut
    intro act hact
    rcases List.mem_append.1 hact with hact | hact
    · exact hpost act hact
    · rw [List.mem_singleton.1 hact]
      exact id
  · intro hbinary
    obtain ⟨d, hmem, hcommand, -⟩ := binary_made_by_command hlawful h hitinerary hfresh hw hbinary
    have hact := List.mem_map_of_mem (f := Deed.act) hmem
    rw [hacts] at hact
    simp only [List.mem_append, List.mem_cons, List.not_mem_nil, or_false] at hact
    rcases hact with hfirst | htoken | hinner | hclock
    · exact hquiet _ hfirst hcommand
    · rw [htoken] at hcommand
      cases hcommand
    · exact hidle _ hinner hcommand
    · rw [hclock] at hcommand
      cases hcommand

theorem others_kept (hp : p ∈ present s)
    (hother : ∀ w : Workplace, w.OfRun language (deeds.map Deed.act) → p ∉ w.files language)
    (hcommands : ∀ d ∈ deeds, d.act.IsCommand → p ∈ present d.before → p ∈ present d.after) : p ∈ present s' := by
  by_contra hgone
  obtain ⟨d, hmem, hremoves, hbefore, hafter⟩ := h.exists_mayRemove hlawful hp hgone
  rcases hitinerary.mayRemove (List.mem_map_of_mem hmem) hremoves with hcommand | ⟨w, hw, hfile⟩
  · exact hafter (hcommands d hmem hcommand hbefore)
  · exact hother w hw hfile

end Runs

/-- However its steps and its processes end, a run leaves none of its own files, and of what was there before it removes
nothing else. The name of the binary stays unused also where nothing is compiled, unless the program itself used it. -/
theorem run_leaves_nothing (host : Host (StateM σ)) (present : σ → Set String) (c : SandboxConfig) (language : Language)
    (code : String) (s : σ) (hlawful : host.Lawful present)
    (hfresh : Fresh language present (host.record c language code s)) :
    (∀ w : Workplace, w.OfRun language (host.acts c language code s) →
      (∀ file ∈ w.files language, file ∉ present (host.run c language code s).2) ∧
      (w.binary ∈ present (host.run c language code s).2 → ∃ d ∈ host.record c language code s,
        d.act.IsCommand ∧ w.binary ∉ present d.before ∧ w.binary ∈ present d.after)) ∧
    ∀ p ∈ present s,
      (∀ w : Workplace, w.OfRun language (host.acts c language code s) → p ∉ w.files language) →
      (∀ d ∈ host.record c language code s, d.act.IsCommand → p ∈ present d.before → p ∈ present d.after) →
      p ∈ present (host.run c language code s).2 := by
  obtain ⟨hitinerary, hperformed⟩ := run_itinerary host c language code s
  refine ⟨?_, ?_⟩
  · intro w hw
    refine ⟨?_, binary_made_by_command hlawful hperformed hitinerary hfresh hw⟩
    intro file hfile
    exact files_gone hlawful hperformed hitinerary hfresh hw hfile
  · intro p hp hother hcommands
    exact others_kept hlawful hperformed hitinerary hp hother hcommands

theorem ofPaths_lawful (tempDir token : String) (command : List String → Ending × List String) :
    (Host.ofPaths tempDir token command).Lawful fun paths ↦ {p | p ∈ paths} := by
  intro act s s' hdone
  cases act with
  | tempDir | token | clock => cases hdone; rfl
  | createDirs dir answer =>
    cases hdone
    exact fun p hp ↦ List.mem_cons_of_mem _ hp
  | write path content answer =>
    cases hdone
    exact fun p hp ↦ ⟨fun hmem ↦ (List.mem_cons.1 hmem).resolve_left hp, List.mem_cons_of_mem _⟩
  | remove path =>
    cases hdone
    ext p
    simp
  | command => trivial

/-- A compiler that takes too long after it made its output. -/
theorem run_leaves_nothing_of_slow_compiler :
    let host := Host.ofPaths "/tmp" "7f" fun _ ↦ (.timedOut, ["/tmp/mender-7f"])
    let left := (host.run .default .cpp "int main() {}" ["/tmp", "/tmp/notes"]).2
    "/tmp/mender-7f.cpp" ∉ left ∧ "/tmp/mender-7f" ∉ left ∧ "/tmp/notes" ∈ left := by
  intro host left
  let present (paths : List String) : Set String := {p | p ∈ paths}
  let start := ["/tmp", "/tmp/notes"]
  let made := "/tmp" :: start
  let written := "/tmp/mender-7f.cpp" :: made
  let deeds := host.record .default .cpp "int main() {}" start
  have hdeeds : deeds =
      [⟨.clock 0, start, start⟩, ⟨.tempDir "/tmp", start, start⟩, ⟨.createDirs "/tmp" (.ok ()), start, made⟩,
        ⟨.token "7f", made, made⟩, ⟨.write "/tmp/mender-7f.cpp" "int main() {}" (.ok ()), made, written⟩,
        ⟨.command ["g++", "/tmp/mender-7f.cpp", "-o", "/tmp/mender-7f"] "/tmp" (some 10) .timedOut, written,
          "/tmp/mender-7f" :: written⟩,
        ⟨.remove "/tmp/mender-7f.cpp", "/tmp/mender-7f" :: written, "/tmp/mender-7f" :: made⟩,
        ⟨.remove "/tmp/mender-7f", "/tmp/mender-7f" :: made, made⟩, ⟨.clock 0, made, made⟩] := by rfl
  have hw : (Workplace.ofToken "/tmp" "7f" .cpp).OfRun .cpp (deeds.map Deed.act) := by
    rw [hdeeds]
    exact ⟨by simp [Workplace.ofToken], "7f", by simp, rfl⟩
  have hunique : ∀ w : Workplace, w.OfRun .cpp (deeds.map Deed.act) → w = .ofToken "/tmp" "7f" .cpp := by
    rw [hdeeds]
    rintro w ⟨hmade, token, hdrawn, hw⟩
    have hdir : w.dir = "/tmp" := by simpa using hmade
    have htoken : token = "7f" := by simpa using hdrawn
    rw [hw, hdir, htoken]
  have hdraw : ∀ d ∈ deeds, ∀ token, d.act = .token token → d.before = made := by simp [hdeeds]
  have hfresh : Fresh .cpp present deeds := by
    intro d hd token htoken w hw
    rw [hunique w hw, hdraw d hd token htoken]
    exact show "/tmp/mender-7f" ∉ made by decide
  have hlawful : host.Lawful present := ofPaths_lawful _ _ _
  obtain ⟨hfiles, hothers⟩ := run_leaves_nothing host present .default .cpp "int main() {}" start hlawful hfresh
  have hgone := (hfiles _ hw).1
  refine ⟨hgone "/tmp/mender-7f.cpp" (by decide), hgone "/tmp/mender-7f" (by decide), ?_⟩
  refine hothers "/tmp/notes" (by simp [present, start]) ?_ ?_
  · intro w hw
    rw [hunique w hw]
    decide
  · change ∀ d ∈ deeds, d.act.IsCommand → _
    simp [hdeeds, Act.IsCommand, present, written, made, start]

end CodeRepair
