import CodeRepair.Execution.Run

/-!
Runs on record. A host whose operations change a world is made to note each operation with its answer and with the
world before and after it; the notes change nothing about a run, and they follow one another from the first world to
the last.
-/
namespace CodeRepair

/-- Something that a run asks of the system, with the answer. -/
inductive Act
  | tempDir (dir : String)
  | token (token : String)
  | clock (ms : Nat)
  | createDirs (dir : String) (answer : Except Files.Fault Unit)
  | write (path content : String) (answer : Except Files.Fault Unit)
  | remove (path : String)
  | command (argv : List String) (dir : String) (seconds : Option Nat) (ending : Ending)

/-- An act, with the world before and after it. -/
structure Deed (σ : Type) where
  act : Act
  before : σ
  after : σ

variable {σ α β : Type}

/-- What a host does when it is asked for an act: the answer is its own, and so is the world that it leaves. -/
def Act.DoneBy (host : Host (StateM σ)) (s s' : σ) : Act → Prop
  | .tempDir dir => host.tempDir s = (dir, s')
  | .token text => host.token s = (text, s')
  | .clock ms => host.clock s = (ms, s')
  | .createDirs dir answer => host.createDirs dir s = (answer, s')
  | .write path content answer => host.write path content s = (answer, s')
  | .remove path => host.remove path s = ((), s')
  | .command argv dir seconds ending => host.command argv dir seconds s = (ending, s')

inductive Performed (host : Host (StateM σ)) : σ → List (Deed σ) → σ → Prop
  | nil (s : σ) : Performed host s [] s
  | cons {s s' s'' : σ} {act : Act} {deeds : List (Deed σ)} :
      act.DoneBy host s s' → Performed host s' deeds s'' → Performed host s (⟨act, s, s'⟩ :: deeds) s''

variable {host : Host (StateM σ)} {s s' s'' : σ} {deeds deeds' : List (Deed σ)} {a : α}

theorem Performed.append (h : Performed host s deeds s') (h' : Performed host s' deeds' s'') :
    Performed host s (deeds ++ deeds') s'' := by
  induction h with
  | nil => exact h'
  | cons hact _ ih => exact .cons hact (ih h')

theorem Performed.of_append (h : Performed host s (deeds ++ deeds') s'') :
    ∃ s', Performed host s deeds s' ∧ Performed host s' deeds' s'' := by
  induction deeds generalizing s with
  | nil => exact ⟨s, .nil s, h⟩
  | cons d deeds ih =>
    cases h with
    | cons hact hrest =>
      obtain ⟨s', hdeeds, hdeeds'⟩ := ih hrest
      exact ⟨s', .cons hact hdeeds, hdeeds'⟩

namespace Host

def noting (op : StateM σ α) (act : α → Act) : StateM (σ × List (Deed σ)) α := fun (s, deeds) ↦
  let (answer, s') := op s
  (answer, s', deeds ++ [⟨act answer, s, s'⟩])

/-- The host that notes what is asked of it. -/
def recording (host : Host (StateM σ)) : Host (StateM (σ × List (Deed σ))) where
  tempDir := noting host.tempDir .tempDir
  token := noting host.token .token
  clock := noting host.clock .clock
  createDirs dir := noting (host.createDirs dir) (.createDirs dir)
  write path content := noting (host.write path content) (.write path content)
  remove path := noting (host.remove path) fun _ ↦ .remove path
  command argv dir seconds := noting (host.command argv dir seconds) (.command argv dir seconds)

/-- A host whose world is the paths that exist. Its files take everything, and a command makes what it is told to make
and ends as it is told to end. -/
def ofPaths (tempDir token : String) (command : List String → Ending × List String) : Host (StateM (List String)) where
  tempDir := pure tempDir
  token := pure token
  clock := pure 0
  createDirs dir := fun paths ↦ (.ok (), dir :: paths)
  write path _ := fun paths ↦ (.ok (), path :: paths)
  remove path := fun paths ↦ ((), paths.filter (· ≠ path))
  command argv _ _ := fun paths ↦ ((command argv).1, (command argv).2 ++ paths)

def record (host : Host (StateM σ)) (c : SandboxConfig) (language : Language) (code : String) (s : σ) : List (Deed σ) :=
  (host.recording.run c language code (s, [])).2.2

def acts (host : Host (StateM σ)) (c : SandboxConfig) (language : Language) (code : String) (s : σ) : List Act :=
  (host.record c language code s).map Deed.act

end Host

/-- A computation on record goes as the one without a record, and what it asks for and gives satisfies `P`. -/
def Goes (host : Host (StateM σ)) (x : StateM (σ × List (Deed σ)) α) (y : StateM σ α) (P : List Act → α → Prop) :
    Prop :=
  ∀ s, ∃ deeds a s', (∀ earlier, x (s, earlier) = (a, s', earlier ++ deeds)) ∧ y s = (a, s') ∧
    Performed host s deeds s' ∧ P (deeds.map Deed.act) a

namespace Goes

variable {x : StateM (σ × List (Deed σ)) α} {y : StateM σ α} {f : α → StateM (σ × List (Deed σ)) β}
  {g : α → StateM σ β} {P : List Act → α → Prop} {Q : List Act → β → Prop}

theorem pure (h : P [] a) : Goes host (Pure.pure a) (Pure.pure a) P := by
  intro s
  refine ⟨[], a, s, ?_, rfl, .nil s, h⟩
  intro earlier
  rw [List.append_nil]
  rfl

theorem bind (hx : Goes host x y P)
    (hf : ∀ acts a, P acts a → Goes host (f a) (g a) fun acts' b ↦ Q (acts ++ acts') b) :
    Goes host (x >>= f) (y >>= g) Q := by
  intro s
  obtain ⟨deeds, a, s', hrecorded, hplain, hperformed, hP⟩ := hx s
  obtain ⟨deeds', b, s'', hrecorded', hplain', hperformed', hQ⟩ := hf _ a hP s'
  refine ⟨deeds ++ deeds', b, s'', ?_, ?_, hperformed.append hperformed', ?_⟩
  · intro earlier
    have hthen : (x >>= f) (s, earlier) = f (x (s, earlier)).1 (x (s, earlier)).2 := rfl
    rw [hthen, hrecorded, hrecorded', List.append_assoc]
  · have hthen : (y >>= g) s = g (y s).1 (y s).2 := rfl
    rw [hthen, hplain, hplain']
  · rw [List.map_append]
    exact hQ

theorem noting {op : StateM σ α} (act : α → Act) (h : ∀ s, (act (op s).1).DoneBy host s (op s).2) :
    Goes host (Host.noting op act) op fun acts a ↦ acts = [act a] := by
  intro s
  exact ⟨[⟨act (op s).1, s, (op s).2⟩], (op s).1, (op s).2, fun _ ↦ rfl, rfl, .cons (h s) (.nil _), rfl⟩

theorem ask {op : StateM σ α} (act : α → Act) (h : ∀ s, (act (op s).1).DoneBy host s (op s).2)
    (hf : ∀ a, Goes host (f a) (g a) fun acts b ↦ Q (act a :: acts) b) :
    Goes host (Host.noting op act >>= f) (op >>= g) Q := by
  apply (noting act h).bind
  rintro acts a rfl
  exact hf a

theorem mono {P' : List Act → α → Prop} (hx : Goes host x y P) (h : ∀ acts a, P acts a → P' acts a) :
    Goes host x y P' := by
  intro s
  obtain ⟨deeds, a, s', hrecorded, hplain, hperformed, hP⟩ := hx s
  exact ⟨deeds, a, s', hrecorded, hplain, hperformed, h _ _ hP⟩

end Goes

end CodeRepair
