import CodeRepair.Proofs.Service.Calls
import Mathlib.Data.Prod.Lex

/-!
Batch jobs come to their end. While no job of its session is forgotten, the job whose move a batch job waits for moves
at last; each such move uses up an attempt of the session, or brings the line or the attempt under way on.
-/
namespace CodeRepair

/-- What a job in some phase waits for. -/
def Phase.Awaits (job : Nat) : Phase → Action → Prop
  | .between _, action | .waiting _, action => action = .proceed job
  | .running .., action => ∃ result, action = .ran job result
  | .askingPrimary _, action | .askingFallback .., action => ∃ answer, action = .answered job answer
  | .answered _, _ => False

/-- How many moves there may be from a phase to the end of an attempt. -/
def Phase.distance : Phase → Nat
  | .waiting _ => 3
  | .running .. => 2
  | .askingPrimary _ => 1
  | _ => 0

theorem Phase.distance_le (phase : Phase) : phase.distance ≤ 3 := by
  cases phase <;> simp [distance]

def Session.room (x : Session) : Nat := x.maxAttempts - x.attempts.length

namespace Course

variable {s : Settings} {now : Time.Stamp} {x y : Course}

theorem Step.maxAttempts (hs : Course.Step s now x y) : y.session.maxAttempts = x.session.maxAttempts := by
  cases hs with
  | giveUp _ hr _ => rw [Session.finish_of_running _ _ hr]
  | land => exact Session.extend_maxAttempts _ _ _ _
  | _ => rfl

theorem Step.room (hx : x.Sound s) (hs : Course.Step s now x y) :
    y.session.room ≤ x.session.room ∧ (x.flight ≠ none → y.flight = none → y.session.room < x.session.room) := by
  have hmax := hs.maxAttempts
  unfold Session.room
  rw [hmax]
  cases hs with
  | giveUp hf hr _ =>
    rw [Session.finish_of_running _ _ hr]
    exact ⟨Nat.le_refl _, fun hne ↦ absurd hf hne⟩
  | @land f since result fix hf _ =>
    obtain ⟨hrun, -⟩ := hx.flight f hf
    have hlt := (hx.session.unfinished (.inl hrun)).1
    rw [Session.extend_attempts, List.length_append, List.length_singleton]
    exact ⟨by omega, fun _ _ ↦ by omega⟩
  | stay => exact ⟨Nat.le_refl _, fun hne hf ↦ absurd hf hne⟩
  | cancel => exact ⟨Nat.le_refl _, fun hne hf ↦ absurd hf hne⟩
  | enter hf => exact ⟨Nat.le_refl _, fun hne ↦ absurd hf hne⟩
  | askPrimary | askFallback => exact ⟨Nat.le_refl _, fun _ hf ↦ by cases hf⟩

end Course

namespace Machine

variable {s : Settings} {m m' : Machine} {now : Time.Stamp} {place job j a b : Nat} {h h' : Handle} {x y : Course}
  {mode : Mode} {phase phase' : Phase} {r : Registry} {calls : List (Option Nat × Call)} {action : Action}
  {σ : Nat → Time.Stamp × Action}

def after (s : Settings) (m : Machine) (σ : Nat → Time.Stamp × Action) : Nat → Machine
  | 0 => m
  | n + 1 => (after s m σ n).step s (σ n).1 (σ n).2

/-- No job that works on the session at a place is forgotten: whatever happens, there comes a time when it gets what it
waits for, unless it has left the session. Nothing is asked for the jobs of other sessions. -/
def Fair (s : Settings) (m : Machine) (place : Nat) (σ : Nat → Time.Stamp × Action) : Prop :=
  ∀ job n, ∃ k, n ≤ k ∧ ∀ phase, (m.after s σ k).phase? job = some phase → phase.place? = some place →
    phase.Awaits job (σ k).2

/-- The job whose move brings a batch job on: itself between attempts, and else the first in line. The numbers bound
the moves to come, the first by attempts and the second by the line. -/
inductive Due (m : Machine) (job : Nat) (h : Handle) : Nat → Nat → Nat → Prop
  | itself {place : Nat} : m.phase? job = some (.between place) → Due m job h job (2 * h.session.room + 1) 0
  | inLine {j : Nat} {phase : Phase} : job ∈ h.turns → h.turns.head? = some j → m.phase? j = some phase →
      Due m job h j (2 * h.session.room) (4 * h.turns.idxOf job + phase.distance)

theorem Traces.due_of_mem (ht : m.Traces place h x) (hmem : job ∈ h.turns) :
    ∃ (j : Nat) (phase : Phase), Due m job h j (2 * h.session.room) (4 * h.turns.idxOf job + phase.distance) := by
  obtain ⟨j, hhead⟩ : ∃ j, h.turns.head? = some j := by
    cases hturns : h.turns with
    | nil => rw [hturns] at hmem; cases hmem
    | cons j rest => exact ⟨j, rfl⟩
  have hj := (ht.line.mem_iff j).1 (List.mem_of_head? hhead)
  obtain ⟨phase, hphase, -⟩ := Option.bind_eq_some_iff.1 hj
  exact ⟨j, _, .inLine hmem hhead hphase⟩

theorem Traces.exists_due (ht : m.Traces place h x) (hd : m.Drives place job) :
    ∃ j a b, Due m job h j a b ∧ a ≤ 2 * h.session.room + 1 := by
  obtain ⟨phase, hj, hplace⟩ := hd
  have hphase := phase?_of_job hj
  have inLine (hturn : phase.turn? = some place) : ∃ j a b, Due m job h j a b ∧ a ≤ 2 * h.session.room + 1 := by
    obtain ⟨j, phase', hdue⟩ := ht.due_of_mem ((ht.line.mem_iff job).2 (by rw [hphase]; exact hturn))
    exact ⟨j, _, _, hdue, by omega⟩
  cases phase with
  | between => exact ⟨job, _, _, .itself hphase, Nat.le_refl _⟩
  | answered => cases hplace
  | _ => exact inLine hplace

theorem Progress.distance (hp : Progress s m now job action mode phase phase' r calls)
    (hturn : phase.turn? = some place) (hturn' : phase'.turn? = some place) : phase'.distance < phase.distance := by
  cases hp with
  | entered | askedPrimary | askedFallback => simp [Phase.distance]
  | queued => cases hturn
  | concluded | settled => rw [turn?_recordedPhase] at hturn'; cases hturn'
  | _ => cases hturn'

theorem Phase.Awaits.not_idle_of_turn (ht : m.Traces place h x) (hhead : h.turns.head? = some j)
    (hj : m.phase? j = some phase) (hturn : phase.turn? = some place) (hi : m.Idle action) :
    ¬ phase.Awaits j action := by
  intro haw
  cases phase with
  | waiting q =>
    cases hturn
    obtain rfl : action = .proceed j := haw
    exact hi.2 place h hj ht.handle hhead
  | running purpose language code =>
    obtain ⟨result, rfl⟩ := haw
    exact hi purpose language code hj
  | askingPrimary f =>
    obtain ⟨answer, rfl⟩ := haw
    exact hi.1 f hj
  | askingFallback f problem =>
    obtain ⟨answer, rfl⟩ := haw
    exact hi.2 f problem hj
  | _ => cases hturn

/-- The bounds have gone down: the first of them, or the second while the first stays. -/
def Nearer (m : Machine) (job : Nat) (h : Handle) (a b : Nat) : Prop :=
  ∃ j' a' b', Due m job h j' a' b' ∧ (a' < a ∨ a' = a ∧ b' < b)

structure WaitsOn (m m' : Machine) (action : Action) (job : Nat) (h' : Handle) (j a b : Nat) : Prop where
  due : Due m' job h' j a b
  missed : ∀ phase, m.phase? j = some phase → ¬ phase.Awaits j action

theorem Phase.Awaits.job? (haw : phase.Awaits j action) : action.job? = some j := by
  cases phase with
  | between | waiting =>
    obtain rfl : action = .proceed j := haw
    rfl
  | running =>
    obtain ⟨result, rfl⟩ := haw
    rfl
  | askingPrimary | askingFallback =>
    obtain ⟨answer, rfl⟩ := haw
    rfl
  | answered => exact haw.elim

section Shifting

variable {turns turns' : List Nat} {flight : Option Flight}

theorem Shifts.stays (hshift : Shifts turns turns' flight) (hn : turns.Nodup) (hhead : turns.head? = some j)
    (hstays : j ∈ turns') (hmem : job ∈ turns) :
    turns'.head? = some j ∧ job ∈ turns' ∧ turns'.idxOf job = turns.idxOf job := by
  rcases hshift with rfl | ⟨new, rfl⟩ | ⟨-, rfl⟩
  · exact ⟨hhead, hmem, rfl⟩
  · refine ⟨?_, List.mem_append_left _ hmem, List.idxOf_append_of_mem hmem⟩
    cases turns with
    | nil => cases hhead
    | cons => exact hhead
  · cases turns with
    | nil => cases hhead
    | cons k rest =>
      cases hhead
      exact absurd hstays (List.nodup_cons.1 hn).1

theorem Shifts.leaves (hshift : Shifts turns turns' flight) (hhead : turns.head? = some j) (hleft : j ∉ turns') :
    flight = none ∧ turns' = turns.tail := by
  have hmem : j ∈ turns := List.mem_of_head? hhead
  rcases hshift with rfl | ⟨new, rfl⟩ | ⟨hnone, rfl⟩
  · exact absurd hmem hleft
  · exact absurd (List.mem_append_left _ hmem) hleft
  · exact ⟨hnone, rfl⟩

theorem idxOf_tail (hhead : turns.head? = some j) (hne : j ≠ job) (hmem : job ∈ turns) :
    job ∈ turns.tail ∧ turns.idxOf job = turns.tail.idxOf job + 1 := by
  cases turns with
  | nil => cases hhead
  | cons k rest =>
    cases hhead
    exact ⟨(List.mem_cons.1 hmem).resolve_left (Ne.symm hne), List.idxOf_cons_ne _ hne⟩

end Shifting

theorem stays_inLine (hj : m.phase? job = some (.waiting place)) (hd' : (m.step s now action).Drives place job) :
    ((m.step s now action).phase? job).bind Phase.turn? = some place := by
  obtain ⟨mode, hjob⟩ := phase?_eq_some.1 hj
  obtain ⟨phase, hjob'', hplace⟩ := hd'
  rcases job_step hjob s now action with ⟨-, hjob'⟩ | ⟨phase', r, calls, hp, hjob', -⟩
  · rw [phase?_of_job hjob']
    rfl
  · rw [hjob'] at hjob''; cases hjob''
    rw [phase?_of_job hjob']
    cases hp with
    | ended => cases hplace
    | entered => rfl
    | debugged hsettles | settled hsettles => cases hsettles

section Moves

variable (ht : m.Traces place h x) (hx : x.Sound s) (ht' : (m.step s now action).Traces place h' y)
  (hs : Course.Step s now x y)
include ht hx ht' hs

theorem room_le : h'.session.room ≤ h.session.room := by
  rw [ht.session, ht'.session]
  exact (hs.room hx).1

variable (hd' : (m.step s now action).Drives place job)
include hd'

theorem due_itself (hj : m.phase? job = some (.between place)) :
    Nearer (m.step s now action) job h' (2 * h.session.room + 1) 0 ∨
      WaitsOn m (m.step s now action) action job h' job (2 * h.session.room + 1) 0 := by
  have hroom := room_le ht hx ht' hs
  obtain ⟨mode, hjob⟩ := phase?_eq_some.1 hj
  rcases job_step hjob s now action with ⟨hidle, hjob'⟩ | ⟨phase', r, calls, hp, hjob', -⟩
  · have hdue := Due.itself (h := h') (phase?_of_job hjob')
    by_cases hsame : h'.session.room = h.session.room
    · refine .inr ⟨hsame ▸ hdue, fun phase hphase haw ↦ ?_⟩
      rw [hj] at hphase; cases hphase
      obtain rfl : action = .proceed job := haw
      have hnone := (hidle rfl).1 place hj
      rw [ht.handle] at hnone; cases hnone
    · exact .inl ⟨_, _, _, hdue, .inl (by omega)⟩
  · obtain ⟨phase, hjob'', hplace⟩ := hd'
    rw [hjob'] at hjob''; cases hjob''
    cases hp with
    | summedUp => cases hplace
    | queued =>
      have hmem : job ∈ h'.turns := (ht'.line.mem_iff job).2 (by rw [phase?_of_job hjob']; rfl)
      obtain ⟨j, phase', hdue⟩ := ht'.due_of_mem hmem
      exact .inl ⟨j, _, _, hdue, .inl (by omega)⟩
    | debugged hsettles => cases hsettles
    | settled hsettles => cases hsettles

theorem due_left (hmem : job ∈ h.turns) (hhead : h.turns.head? = some j) (hj : m.phase? j = some phase)
    (hshift : Shifts h.turns h'.turns y.flight) (hleft : j ∉ h'.turns) :
    Nearer (m.step s now action) job h' (2 * h.session.room) (4 * h.turns.idxOf job + phase.distance) := by
  have hroom := room_le ht hx ht' hs
  obtain ⟨hlanded, htail⟩ := hshift.leaves hhead hleft
  by_cases hflight : x.flight = none
  · have hturn : (some phase).bind Phase.turn? = some place :=
      hj ▸ (ht.line.mem_iff j).1 (List.mem_of_head? hhead)
    have hwaits : phase = .waiting place := by
      have hnot : phase.underWay? ≠ some place := fun hu ↦ by
        obtain ⟨f, hf, -⟩ := ht.flight_of_underWay hj hu
        rw [hflight] at hf; cases hf
      cases phase with
      | waiting q => exact congrArg Phase.waiting (Option.some.inj hturn)
      | between | answered => cases hturn
      | _ => exact absurd hturn hnot
    have hne : j ≠ job := by
      rintro rfl
      exact hleft ((ht'.line.mem_iff j).2 (stays_inLine (hwaits ▸ hj) hd'))
    obtain ⟨hmem', hidx⟩ := idxOf_tail hhead hne hmem
    obtain ⟨j', phase', hdue⟩ := ht'.due_of_mem (htail ▸ hmem')
    have hdistance := phase'.distance_le
    have hfar : phase.distance = 3 := by rw [hwaits]; rfl
    rw [htail] at hdue
    by_cases hsame : h'.session.room = h.session.room
    · exact ⟨j', _, _, hdue, .inr ⟨by omega, by omega⟩⟩
    · exact ⟨j', _, _, hdue, .inl (by omega)⟩
  · have hlt : h'.session.room < h.session.room := by
      rw [ht.session, ht'.session]
      exact (hs.room hx).2 hflight hlanded
    obtain ⟨j', a', b', hdue, hle⟩ := ht'.exists_due hd'
    exact ⟨j', a', b', hdue, .inl (by omega)⟩

theorem due_inLine (hmem : job ∈ h.turns) (hhead : h.turns.head? = some j) (hj : m.phase? j = some phase)
    (hshift : Shifts h.turns h'.turns y.flight) :
    Nearer (m.step s now action) job h' (2 * h.session.room) (4 * h.turns.idxOf job + phase.distance) ∨
      WaitsOn m (m.step s now action) action job h' j (2 * h.session.room)
        (4 * h.turns.idxOf job + phase.distance) := by
  have hroom := room_le ht hx ht' hs
  have hturn : phase.turn? = some place := by
    have hline := (ht.line.mem_iff j).1 (List.mem_of_head? hhead)
    rw [hj] at hline
    exact hline
  obtain ⟨mode, hjob⟩ := phase?_eq_some.1 hj
  rcases job_step hjob s now action with ⟨hidle, hjob'⟩ | ⟨phase', r, calls, hp, hjob', -⟩
  · have hj' := phase?_of_job hjob'
    have hstays : j ∈ h'.turns := (ht'.line.mem_iff j).2 (by rw [hj']; exact hturn)
    obtain ⟨hhead', hmem', hidx⟩ := hshift.stays ht.line.nodup hhead hstays hmem
    have hdue := Due.inLine (h := h') hmem' hhead' hj'
    rw [hidx] at hdue
    by_cases hsame : h'.session.room = h.session.room
    · refine .inr ⟨hsame ▸ hdue, fun phase₁ hphase haw ↦ ?_⟩
      rw [hj] at hphase; cases hphase
      exact Phase.Awaits.not_idle_of_turn ht hhead hj hturn (hidle (Phase.Awaits.job? haw)) haw
    · exact .inl ⟨_, _, _, hdue, .inl (by omega)⟩
  · have hj' := phase?_of_job hjob'
    by_cases hturn' : phase'.turn? = some place
    · have hstays : j ∈ h'.turns := (ht'.line.mem_iff j).2 (by rw [hj']; exact hturn')
      obtain ⟨hhead', hmem', hidx⟩ := hshift.stays ht.line.nodup hhead hstays hmem
      have hdue := Due.inLine (h := h') hmem' hhead' hj'
      have hnearer := hp.distance hturn hturn'
      by_cases hsame : h'.session.room = h.session.room
      · exact .inl ⟨_, _, _, hdue, .inr ⟨by omega, by omega⟩⟩
      · exact .inl ⟨_, _, _, hdue, .inl (by omega)⟩
    · have hleft : j ∉ h'.turns := fun hin ↦ by
        have hline := (ht'.line.mem_iff j).1 hin
        rw [hj'] at hline
        exact hturn' hline
      exact .inl (due_left ht hx ht' hs hd' hmem hhead hj hshift hleft)

end Moves

structure Driving (s : Settings) (m : Machine) (place job : Nat) (h : Handle) (x : Course) : Prop
    extends m.Traces place h x where
  sound : x.Sound s
  drives : m.Drives place job

theorem Driving.due_at_place (hdr : Driving s m place job h x) (hdue : Due m job h j a b) :
    ∃ phase, m.phase? j = some phase ∧ phase.place? = some place := by
  cases hdue with
  | itself hj =>
    obtain ⟨phase, hjob, hplace⟩ := hdr.drives
    exact ⟨phase, phase?_of_job hjob, hplace⟩
  | inLine hmem hhead hj =>
    have hturn := (hdr.line.mem_iff j).1 (List.mem_of_head? hhead)
    rw [hj] at hturn
    exact ⟨_, hj, Phase.place?_of_turn? hturn⟩

theorem Driving.step (hdr : Driving s m place job h x) (hdue : Due m job h j a b) (now : Time.Stamp)
    (action : Action) :
    (∃ x', (m.step s now action).SummedUp job x') ∨
      ∃ h' y, Driving s (m.step s now action) place job h' y ∧
        (Nearer (m.step s now action) job h' a b ∨ WaitsOn m (m.step s now action) action job h' j a b) := by
  obtain ⟨h', y, ht', hs, hshift⟩ := hdr.toTraces.step hdr.sound now action
  rcases drives_step hdr.handle hdr.drives ht'.handle with hd' | hover
  · refine .inr ⟨h', y, ⟨ht', Course.sound_step hdr.sound hs, hd'⟩, ?_⟩
    cases hdue with
    | @itself q hj =>
      have hq : q = place := by
        obtain ⟨phase, hjob, hplace⟩ := hdr.drives
        rw [phase?_of_job hjob] at hj; cases hj
        exact Option.some.inj hplace
      subst hq
      exact due_itself hdr.toTraces hdr.sound ht' hs hd' hj
    | inLine hmem hhead hj => exact due_inLine hdr.toTraces hdr.sound ht' hs hd' hmem hhead hj hshift
  · exact .inl ⟨_, hover⟩

/-- A batch job that is under way is answered in the end, by induction on the bounds of the moves to come. -/
theorem Driving.ends {n : Nat} (hf : Fair s m place σ) (hdr : Driving s (m.after s σ n) place job h x)
    (hdue : Due (m.after s σ n) job h j a b) : ∃ k x', (m.after s σ k).SummedUp job x' := by
  -- the room left comes first, since a new attempt may find a longer line than the last one
  induction a using Nat.strong_induction_on generalizing n h x j b with
  | _ a iha =>
    induction b using Nat.strong_induction_on generalizing n h x j with
    | _ b ihb =>
      have nearer {i h' y} (hdr' : Driving s (m.after s σ i) place job h' y)
          (hn : Nearer (m.after s σ i) job h' a b) : ∃ k x', (m.after s σ k).SummedUp job x' := by
        obtain ⟨j', a', b', hdue', ha | ⟨rfl, hb⟩⟩ := hn
        · exact iha a' ha hdr' hdue'
        · exact ihb b' hb hdr' hdue'
      have waits (i : Nat) (hi : n ≤ i) : (∃ k x', (m.after s σ k).SummedUp job x') ∨
          ∃ h' y, Driving s (m.after s σ i) place job h' y ∧ Due (m.after s σ i) job h' j a b := by
        induction i, hi using Nat.le_induction with
        | base => exact .inr ⟨h, x, hdr, hdue⟩
        | succ i _ ih =>
          rcases ih with hended | ⟨h', y, hdr', hdue'⟩
          · exact .inl hended
          · rcases hdr'.step hdue' (σ i).1 (σ i).2 with ⟨x', hover⟩ | ⟨h'', z, hdr'', hnearer | hwaits⟩
            · exact .inl ⟨i + 1, x', hover⟩
            · exact .inl (nearer (i := i + 1) hdr'' hnearer)
            · exact .inr ⟨h'', z, hdr'', hwaits.due⟩
      obtain ⟨k, hk, hserved⟩ := hf j n
      rcases waits k hk with hended | ⟨h', y, hdr', hdue'⟩
      · exact hended
      · obtain ⟨phase, hphase, hplace⟩ := hdr'.due_at_place hdue'
        rcases hdr'.step hdue' (σ k).1 (σ k).2 with ⟨x', hover⟩ | ⟨h'', z, hdr'', hnearer | hwaits⟩
        · exact ⟨k + 1, x', hover⟩
        · exact nearer (i := k + 1) hdr'' hnearer
        · exact absurd (hserved phase hphase hplace) (hwaits.missed phase hphase)

end Machine

end CodeRepair
