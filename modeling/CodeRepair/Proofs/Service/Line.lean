import CodeRepair.Service.Machine

/-!
The line of jobs at a session. The first in it may have an attempt under way, the others wait; so it is whatever job
moves, because a job joins at the end and leaves from the front.
-/
namespace CodeRepair

namespace Purpose

@[simp] theorem place?_execute : execute.place? = none := rfl

@[simp] theorem place?_debug : debug.place? = none := rfl

@[simp] theorem place?_attempt (place index max : Nat) (since : Time.Stamp) :
    (attempt place index max since).place? = some place := rfl

end Purpose

namespace Phase

def underWay? : Phase → Option Nat
  | .running purpose .. => purpose.place?
  | .askingPrimary f => f.purpose.place?
  | .askingFallback f _ => f.purpose.place?
  | _ => none

def turn? : Phase → Option Nat
  | .waiting place => some place
  | phase => phase.underWay?

def place? : Phase → Option Nat
  | .between place => some place
  | phase => phase.turn?

def summary? : Phase → Option Summary
  | .answered (.ok (.summary sum)) => some sum
  | _ => none

section Constructors

variable (place : Nat) (purpose : Purpose) (language : Language) (code : String) (f : Failure) (problem : String)
  (answer : Answer)

@[simp] theorem turn?_between : (between place).turn? = none := rfl

@[simp] theorem turn?_waiting : (waiting place).turn? = some place := rfl

@[simp] theorem turn?_running : (running purpose language code).turn? = purpose.place? := rfl

@[simp] theorem turn?_askingPrimary : (askingPrimary f).turn? = f.purpose.place? := rfl

@[simp] theorem turn?_askingFallback : (askingFallback f problem).turn? = f.purpose.place? := rfl

@[simp] theorem turn?_answered : (answered answer).turn? = none := rfl

@[simp] theorem place?_between : (between place).place? = some place := rfl

@[simp] theorem place?_running : (running purpose language code).place? = purpose.place? := rfl

@[simp] theorem place?_askingPrimary : (askingPrimary f).place? = f.purpose.place? := rfl

@[simp] theorem place?_askingFallback : (askingFallback f problem).place? = f.purpose.place? := rfl

@[simp] theorem place?_answered : (answered answer).place? = none := rfl

end Constructors

theorem turn?_of_underWay? {phase : Phase} {place : Nat} (h : phase.underWay? = some place) :
    phase.turn? = some place := by
  cases phase <;> first | exact h | cases h

theorem place?_of_turn? {phase : Phase} {place : Nat} (h : phase.turn? = some place) :
    phase.place? = some place := by
  cases phase <;> first | exact h | cases h

theorem summary?_eq_some {phase : Phase} {sum : Summary} :
    phase.summary? = some sum ↔ phase = .answered (.ok (.summary sum)) := by
  constructor
  · intro h
    unfold summary? at h
    split at h
    · cases h
      rfl
    · cases h
  · rintro rfl
    rfl

end Phase

/-- The order in a line: nobody has an attempt under way, or the first has, and its phase is known. -/
inductive InOrder (phases : Nat → Option Phase) (place : Nat) : Option Phase → List Nat → Prop
  | free {turns : List Nat} : (∀ j ∈ turns, phases j = some (.waiting place)) → InOrder phases place none turns
  | taken {j : Nat} {rest : List Nat} {phase : Phase} : phases j = some phase → phase.underWay? = some place →
      (∀ k ∈ rest, phases k = some (.waiting place)) → InOrder phases place (some phase) (j :: rest)

/-- The jobs in line at a place are those whose phase says so, each once and in order. -/
structure Line (phases : Nat → Option Phase) (place : Nat) (front : Option Phase) (turns : List Nat) : Prop where
  nodup : turns.Nodup
  mem_iff : ∀ j, j ∈ turns ↔ (phases j).bind Phase.turn? = some place
  order : InOrder phases place front turns

namespace Line

variable {phases phases' : Nat → Option Phase} {place job : Nat} {front : Option Phase} {turns : List Nat}
  {phase phase' : Phase}

theorem empty (h : ∀ j, (phases j).bind Phase.turn? ≠ some place) : Line phases place none [] where
  nodup := .nil
  mem_iff j := by simp [h j]
  order := .free (by simp)

theorem front_of_underWay (hl : Line phases place front turns) (hj : phases job = some phase)
    (hu : phase.underWay? = some place) : front = some phase ∧ turns.head? = some job := by
  have hmem : job ∈ turns := (hl.mem_iff job).2 (by rw [hj]; exact Phase.turn?_of_underWay? hu)
  have hnot : phases job ≠ some (.waiting place) := fun hw ↦ by
    rw [hw] at hj; cases hj; cases hu
  cases hl.order with
  | free hw => exact absurd (hw job hmem) hnot
  | taken hk _ hw =>
    rcases List.mem_cons.1 hmem with rfl | hmem
    · rw [hk] at hj; cases hj; exact ⟨rfl, rfl⟩
    · exact absurd (hw job hmem) hnot

theorem front_of_waiting (hl : Line phases place front turns) (hh : turns.head? = some job)
    (hj : phases job = some (.waiting place)) : front = none := by
  cases hl.order with
  | free => rfl
  | taken hk hu _ =>
    cases hh
    rw [hk] at hj; cases hj; cases hu

theorem front_eq_none_iff (hl : Line phases place front turns) :
    front = none ↔ ∀ j phase, phases j = some phase → phase.underWay? ≠ some place := by
  constructor
  · rintro rfl j phase hj hu
    cases (hl.front_of_underWay hj hu).1
  · intro hn
    cases hl.order with
    | free => rfl
    | taken hk hu _ => exact absurd hu (hn _ _ hk)

theorem tail_waits (hl : Line phases place front turns) (hother : ∀ j, j ≠ job → phases' j = phases j)
    (hh : turns.head? = some job) :
    ∃ rest, turns = job :: rest ∧ job ∉ rest ∧ ∀ k ∈ rest, phases' k = some (.waiting place) := by
  cases turns with
  | nil => cases hh
  | cons k rest =>
    cases hh
    have hnot : job ∉ rest := (List.nodup_cons.1 hl.nodup).1
    refine ⟨rest, rfl, hnot, fun k hk ↦ ?_⟩
    rw [hother k fun he ↦ hnot (he ▸ hk)]
    cases hl.order with
    | free hw => exact hw k (by simp [hk])
    | taken _ _ hw => exact hw k hk

section Moved

variable (hl : Line phases place front turns) (hjob : phases' job = some phase')
  (hother : ∀ j, j ≠ job → phases' j = phases j)
include hl hjob hother

/-- A job that is not in line before or after it moves changes nothing in it. -/
theorem pass (hout : (phases job).bind Phase.turn? ≠ some place) (hout' : phase'.turn? ≠ some place) :
    Line phases' place front turns := by
  have hnot : job ∉ turns := fun hmem ↦ hout ((hl.mem_iff job).1 hmem)
  have hsame (j : Nat) (hj : j ∈ turns) : phases' j = phases j := hother j fun he ↦ hnot (he ▸ hj)
  refine ⟨hl.nodup, fun j ↦ ?_, ?_⟩
  · by_cases he : j = job
    · subst he; simp [hjob, hout', hnot]
    · rw [hother j he]; exact hl.mem_iff j
  · cases hl.order with
    | free hw => exact .free fun j hj ↦ (hsame j hj).trans (hw j hj)
    | taken hk hu hw =>
      exact .taken ((hsame _ (by simp)).trans hk) hu fun k hk' ↦ (hsame k (by simp [hk'])).trans (hw k hk')

theorem join (hout : (phases job).bind Phase.turn? ≠ some place) (hw : phase' = .waiting place) :
    Line phases' place front (turns ++ [job]) := by
  subst hw
  have hnot : job ∉ turns := fun hmem ↦ hout ((hl.mem_iff job).1 hmem)
  have hsame (j : Nat) (hj : j ∈ turns) : phases' j = phases j := hother j fun he ↦ hnot (he ▸ hj)
  refine ⟨?_, fun j ↦ ?_, ?_⟩
  · exact List.nodup_append.2 ⟨hl.nodup, by simp, by rintro a ha b hb rfl; simp at hb; exact hnot (hb ▸ ha)⟩
  · by_cases he : j = job
    · subst he; simp [hjob, Phase.turn?]
    · rw [hother j he, List.mem_append, List.mem_singleton]
      simp [he, hl.mem_iff j]
  · cases hl.order with
    | free hw =>
      refine .free fun j hj ↦ ?_
      rcases List.mem_append.1 hj with hj | hj
      · exact (hsame j hj).trans (hw j hj)
      · rw [List.mem_singleton.1 hj, hjob]
    | @taken k rest _ hk hu hw =>
      have hk' : phases' k = some _ := (hsame k (by simp)).trans hk
      rw [List.cons_append]
      refine .taken hk' hu fun j hj ↦ ?_
      rcases List.mem_append.1 hj with hj | hj
      · exact (hsame j (by simp [hj])).trans (hw j hj)
      · rw [List.mem_singleton.1 hj, hjob]

theorem lead (hh : turns.head? = some job) (hu : phase'.underWay? = some place) :
    Line phases' place (some phase') turns := by
  have hmem : job ∈ turns := List.mem_of_head? hh
  obtain ⟨rest, rfl, -, hw⟩ := tail_waits hl hother hh
  refine ⟨hl.nodup, fun j ↦ ?_, .taken hjob hu hw⟩
  by_cases he : j = job
  · subst he; simp [hjob, Phase.turn?_of_underWay? hu]
  · rw [hother j he]; exact hl.mem_iff j

theorem leave (hh : turns.head? = some job) (hout' : phase'.turn? ≠ some place) :
    Line phases' place none (turns.erase job) := by
  obtain ⟨rest, rfl, hnot, hw⟩ := tail_waits hl hother hh
  rw [List.erase_cons_head]
  refine ⟨(List.nodup_cons.1 hl.nodup).2, fun j ↦ ?_, .free hw⟩
  by_cases he : j = job
  · subst he; simp [hjob, hnot, hout']
  · rw [hother j he, ← hl.mem_iff j]
    simp [he]

end Moved

end Line

end CodeRepair
