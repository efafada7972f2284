import CodeRepair.Proofs.Session.Log

/-!
What the state of a session says about its log: how many attempts there are, which of them failed, and which have a
fix.
-/
namespace CodeRepair.Session

variable {policy : NoFixPolicy} {x : Session}

/-- The state of a session tells the truth about its log and its token. -/
structure Truthful (policy : NoFixPolicy) (tokenCancelled : Bool) (x : Session) : Prop where
  succeeded_iff : x.state = .succeeded ↔ ∃ a, x.attempts.getLast? = some a ∧ a.succeeded = true
  earlier : ∀ a ∈ x.attempts.dropLast,
    a.succeeded = false ∧ ∃ fix, a.fix = some fix ∧ (policy = .abort → fix.isUsable = true)
  exhausted : x.state = .exhausted →
    x.attempts.length = x.maxAttempts ∧ (∀ a ∈ x.attempts, a.succeeded = false) ∧
      ∃ a, x.attempts.getLast? = some a ∧ a.fix = none
  aborted : x.state = .aborted →
    policy = .abort ∧ x.attempts.length < x.maxAttempts ∧
      ∃ a fix, x.attempts.getLast? = some a ∧ a.succeeded = false ∧ a.fix = some fix ∧
        fix.provenance = .none ∧ fix.isUsable = false
  unfinished : x.state = .running ∨ x.state = .cancelled →
    x.attempts.length < x.maxAttempts ∧ ∀ a ∈ x.attempts, a.succeeded = false ∧ a.fix.isSome = true
  cancelled : x.state = .cancelled → tokenCancelled = true
  finished : x.finishedAt.isSome = true ↔ x.state ≠ .running

namespace Sound

theorem last_decides (h : x.Sound policy) (hr : x.state ≠ .running) (hc : x.state ≠ .cancelled) :
    ∃ init a, x.attempts = init ++ [a] ∧ a.outcome policy = some x.state := by
  cases hd : x.decision policy with
  | none => exact absurd (h.undecided hd) (by simp [hr, hc])
  | some st =>
    rcases decision_cases policy x with ⟨-, hn⟩ | ⟨init, a, hx, ha⟩
    · rw [hn] at hd; cases hd
    · exact ⟨init, a, hx, by rw [← ha, hd, h.decided st hd]⟩

theorem succeeded_iff (h : x.Sound policy) :
    x.state = .succeeded ↔ ∃ a, x.attempts.getLast? = some a ∧ a.succeeded = true := by
  constructor
  · intro hs
    obtain ⟨init, a, hx, ho⟩ := h.last_decides (by simp [hs]) (by simp [hs])
    exact ⟨a, by simp [hx], Attempt.outcome_eq_succeeded_iff.1 (hs ▸ ho)⟩
  · rintro ⟨a, ha, hs⟩
    apply h.decided
    simpa [decision, ha] using Attempt.outcome_eq_succeeded_iff.2 hs

theorem exhausted (h : x.Sound policy) (hs : x.state = .exhausted) :
    x.attempts.length = x.maxAttempts ∧ (∀ a ∈ x.attempts, a.succeeded = false) ∧
      ∃ a, x.attempts.getLast? = some a ∧ a.fix = none := by
  obtain ⟨init, a, hx, ho⟩ := h.last_decides (by simp [hs]) (by simp [hs])
  have hlast : x.attempts.getLast? = some a := by simp [hx]
  have hmem : a ∈ x.attempts := by simp [hx]
  have hf := Attempt.outcome_eq_exhausted_iff.1 (hs ▸ ho)
  refine ⟨?_, fun b hb ↦ ?_, a, hlast, hf.2⟩
  · have hfix := (h.faithful a hmem).fix
    have hindex := h.log.last_index hlast
    have hle := h.log.length_le
    have : ¬ a.index < x.maxAttempts := fun hlt ↦ by
      have := hfix.2 ⟨hf.1, hlt⟩
      rw [hf.2] at this; cases this
    omega
  · rw [hx, List.mem_append, List.mem_singleton] at hb
    rcases hb with hb | rfl
    · exact (Attempt.outcome_eq_none_iff.1 (h.earlier b (by rw [hx, List.dropLast_concat]; exact hb))).1
    · exact hf.1

theorem aborted (h : x.Sound policy) (hs : x.state = .aborted) :
    policy = .abort ∧ x.attempts.length < x.maxAttempts ∧
      ∃ a fix, x.attempts.getLast? = some a ∧ a.succeeded = false ∧ a.fix = some fix ∧
        fix.provenance = .none ∧ fix.isUsable = false := by
  obtain ⟨init, a, hx, ho⟩ := h.last_decides (by simp [hs]) (by simp [hs])
  have hlast : x.attempts.getLast? = some a := by simp [hx]
  have hfaith := h.faithful a (by simp [hx])
  obtain ⟨hf, hp, fix, hfix, hu⟩ := Attempt.outcome_eq_aborted_iff.1 (hs ▸ ho)
  have hlt := (hfaith.fix.1 (by rw [hfix]; rfl)).2
  have hindex := h.log.last_index hlast
  exact ⟨hp, by omega, a, fix, hlast, hf, hfix, hfaith.unusable fix hfix hu, hu⟩

theorem unfinished (h : x.Sound policy) (hs : x.state = .running ∨ x.state = .cancelled) :
    x.attempts.length < x.maxAttempts ∧ ∀ a ∈ x.attempts, a.succeeded = false ∧ a.fix.isSome = true := by
  have hd := h.undecided_iff.2 hs
  refine ⟨h.length_lt hd, fun a ha ↦ ?_⟩
  obtain ⟨hf, fix, hfix, -⟩ := Attempt.outcome_eq_none_iff.1 (h.all_lead_on hd ha)
  exact ⟨hf, by rw [hfix]; rfl⟩

theorem truthful {tokenCancelled : Bool} (h : x.Sound policy) (hc : x.state = .cancelled → tokenCancelled = true) :
    x.Truthful policy tokenCancelled where
  succeeded_iff := h.succeeded_iff
  earlier a ha := Attempt.outcome_eq_none_iff.1 (h.earlier a ha)
  exhausted := h.exhausted
  aborted := h.aborted
  unfinished := h.unfinished
  cancelled := hc
  finished := h.finished

end Sound

end CodeRepair.Session
