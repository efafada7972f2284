import CodeRepair.Fix.Pipeline

/-!
What the pipeline lets through. A fix that comes out of it either names its provider and holds code that is not blank
and that the gate passes, or has no provider and no code.
-/
namespace CodeRepair

/-- Code that may be run: it is not blank, and the gate passes it. -/
def SafetyGate.Admits (gate : SafetyGate) (code : String) : Prop :=
  Text.blank code = false ∧ (gate.check code).safe = true

namespace Fix

/-- A fix as the pipeline makes it. -/
structure Vetted (gate : SafetyGate) (f : Fix) : Prop where
  admitted : f.isUsable = true → gate.Admits f.fixedCode
  absent : f.isUsable = false → f.provenance = .none

theorem vetted_absent (gate : SafetyGate) (explanation : String) : (Fix.absent explanation).Vetted gate where
  admitted h := by simp [Fix.absent, isUsable] at h
  absent _ := rfl

theorem isUsable_ofProposal {p : Proposal} {provenance : Provenance} (label : String) (hp : provenance ≠ .none)
    (hb : Text.blank p.fixedCode = false) : (Fix.ofProposal p provenance label).isUsable = true := by
  simp [Fix.ofProposal, isUsable, hp, hb]

theorem vetted_ofProposal {gate : SafetyGate} {p : Proposal} {provenance : Provenance} (label : String)
    (hp : provenance ≠ .none) (ha : gate.Admits p.fixedCode) : (Fix.ofProposal p provenance label).Vetted gate where
  admitted _ := ha
  absent h := by rw [isUsable_ofProposal label hp ha.1] at h; cases h

end Fix

namespace Pipeline

variable {p : Pipeline} {provider : ProviderInfo} {answer : Answered} {problem : String} {fix : Fix}

theorem judge_eq_ok {q : Proposal} (h : p.judge provider answer = .ok q) :
    ∃ r, answer = .proposal r ∧ q.fixedCode = r.fixedCode ∧ q.explanation = r.explanation ∧
      q.confidence = (if provider.reportsConfidence then r.confidence else none) ∧ p.gate.Admits r.fixedCode := by
  cases answer with
  | failed text => cases h
  | timedOut => cases h
  | proposal r =>
    refine ⟨r, rfl, ?_⟩
    simp only [judge] at h
    split at h
    · cases h
    next hb =>
      split at h
      · cases h
      next hs =>
        have ha : p.gate.Admits r.fixedCode := ⟨by simpa using hb, by simpa using hs⟩
        split at h
        next hc => cases h; exact ⟨rfl, rfl, by simp [hc], ha⟩
        next hc => cases h; exact ⟨rfl, rfl, by simp [hc], ha⟩

theorem judge_admits {q : Proposal} (h : p.judge provider answer = .ok q) : p.gate.Admits q.fixedCode := by
  obtain ⟨r, -, hc, -, -, ha⟩ := judge_eq_ok h
  exact hc ▸ ha

theorem afterPrimary_eq_settled (h : p.afterPrimary answer = .settled fix) :
    fix.Vetted p.gate ∧ (fix.provenance = .primary ∨ p.fallback = none) := by
  simp only [afterPrimary] at h
  split at h
  next q hq =>
    cases h
    exact ⟨Fix.vetted_ofProposal _ (by decide) (judge_admits hq), .inl rfl⟩
  next problem hq =>
    split at h
    · cases h
    next hf => cases h; exact ⟨Fix.vetted_absent _ _, .inr hf⟩

theorem afterPrimary_eq_askFallback (h : p.afterPrimary answer = .askFallback problem) :
    p.fallback.isSome = true ∧ p.judge p.primary answer = .error problem := by
  simp only [afterPrimary] at h
  split at h
  · cases h
  next problem' hq =>
    split at h
    next fallback hf => cases h; exact ⟨by rw [hf]; rfl, hq⟩
    · cases h

theorem afterFallback_vetted (p : Pipeline) (problem : String) (answer : Answered) :
    (p.afterFallback problem answer).Vetted p.gate := by
  simp only [afterFallback]
  split
  · exact Fix.vetted_absent _ _
  next fallback hf =>
    split
    next q hq => exact Fix.vetted_ofProposal _ (by decide) (judge_admits hq)
    · exact Fix.vetted_absent _ _

theorem afterFallback_provenance (p : Pipeline) (problem : String) (answer : Answered) :
    (p.afterFallback problem answer).provenance ≠ .primary := by
  simp only [afterFallback]
  split
  · simp [Fix.absent]
  · split <;> simp [Fix.absent, Fix.ofProposal]

end Pipeline

end CodeRepair
