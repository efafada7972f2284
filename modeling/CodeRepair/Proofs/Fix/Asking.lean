import CodeRepair.Proofs.Fix.Vetted
import CodeRepair.Proofs.Text.Trim
import CodeRepair.Rehearsal

/-!
Who is asked for a fix, and what the fix is then. A reply fails in one of four ways; the fallback is asked when the
primary's reply fails, and when every reply fails the fix says why.
-/
namespace CodeRepair

def Role.provenance : Role → Provenance
  | .primary => .primary
  | .fallback => .fallback

namespace Pipeline

open Rehearsal

def provider? (p : Pipeline) : Role → Option ProviderInfo
  | .primary => some p.primary
  | .fallback => p.fallback

/-- A reply that can be used: a proposal that arrives in time, with code that is not blank and that the gate accepts. -/
structure Usable (p : Pipeline) (reply : ReplyCue) (proposal : Proposal) : Prop where
  answer_eq : reply.answer = some (.proposal proposal)
  in_time : reply.cue.delayMs ≤ p.timeoutMs
  code_ne : Text.trim proposal.fixedCode.toList ≠ []
  accepted : (p.gate.check proposal.fixedCode).safe = true

def CanUse (p : Pipeline) (reply : ReplyCue) : Prop := ∃ q, p.Usable reply q

/-- What is wrong with a reply, and the text that says so. -/
inductive Problem (p : Pipeline) (provider : ProviderInfo) (reply : ReplyCue) : String → Prop
  | failed (text : String) : reply.answer = some (.failed text) → reply.cue.delayMs ≤ p.timeoutMs →
      Problem p provider reply (provider.label ++ " failed: " ++ text ++ ".")
  | timedOut : reply.answer = none ∨ reply.answer = some .timedOut ∨ p.timeoutMs < reply.cue.delayMs →
      Problem p provider reply (provider.label ++ " timed out after " ++ p.timeoutText ++ ".")
  | noCode (q : Proposal) : reply.answer = some (.proposal q) → reply.cue.delayMs ≤ p.timeoutMs →
      Text.trim q.fixedCode.toList = [] →
      Problem p provider reply (provider.label ++ " returned no fix: " ++ q.explanation ++ ".")
  | unsafeCode (q : Proposal) : reply.answer = some (.proposal q) → reply.cue.delayMs ≤ p.timeoutMs →
      (p.gate.check q.fixedCode).safe = false →
      Problem p provider reply
        (provider.label ++ " proposed unsafe code (" ++ (p.gate.check q.fixedCode).reason.getD "" ++ ").")

/-- A fix that passes a proposal on. -/
structure Carries (p : Pipeline) (provider : ProviderInfo) (proposal : Proposal) (fix : Fix) : Prop where
  code : fix.fixedCode = proposal.fixedCode
  explanation : fix.explanation = proposal.explanation
  label : fix.provider = some provider.label
  confidence : fix.confidence = if provider.reportsConfidence then proposal.confidence else none
  usable : fix.isUsable = true
  accepted : (p.gate.check fix.fixedCode).safe = true

variable {p : Pipeline} {provider fallback : ProviderInfo} {reply : ReplyCue} {answers : Role → Answered}
  {problem problem' : String} {q r : Proposal}

def heard (p : Pipeline) (reply : ReplyCue) : Answered := (reply.within p.timeoutMs).2.2

theorem heard_eq_proposal : p.heard reply = .proposal q ↔
    reply.answer = some (.proposal q) ∧ reply.cue.delayMs ≤ p.timeoutMs := by
  simp only [heard, ReplyCue.within]
  cases reply.answer with
  | none => simp [Answered.within]
  | some answer => by_cases hd : reply.cue.delayMs ≤ p.timeoutMs <;> simp [Answered.within, hd]

theorem heard_eq_failed {text : String} : p.heard reply = .failed text ↔
    reply.answer = some (.failed text) ∧ reply.cue.delayMs ≤ p.timeoutMs := by
  simp only [heard, ReplyCue.within]
  cases reply.answer with
  | none => simp [Answered.within]
  | some answer => by_cases hd : reply.cue.delayMs ≤ p.timeoutMs <;> simp [Answered.within, hd]

theorem heard_eq_timedOut : p.heard reply = .timedOut ↔
    reply.answer = none ∨ reply.answer = some .timedOut ∨ p.timeoutMs < reply.cue.delayMs := by
  simp only [heard, ReplyCue.within]
  cases reply.answer with
  | none => simp [Answered.within]
  | some answer =>
    by_cases hd : reply.cue.delayMs ≤ p.timeoutMs
    · simp [Answered.within, hd, Nat.not_lt.2 hd]
    · simp [Answered.within, hd, Nat.lt_of_not_le hd]

theorem judge_heard_ok (h : p.judge provider (p.heard reply) = .ok r) :
    ∃ q, p.Usable reply q ∧ ∀ role : Role, p.Carries provider q (.ofProposal r role.provenance provider.label) := by
  obtain ⟨q, ha, hc, he, hf, hg⟩ := judge_eq_ok h
  obtain ⟨hq, hd⟩ := heard_eq_proposal.1 ha
  refine ⟨q, ⟨hq, hd, Text.trim_ne_nil hg.1, hg.2⟩, fun role ↦ ?_⟩
  have hr : p.gate.Admits r.fixedCode := hc ▸ hg
  have hp : role.provenance ≠ .none := by cases role <;> decide
  exact ⟨hc, he, rfl, hf, Fix.isUsable_ofProposal _ hp hr.1, hr.2⟩

theorem judge_heard_error (h : p.judge provider (p.heard reply) = .error problem) :
    p.Problem provider reply problem ∧ ¬p.CanUse reply := by
  cases ha : p.heard reply with
  | failed text =>
    rw [ha] at h
    obtain ⟨hq, hd⟩ := heard_eq_failed.1 ha
    cases h
    refine ⟨.failed text hq hd, ?_⟩
    rintro ⟨q, hu⟩
    cases hq.symm.trans hu.answer_eq
  | timedOut =>
    rw [ha] at h
    cases h
    refine ⟨.timedOut (heard_eq_timedOut.1 ha), ?_⟩
    rintro ⟨q, hu⟩
    cases ha.symm.trans (heard_eq_proposal.2 ⟨hu.answer_eq, hu.in_time⟩)
  | proposal q =>
    rw [ha] at h
    obtain ⟨hq, hd⟩ := heard_eq_proposal.1 ha
    have hsame : ∀ {q'}, p.Usable reply q' → q' = q := fun hu ↦ by
      cases hq.symm.trans hu.answer_eq
      rfl
    simp only [judge] at h
    split at h
    next hb =>
      have ht : Text.trim q.fixedCode.toList = [] := (Text.trim_eq_nil_iff _).2 hb
      cases h
      refine ⟨.noCode q hq hd ht, ?_⟩
      rintro ⟨q', hu⟩
      exact hu.code_ne (hsame hu ▸ ht)
    next hb =>
      split at h
      next hs =>
        have hs' : (p.gate.check q.fixedCode).safe = false := by simpa using hs
        cases h
        refine ⟨.unsafeCode q hq hd hs', ?_⟩
        rintro ⟨q', hu⟩
        have hsafe := hu.accepted
        rw [hsame hu, hs'] at hsafe
        cases hsafe
      next hs => split at h <;> cases h

theorem fix_of_primary (h : p.judge p.primary (answers .primary) = .ok r) :
    p.fix answers = (.ofProposal r .primary p.primary.label, [.primary]) := by
  simp only [fix, afterPrimary, h]

theorem fix_of_alone (h : p.judge p.primary (answers .primary) = .error problem) (hf : p.fallback = none) :
    p.fix answers = (.absent (allFailed ++ problem), [.primary]) := by
  simp only [fix, afterPrimary, h, hf]

theorem fix_of_fallback (h : p.judge p.primary (answers .primary) = .error problem)
    (hf : p.fallback = some fallback) (h' : p.judge fallback (answers .fallback) = .ok r) :
    p.fix answers = (.ofProposal r .fallback fallback.label, [.primary, .fallback]) := by
  simp only [fix, afterPrimary, afterFallback, h, hf, h']

theorem fix_of_neither (h : p.judge p.primary (answers .primary) = .error problem)
    (hf : p.fallback = some fallback) (h' : p.judge fallback (answers .fallback) = .error problem') :
    p.fix answers = (.absent (allFailed ++ problem ++ " " ++ problem'), [.primary, .fallback]) := by
  simp only [fix, afterPrimary, afterFallback, h, hf, h']

/-- What asking for a fix comes to when the providers reply as given: who was asked, and the fix. -/
structure Outcome (p : Pipeline) (replies : Role → ReplyCue) (asked : List Role) (fix : Fix) : Prop where
  primary_asked : asked.count .primary = 1
  fallback_asked : p.fallback.isSome → ¬p.CanUse (replies .primary) → asked.count .fallback = 1
  fallback_spared : p.fallback = none ∨ p.CanUse (replies .primary) → .fallback ∉ asked
  from_primary : fix.provenance = .primary ↔ p.CanUse (replies .primary)
  from_fallback : fix.provenance = .fallback ↔
    ¬p.CanUse (replies .primary) ∧ p.fallback.isSome ∧ p.CanUse (replies .fallback)
  from_none : fix.provenance = .none ↔
    ¬p.CanUse (replies .primary) ∧ ¬(p.fallback.isSome ∧ p.CanUse (replies .fallback))
  carries : ∀ role : Role, fix.provenance = role.provenance →
    ∃ provider q, p.provider? role = some provider ∧ p.Usable (replies role) q ∧ p.Carries provider q fix
  absent : fix.provenance = .none →
    fix.fixedCode = "" ∧ fix.provider = none ∧ fix.confidence = none ∧ fix.isUsable = false
  explained : fix.provenance = .none → ∀ role ∈ asked,
    ∃ provider problem, p.provider? role = some provider ∧ p.Problem provider (replies role) problem ∧
      problem.toList <:+: fix.explanation.toList

variable {replies : Role → ReplyCue}

theorem outcome_primary (hu : p.Usable (replies .primary) q)
    (hc : p.Carries p.primary q (.ofProposal r .primary p.primary.label)) :
    p.Outcome replies [.primary] (.ofProposal r .primary p.primary.label) where
  primary_asked := rfl
  fallback_asked _ hn := absurd ⟨q, hu⟩ hn
  fallback_spared _ := by decide
  from_primary := iff_of_true rfl ⟨q, hu⟩
  from_fallback := iff_of_false (by simp [Fix.ofProposal]) fun h ↦ h.1 ⟨q, hu⟩
  from_none := iff_of_false (by simp [Fix.ofProposal]) fun h ↦ h.1 ⟨q, hu⟩
  carries role hr := by
    cases role with
    | primary => exact ⟨p.primary, q, rfl, hu, hc⟩
    | fallback => cases hr
  absent h := by cases h
  explained h := by cases h

theorem outcome_fallback (hf : p.fallback = some fallback) (hn : ¬p.CanUse (replies .primary))
    (hu : p.Usable (replies .fallback) q)
    (hc : p.Carries fallback q (.ofProposal r .fallback fallback.label)) :
    p.Outcome replies [.primary, .fallback] (.ofProposal r .fallback fallback.label) where
  primary_asked := rfl
  fallback_asked _ _ := rfl
  fallback_spared h := by
    rcases h with h | h
    · cases hf.symm.trans h
    · exact absurd h hn
  from_primary := iff_of_false (by simp [Fix.ofProposal]) hn
  from_fallback := iff_of_true rfl ⟨hn, by rw [hf]; rfl, q, hu⟩
  from_none := iff_of_false (by simp [Fix.ofProposal]) fun h ↦ h.2 ⟨by rw [hf]; rfl, q, hu⟩
  carries role hr := by
    cases role with
    | primary => cases hr
    | fallback => exact ⟨fallback, q, hf, hu, hc⟩
  absent h := by cases h
  explained h := by cases h

/-- No reply could be used: the fix is absent, and it need only be shown who was asked and that the text names every
problem. -/
theorem outcome_absent {asked : List Role} {explanation : String} (hn : ¬p.CanUse (replies .primary))
    (hn' : ¬(p.fallback.isSome ∧ p.CanUse (replies .fallback))) (hp : asked.count .primary = 1)
    (ha : p.fallback.isSome → asked.count .fallback = 1) (hs : p.fallback = none → .fallback ∉ asked)
    (he : ∀ role ∈ asked, ∃ provider problem, p.provider? role = some provider ∧
      p.Problem provider (replies role) problem ∧ problem.toList <:+: explanation.toList) :
    p.Outcome replies asked (.absent explanation) where
  primary_asked := hp
  fallback_asked h _ := ha h
  fallback_spared h := h.elim hs fun h ↦ absurd h hn
  from_primary := iff_of_false (by simp [Fix.absent]) hn
  from_fallback := iff_of_false (by simp [Fix.absent]) fun h ↦ hn' h.2
  from_none := iff_of_true rfl ⟨hn, hn'⟩
  carries role hr := by cases role <;> cases hr
  absent _ := ⟨rfl, rfl, rfl, rfl⟩
  explained _ := he

/-- The primary is asked once, and the fallback once when there is one and the primary's reply is of no use. The fix
names the provider whose reply it carries, and without one it has no code and says what was wrong with each reply. -/
theorem fix_outcome (p : Pipeline) (providers : Role → Language → String → String → ReplyCue) (language : Language)
    (code error : String) :
    let replies := fun role ↦ providers role language code error
    let result := p.fix fun role ↦ ((replies role).within p.timeoutMs).2.2
    p.Outcome replies result.2 result.1 := by
  intro replies result
  have hresult : result = p.fix fun role ↦ p.heard (replies role) := rfl
  cases hp : p.judge p.primary (p.heard (replies .primary)) with
  | ok r =>
    obtain ⟨q, hu, hc⟩ := judge_heard_ok hp
    rw [hresult, fix_of_primary hp]
    exact outcome_primary hu (hc .primary)
  | error problem =>
    obtain ⟨hproblem, hn⟩ := judge_heard_error hp
    cases hf : p.fallback with
    | none =>
      rw [hresult, fix_of_alone hp hf]
      refine outcome_absent hn (by simp [hf]) rfl (by simp [hf]) (by simp) ?_
      intro role hrole
      rw [List.mem_singleton.1 hrole]
      exact ⟨p.primary, problem, rfl, hproblem, allFailed.toList, [], by simp⟩
    | some fallback =>
      cases hp' : p.judge fallback (p.heard (replies .fallback)) with
      | ok r =>
        obtain ⟨q, hu, hc⟩ := judge_heard_ok hp'
        rw [hresult, fix_of_fallback hp hf hp']
        exact outcome_fallback hf hn hu (hc .fallback)
      | error problem' =>
        obtain ⟨hproblem', hn'⟩ := judge_heard_error hp'
        rw [hresult, fix_of_neither hp hf hp']
        refine outcome_absent hn (fun h ↦ hn' h.2) rfl (fun _ ↦ rfl) (by simp [hf]) ?_
        intro role _
        cases role with
        | primary => exact ⟨p.primary, problem, rfl, hproblem, allFailed.toList, " ".toList ++ problem'.toList, by simp⟩
        | fallback => exact ⟨fallback, problem', hf, hproblem', (allFailed ++ problem ++ " ").toList, [], by simp⟩

end Pipeline

end CodeRepair
