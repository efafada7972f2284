import CodeRepair.Diagnostic.Scan
import CodeRepair.Proofs.Fix.Vetted
import CodeRepair.Proofs.Places
import CodeRepair.Session.Record

/-!
The log of a session. Attempts are numbered and each runs the code that the one before left behind; the last one
decides the state of the session, unless it was given up. A log stays so when the next attempt is recorded.
-/
namespace CodeRepair

namespace Attempt

/-- The code that an attempt leaves behind: that of its fix when the fix is applied, else the code it ran. -/
def nextCode (a : Attempt) : String :=
  match a.fix with
  | some fix => if a.fixApplied then fix.fixedCode else a.codeUsed
  | none => a.codeUsed

def replacement? (a : Attempt) : Option String :=
  a.fix.bind fun fix ↦ if fix.isUsable then some fix.fixedCode else none

/-- The state that an attempt leads to, when no attempt can follow it. -/
def outcome (policy : NoFixPolicy) (a : Attempt) : Option SessionState :=
  if a.succeeded then some .succeeded
  else
    match a.fix with
    | none => some .exhausted
    | some fix =>
      if fix.isUsable then none
      else
        match policy with
        | .retryUnchanged => none
        | .abort => some .aborted

theorem replacement?_getD (a : Attempt) : a.replacement?.getD a.codeUsed = a.nextCode := by
  cases hf : a.fix with
  | none => simp [replacement?, nextCode, hf]
  | some fix => cases hu : fix.isUsable <;> simp [replacement?, nextCode, fixApplied, hf, hu]

variable {policy : NoFixPolicy} {a : Attempt}

theorem outcome_eq_none_iff :
    a.outcome policy = none ↔
      a.succeeded = false ∧ ∃ fix, a.fix = some fix ∧ (policy = .abort → fix.isUsable = true) := by
  unfold outcome
  cases a.succeeded <;> cases a.fix <;> cases policy <;> simp

theorem outcome_eq_succeeded_iff : a.outcome policy = some .succeeded ↔ a.succeeded = true := by
  unfold outcome
  cases a.succeeded <;> cases a.fix <;> cases policy <;> simp

theorem outcome_eq_exhausted_iff :
    a.outcome policy = some .exhausted ↔ a.succeeded = false ∧ a.fix = none := by
  unfold outcome
  cases a.succeeded <;> cases a.fix <;> cases policy <;> simp

theorem outcome_eq_aborted_iff :
    a.outcome policy = some .aborted ↔
      a.succeeded = false ∧ policy = .abort ∧ ∃ fix, a.fix = some fix ∧ fix.isUsable = false := by
  unfold outcome
  cases a.succeeded <;> cases a.fix <;> cases policy <;> simp

theorem outcome_ne_open {st : SessionState} (h : a.outcome policy = some st) : st ≠ .running ∧ st ≠ .cancelled := by
  unfold outcome at h
  grind

/-- What is kept of every attempt, by itself and within a budget. -/
structure Faithful (language : Language) (budget : Nat) (a : Attempt) : Prop where
  succeeded : a.succeeded = a.result.succeeded
  diagnostics : a.diagnostics = if a.succeeded then [] else Diagnostic.scan language a.result.errorSignal
  fix : a.fix.isSome = true ↔ a.succeeded = false ∧ a.index < budget
  unusable : ∀ fix, a.fix = some fix → fix.isUsable = false → fix.provenance = .none

end Attempt

namespace Session

variable {policy : NoFixPolicy} {x y : Session} {a : Attempt} {now : Time.Stamp}

/-- The log is whole and in order, and the code that comes next follows from it. -/
structure LogIntact (x : Session) : Prop where
  length_le : x.attempts.length ≤ x.maxAttempts
  index : ∀ i a, x.attempts[i]? = some a → a.index = i + 1
  succeeded : ∀ a ∈ x.attempts, a.succeeded = a.result.succeeded
  first : ∀ a, x.attempts[0]? = some a → a.codeUsed = x.initialCode
  next : ∀ i a b, x.attempts[i]? = some a → x.attempts[i + 1]? = some b → b.codeUsed = a.nextCode
  current : x.currentCode = (x.attempts.getLast?.map Attempt.nextCode).getD x.initialCode
  diagnostics : ∀ a ∈ x.attempts,
    a.diagnostics = if a.succeeded then [] else Diagnostic.scan x.language a.result.errorSignal

def decision (policy : NoFixPolicy) (x : Session) : Option SessionState :=
  x.attempts.getLast?.bind (Attempt.outcome policy)

/-- A session whose log is intact and whose state is what the log says. -/
structure Sound (policy : NoFixPolicy) (x : Session) : Prop where
  log : x.LogIntact
  budget : 1 ≤ x.maxAttempts
  faithful : ∀ a ∈ x.attempts, a.Faithful x.language x.maxAttempts
  earlier : ∀ a ∈ x.attempts.dropLast, a.outcome policy = none
  decided : ∀ st, x.decision policy = some st → x.state = st
  undecided : x.decision policy = none → x.state = .running ∨ x.state = .cancelled
  finished : x.finishedAt.isSome = true ↔ x.state ≠ .running

theorem isComplete_iff (x : Session) : x.isComplete = true ↔ x.state ≠ .running := by
  simp [isComplete, SessionState.isTerminal]

theorem isComplete_eq_false_iff (x : Session) : x.isComplete = false ↔ x.state = .running := by
  simp [isComplete, SessionState.isTerminal]

theorem finish_of_complete (st : SessionState) (now : Time.Stamp) (h : x.isComplete = true) :
    x.finish st now = x := by
  simp [finish, h]

theorem finish_of_running (st : SessionState) (now : Time.Stamp) (h : x.state = .running) :
    x.finish st now = { x with state := st, finishedAt := some now } := by
  simp [finish, (isComplete_eq_false_iff x).2 h]

/-- A session is as it was, or was given up. -/
def GivesUp (x y : Session) : Prop := y = x ∨ x.state = .running ∧ ∃ now, y = x.finish .cancelled now

theorem GivesUp.attempts (h : x.GivesUp y) : y.attempts = x.attempts := by
  rcases h with rfl | ⟨hr, now, rfl⟩
  · rfl
  · rw [finish_of_running _ _ hr]

theorem GivesUp.trans {z : Session} (h : x.GivesUp y) (h' : y.GivesUp z) : x.GivesUp z := by
  rcases h' with rfl | ⟨hr', now', rfl⟩
  · exact h
  · rcases h with rfl | ⟨hr, now, rfl⟩
    · exact .inr ⟨hr', now', rfl⟩
    · rw [finish_of_running _ _ hr] at hr'; cases hr'

theorem record_of_running (a : Attempt) (code : Option String) (outcome : Option SessionState) (now : Time.Stamp)
    (h : x.state = .running) :
    x.record a code outcome now =
      { x with
        attempts := x.attempts ++ [a]
        currentCode := code.getD x.currentCode
        state := outcome.getD .running
        finishedAt := (outcome.map fun _ ↦ now) <|> x.finishedAt } := by
  cases outcome with
  | none => simp [record, h]
  | some st => simp [record, finish, isComplete, SessionState.isTerminal, h]

def nextAttempt (x : Session) (since : Time.Stamp) (result : ExecutionResult) (fix : Option Fix) : Attempt :=
  ⟨x.nextIndex, x.currentCode, result, fix,
    if result.succeeded then [] else Diagnostic.scan x.language result.errorSignal, since, result.succeeded⟩

theorem nextAttempt_of_failed (x : Session) (since : Time.Stamp) {result : ExecutionResult}
    (h : result.succeeded = false) (fix : Option Fix) :
    x.nextAttempt since result fix =
      ⟨x.nextIndex, x.currentCode, result, fix, Diagnostic.scan x.language result.errorSignal, since, false⟩ := by
  simp [nextAttempt, h]

def extend (policy : NoFixPolicy) (x : Session) (a : Attempt) (now : Time.Stamp) : Session :=
  x.record a a.replacement? (a.outcome policy) now

theorem extend_of_running (policy : NoFixPolicy) (now : Time.Stamp) (h : x.state = .running)
    (hc : a.codeUsed = x.currentCode) :
    x.extend policy a now =
      { x with
        attempts := x.attempts ++ [a]
        currentCode := a.nextCode
        state := (a.outcome policy).getD .running
        finishedAt := ((a.outcome policy).map fun _ ↦ now) <|> x.finishedAt } := by
  rw [extend, record_of_running _ _ _ _ h, ← hc, a.replacement?_getD]

theorem extend_frame (policy : NoFixPolicy) (x : Session) (a : Attempt) (now : Time.Stamp) :
    ∃ code state finishedAt, x.extend policy a now =
      { x with attempts := x.attempts ++ [a], currentCode := code, state := state, finishedAt := finishedAt } := by
  unfold extend record
  cases a.outcome policy with
  | none => exact ⟨_, _, _, rfl⟩
  | some st =>
    dsimp only
    unfold finish
    split
    · exact ⟨_, _, _, rfl⟩
    · exact ⟨_, _, _, rfl⟩

section Frame

variable (policy : NoFixPolicy) (x : Session) (a : Attempt) (now : Time.Stamp)

theorem extend_attempts : (x.extend policy a now).attempts = x.attempts ++ [a] := by
  obtain ⟨_, _, _, he⟩ := extend_frame policy x a now
  rw [he]

theorem extend_id : (x.extend policy a now).id = x.id := by
  obtain ⟨_, _, _, he⟩ := extend_frame policy x a now
  rw [he]

theorem extend_language : (x.extend policy a now).language = x.language := by
  obtain ⟨_, _, _, he⟩ := extend_frame policy x a now
  rw [he]

theorem extend_maxAttempts : (x.extend policy a now).maxAttempts = x.maxAttempts := by
  obtain ⟨_, _, _, he⟩ := extend_frame policy x a now
  rw [he]

end Frame

theorem logIntact_start (id : String) (language : Language) (code : String) (max : Nat) (now : Time.Stamp) :
    (Session.start id language code max now).LogIntact := by
  constructor <;> simp [Session.start]

theorem LogIntact.append (h : x.LogIntact) (hl : x.attempts.length < x.maxAttempts)
    (hi : a.index = x.nextIndex) (hc : a.codeUsed = x.currentCode) (hs : a.succeeded = a.result.succeeded)
    (hd : a.diagnostics = if a.succeeded then [] else Diagnostic.scan x.language a.result.errorSignal)
    (hy : y.attempts = x.attempts ++ [a]) (hm : y.maxAttempts = x.maxAttempts) (hg : y.language = x.language)
    (h₀ : y.initialCode = x.initialCode) (hn : y.currentCode = a.nextCode) : y.LogIntact where
  length_le := by rw [hy, hm, List.length_append, List.length_singleton]; omega
  index i b hb := by
    rw [hy] at hb
    rcases Places.concat_eq_some hb with hb | ⟨rfl, rfl⟩
    · exact h.index i b hb
    · exact hi
  succeeded b hb := by
    rw [hy, List.mem_append, List.mem_singleton] at hb
    rcases hb with hb | rfl
    · exact h.succeeded b hb
    · exact hs
  first b hb := by
    rw [hy] at hb
    rcases Places.concat_eq_some hb with hb | ⟨he, rfl⟩
    · rw [h₀]; exact h.first b hb
    · have hnil : x.attempts = [] := List.length_eq_zero_iff.1 he.symm
      rw [h₀, hc, h.current, hnil]; rfl
  next i b c hb hc' := by
    rw [hy] at hb hc'
    rcases Places.concat_eq_some hc' with hc' | ⟨he, rfl⟩
    · rcases Places.concat_eq_some hb with hb | ⟨rfl, rfl⟩
      · exact h.next i b c hb hc'
      · simp at hc'
    · have hb' : x.attempts[i]? = some b := by rwa [List.getElem?_append_left (by omega)] at hb
      have hlast : x.attempts.getLast? = some b := by
        rw [List.getLast?_eq_getElem?, ← he]; exact hb'
      rw [hc, h.current, hlast]; rfl
  current := by rw [hn, hy]; simp
  diagnostics b hb := by
    rw [hy, List.mem_append, List.mem_singleton] at hb
    rw [hg]
    rcases hb with hb | rfl
    · exact h.diagnostics b hb
    · exact hd

theorem LogIntact.last_index (h : x.LogIntact) (ha : x.attempts.getLast? = some a) : a.index = x.attempts.length := by
  rw [List.getLast?_eq_getElem?] at ha
  have hlt := (List.getElem?_eq_some_iff.1 ha).1
  have hindex := h.index _ a ha
  omega

theorem decision_cases (policy : NoFixPolicy) (x : Session) :
    (x.attempts = [] ∧ x.decision policy = none) ∨
      ∃ init a, x.attempts = init ++ [a] ∧ x.decision policy = a.outcome policy := by
  rcases List.eq_nil_or_concat x.attempts with hnil | ⟨init, a, hx⟩
  · exact .inl ⟨hnil, by simp [decision, hnil]⟩
  · have hx' : x.attempts = init ++ [a] := by simpa using hx
    exact .inr ⟨init, a, hx', by simp [decision, hx']⟩

namespace Sound

variable {gate : SafetyGate} {since : Time.Stamp} {result : ExecutionResult} {fix : Option Fix}

theorem start (policy : NoFixPolicy) (id : String) (language : Language) (code : String) {max : Nat}
    (now : Time.Stamp) (h : 1 ≤ max) : (Session.start id language code max now).Sound policy where
  log := logIntact_start id language code max now
  budget := h
  faithful := by simp [Session.start]
  earlier := by simp [Session.start]
  decided := by simp [Session.start, decision]
  undecided _ := .inl rfl
  finished := by simp [Session.start]

theorem undecided_iff (h : x.Sound policy) :
    x.decision policy = none ↔ x.state = .running ∨ x.state = .cancelled := by
  refine ⟨h.undecided, fun hs ↦ ?_⟩
  cases hd : x.decision policy with
  | none => rfl
  | some st =>
    have hst := h.decided st hd
    rcases decision_cases policy x with ⟨-, hn⟩ | ⟨init, a, -, ha⟩
    · rw [hn] at hd; cases hd
    · obtain ⟨hr, hc⟩ := Attempt.outcome_ne_open (ha ▸ hd)
      rw [hst] at hs
      exact absurd hs (by simp [hr, hc])

/-- While nothing is decided, every attempt failed, has a fix and leads on. -/
theorem all_lead_on (h : x.Sound policy) (hd : x.decision policy = none) (ha : a ∈ x.attempts) :
    a.outcome policy = none := by
  rcases decision_cases policy x with ⟨hnil, -⟩ | ⟨init, b, hx, hb⟩
  · rw [hnil] at ha; cases ha
  · have he := h.earlier
    rw [hx, List.dropLast_concat] at he
    rw [hx, List.mem_append, List.mem_singleton] at ha
    rcases ha with ha | rfl
    · exact he a ha
    · rw [← hb, hd]

theorem length_lt (h : x.Sound policy) (hd : x.decision policy = none) : x.attempts.length < x.maxAttempts := by
  rcases decision_cases policy x with ⟨hnil, -⟩ | ⟨init, a, hx, ha⟩
  · have hb := h.budget
    rw [hnil, List.length_nil]; omega
  · have hmem : a ∈ x.attempts := by rw [hx]; simp
    have hindex : a.index = x.attempts.length := h.log.last_index (by rw [hx]; simp)
    have hfaith := h.faithful a hmem
    obtain ⟨-, fix, hf, -⟩ := Attempt.outcome_eq_none_iff.1 (ha.symm.trans hd)
    have hlt := (hfaith.fix.1 (by rw [hf]; rfl)).2
    omega

theorem finish (h : x.Sound policy) (hr : x.state = .running) (now : Time.Stamp) :
    (x.finish .cancelled now).Sound policy := by
  have hd := h.undecided_iff.2 (.inl hr)
  rw [finish_of_running _ _ hr]
  exact {
    log := ⟨h.log.length_le, h.log.index, h.log.succeeded, h.log.first, h.log.next, h.log.current,
      h.log.diagnostics⟩
    budget := h.budget
    faithful := h.faithful
    earlier := h.earlier
    decided := fun st hst ↦ by
      have hn : x.decision policy = some st := hst
      rw [hd] at hn; cases hn
    undecided := fun _ ↦ .inr rfl
    finished := by simp }

theorem nextAttempt_faithful (gate : SafetyGate) (x : Session) (since : Time.Stamp)
    (hf : fix.isSome = true ↔ result.succeeded = false ∧ x.nextIndex < x.maxAttempts)
    (hv : ∀ f, fix = some f → f.Vetted gate) :
    (x.nextAttempt since result fix).Faithful x.language x.maxAttempts where
  succeeded := rfl
  diagnostics := rfl
  fix := hf
  unusable f hfix := (hv f hfix).absent

theorem extend (h : x.Sound policy) (hr : x.state = .running) (now : Time.Stamp)
    (ha : (x.nextAttempt since result fix).Faithful x.language x.maxAttempts) :
    (x.extend policy (x.nextAttempt since result fix) now).Sound policy := by
  have hd := h.undecided_iff.2 (.inl hr)
  have hlead := fun b hb ↦ h.all_lead_on (a := b) hd hb
  rw [extend_of_running policy now hr rfl]
  have hdec : ∀ y : Session, y.attempts = x.attempts ++ [x.nextAttempt since result fix] →
      y.decision policy = (x.nextAttempt since result fix).outcome policy := fun y hy ↦ by
    simp [decision, hy]
  exact {
    log := h.log.append (h.length_lt hd) rfl rfl rfl rfl rfl rfl rfl rfl rfl
    budget := h.budget
    faithful := fun b hb ↦ by
      rcases List.mem_append.1 hb with hb | hb
      · exact h.faithful b hb
      · rw [List.mem_singleton.1 hb]; exact ha
    earlier := by simpa using hlead
    decided := fun st hst ↦ by
      rw [hdec _ rfl] at hst
      simp [hst]
    undecided := fun hn ↦ by
      rw [hdec _ rfl] at hn
      simp [hn]
    finished := by
      have hfin : x.finishedAt = none := by
        have := h.finished
        simpa [hr] using this
      cases ho : (x.nextAttempt since result fix).outcome policy with
      | none => simp [hfin]
      | some st => simpa using (Attempt.outcome_ne_open ho).1 }

end Sound

end Session

end CodeRepair
