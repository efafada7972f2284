import CodeRepair.Proofs.Service.Completion
import CodeRepair.Proofs.Service.Driving

/-!
A program debugged by itself comes to what the first attempt of a session comes to. Both run it once and ask for a fix
once when it fails, as long as the session has room for another attempt.
-/
namespace CodeRepair.Machine

variable {s : Settings} {m : Machine} {now : Time.Stamp} {job bits max : Nat} {mode : Mode} {request : Request}
  {purpose : Purpose} {language : Language} {name code : String} {x : Session} {ρ : Replies}
  {calls calls' : List Call} {result : ExecutionResult} {ds : List Diagnostic} {fix : Fix} {fixed : Option Fix}

theorem step_launches (hl : Launches s request purpose language code) (m : Machine) (now : Time.Stamp) (bits : Nat) :
    m.step s now (.arrive request bits) =
      m.arrived .paced (.running purpose language code) m.registry (m.calls ++ [(none, .run language code)]) := by
  simp only [step]
  delta begin
  cases hl with
  | execute hv | debug hv =>
    simp only [hv]
    exact startRun_arriving m _ _ rfl _ _

section Reports

def Reported (m m' : Machine) (job : Nat) (mode : Mode) (report : Report) : Prop :=
  m'.jobs[job]? = some ⟨mode, .answered (.ok (.report report))⟩ ∧ m'.registry = m.registry

theorem conducts_report
    (hj : m.jobs[job]? = some ⟨mode, .askingPrimary ⟨.debug, x.language, x.currentCode, result, ds⟩⟩)
    (hfix : ρ.fix s x result calls = (fix, calls')) (clock : Nat → Time.Stamp) (ticks : Nat) :
    ∃ k ticks' m', k ≤ 2 ∧ Conducts ρ clock s job k m (calls, ticks) m' (calls', ticks') ∧
      m.Reported m' job mode ⟨result, ds, some fix⟩ := by
  unfold Replies.fix at hfix
  dsimp only at hfix
  split at hfix
  next fix hsettled =>
    cases hfix
    obtain ⟨m', hconducts, hj', hr'⟩ := exists_conducts (e := (calls, ticks)) clock hj rfl
      (.debugged (.byPrimary hsettled) rfl)
    exact ⟨1, _, m', by omega, hconducts, hj', hr'⟩
  next problem hproblem =>
    cases hfix
    obtain ⟨m₁, hasked, hj₁, hr₁⟩ := exists_conducts (e := (calls, ticks)) clock hj rfl (.askedFallback hproblem)
    obtain ⟨m', hconducts, hj', hr'⟩ := exists_conducts (ρ := ρ) (s := s) (e := (_, ticks + 1)) clock hj₁ rfl
      (.debugged (.byFallback _ problem) rfl)
    exact ⟨2, _, m', by omega, hasked.trans hconducts, hj', hr'.trans hr₁⟩

/-- A program that is debugged has the fate of the next attempt of a session with this code that has room for more. -/
theorem conducts_debug (hj : m.jobs[job]? = some ⟨mode, .running .debug x.language x.currentCode⟩)
    (hroom : x.nextIndex < x.maxAttempts) (ha : ρ.attempt s x calls = (result, fixed, calls'))
    (clock : Nat → Time.Stamp) (ticks : Nat) :
    ∃ k ticks' m', k ≤ 3 ∧ Conducts ρ clock s job k m (calls, ticks) m' (calls', ticks') ∧
      m.Reported m' job mode
        ⟨result, if result.succeeded then [] else Diagnostic.scan x.language result.errorSignal, fixed⟩ := by
  unfold Replies.attempt at ha
  dsimp only at ha
  split at ha
  next ho =>
    cases ha
    have hpassed := ho.resolve_right (Nat.not_le.2 hroom)
    obtain ⟨m', hconducts, hj', hr'⟩ := exists_conducts (ρ := ρ) (s := s) (e := (calls, ticks)) clock hj rfl
      (.passed hpassed)
    refine ⟨1, _, m', by omega, hconducts, ?_, hr'⟩
    rw [if_pos hpassed]
    exact hj'
  next hno =>
    have hfailed : (ρ.run (calls ++ [.run x.language x.currentCode])).succeeded = false := by
      simpa using fun hs ↦ hno (.inl hs)
    cases ha
    obtain ⟨m₁, hasked, hj₁, hr₁⟩ := exists_conducts (ρ := ρ) (s := s) (e := (calls, ticks)) clock hj rfl
      (.askedPrimary hfailed (by simp) (by simp))
    obtain ⟨k, ticks', m', hk, hconducts, hj', hr'⟩ := conducts_report hj₁ rfl clock (ticks + 1)
    refine ⟨k + 1, ticks', m', by omega, hasked.trans hconducts, ?_, hr'.trans hr₁⟩
    rw [if_neg (by simp [hfailed])]
    exact hj'

end Reports

/-- A request to debug a program is answered with a report. It leaves the register as it was. -/
def DebugRun (ρ : Replies) (clock : Nat → Time.Stamp) (s : Settings) (m : Machine) (name code : String) (bits : Nat)
    (e : List Call × Nat) (calls' : List Call) (report : Report) : Prop :=
  ∃ m' ticks', ((ρ.outside clock).serve s m (.debug name code) bits).run e =
      ((some (.ok (.report report)), m'), calls', ticks') ∧
    m'.registry = m.registry

def FirstStep (ρ : Replies) (clock : Nat → Time.Stamp) (s : Settings) (m : Machine) (name code : String)
    (max bits : Nat) (e : List Call × Nat) (calls' : List Call) (a : Attempt) : Prop :=
  ∃ opening m₁ e₁ m' ticks', ((ρ.outside clock).serve s m (.start name code (some max)) bits).run e =
      ((some (.ok (.summary opening)), m₁), e₁) ∧
    ((ρ.outside clock).serve s m₁ (.step opening.sessionId) 0).run e₁ =
      ((some (.ok (.attempt a)), m'), calls', ticks')

theorem exists_debugRun (hv : s.validate name code = .ok language) (hmax : 2 ≤ max) (id : String)
    (since : Time.Stamp) (ha : ρ.attempt s (.start id language code max since) calls = (result, fixed, calls'))
    (m : Machine) (clock : Nat → Time.Stamp) (bits ticks : Nat) :
    DebugRun ρ clock s m name code bits (calls, ticks) calls'
      ⟨result, if result.succeeded then [] else Diagnostic.scan language result.errorSignal, fixed⟩ := by
  have hstep := step_launches (.debug hv) m (clock ticks) bits
  have hj : (m.step s (clock ticks) (.arrive (.debug name code) bits)).jobs[m.jobs.length]? =
      some ⟨.paced, .running .debug language code⟩ := by
    rw [hstep]
    exact List.getElem?_concat_length
  have hroom : (Session.start id language code max since).nextIndex <
      (Session.start id language code max since).maxAttempts := hmax
  obtain ⟨k, ticks', m', hk, hconducts, hj', hr'⟩ := conducts_debug hj hroom ha clock (ticks + 1)
  have hpatience : 3 ≤ Outside.patience := by decide
  refine ⟨m', ticks', serve_of_conducts (e := (calls, ticks)) (hk.trans hpatience) hconducts hj', ?_⟩
  rw [hr', hstep]
  rfl

theorem exists_firstStep (hm : m.Kept s) (hv : s.validate name code = .ok language)
    (hr : s.resolveMaxAttempts (some max) = .ok max) (hceiling : max ≤ maxAttemptsCeiling)
    (hroom : m.registry.pacedCount < s.config.retry.maxSessions) (clock : Nat → Time.Stamp) (bits ticks : Nat)
    (ha : ρ.attempt s (.start (SessionKey.ofBits bits) language code max (clock ticks)) calls =
      (result, fixed, calls')) :
    ∃ since, FirstStep ρ clock s m name code max bits (calls, ticks) calls'
      ((Session.start (SessionKey.ofBits bits) language code max (clock ticks)).nextAttempt since result fixed) := by
  obtain ⟨hmin, -⟩ := Settings.resolveMaxAttempts_eq_ok hr
  obtain ⟨hj, hadds⟩ := step_adds hm hmin hceiling (.start hv hr) (fun _ ↦ hroom) (clock ticks) bits
  have hopened := serve_answered (ρ := ρ) (e := (calls, ticks)) hj
  obtain ⟨since, now, ticks', m', hserved, -⟩ :=
    serve_step hadds (SessionKey.normalize_ofBits bits) rfl ha clock (ticks + 1) 0
  exact ⟨since, _, _, _, m', ticks', hopened, hserved⟩

/-- Debugging a program makes the calls of the first step of a session for it, and reports what that step records. -/
theorem debug_agrees_with_first_step (s : Settings) (hs : s.config.validate = .ok ())
    (before : List (Time.Stamp × Action)) (ρ : Replies) (clock clock' : Nat → Time.Stamp) (calls : List Call)
    (ticks ticks' bits bits' max : Nat) (name code : String) (language : Language)
    (hv : s.validate name code = .ok language) (hmin : 2 ≤ max) (hmax : max ≤ s.config.retry.maxAttemptsLimit)
    (hroom : ((start s).run s before).registry.pacedCount < s.config.retry.maxSessions) :
    let m := (start s).run s before
    ∃ calls' report a, DebugRun ρ clock s m name code bits (calls, ticks) calls' report ∧
      FirstStep ρ clock' s m name code max bits' (calls, ticks') calls' a ∧
      report.result = a.result ∧ report.diagnostics = a.diagnostics ∧ report.fix = a.fix := by
  intro m
  have hceiling := hmax.trans (Settings.limit_le_ceiling hs)
  have hr : s.resolveMaxAttempts (some max) = .ok max := if_pos ⟨Nat.le_of_succ_le hmin, hmax⟩
  rcases ha : ρ.attempt s (.start (SessionKey.ofBits bits') language code max (clock' ticks')) calls with
    ⟨result, fixed, calls₁⟩
  have hdebug := exists_debugRun hv hmin _ _ ha m clock bits ticks
  obtain ⟨since, hfirst⟩ := exists_firstStep (kept s before) hv hr hceiling hroom clock' bits' ticks' ha
  exact ⟨calls₁, _, _, hdebug, hfirst, rfl, rfl, rfl⟩

theorem debug_agrees_with_first_step_mends :
    let m := (start .plain).run .plain mingling
    let clock (n : Nat) : Time.Stamp := ⟨n, 0⟩
    Settings.plain.config.validate = .ok () ∧ Settings.plain.validate "python" "print(1" = .ok .python ∧
      2 ≤ Settings.plain.config.retry.maxAttemptsLimit ∧
      m.registry.pacedCount < Settings.plain.config.retry.maxSessions ∧
      ∃ calls' report a, DebugRun mends clock .plain m "python" "print(1" 8 ([], 0) calls' report ∧
        FirstStep mends clock .plain m "python" "print(1" 2 9 ([], 9) calls' a ∧ report.fix = a.fix := by
  intro m clock
  have hs : Settings.plain.config.validate = .ok () := by decide +kernel
  have hv : Settings.plain.validate "python" "print(1" = .ok .python := by decide +kernel
  have hlimit : 2 ≤ Settings.plain.config.retry.maxAttemptsLimit := by decide +kernel
  have hroom : m.registry.pacedCount < Settings.plain.config.retry.maxSessions := by decide +kernel
  obtain ⟨calls', report, a, hdebug, hfirst, -, -, hfix⟩ := debug_agrees_with_first_step .plain hs mingling mends
    clock clock [] 0 9 8 9 2 "python" "print(1" .python hv (by decide) hlimit hroom
  exact ⟨hs, hv, hlimit, hroom, calls', report, a, hdebug, hfirst, hfix⟩

end CodeRepair.Machine
