import CodeRepair.Proofs.Session.Log
import CodeRepair.Service.Machine

/-!
The course of one session, seen by itself: its record, its token, the attempt that is under way and the calls made
for it. However its drivers take turns, a course moves in few ways, and by these its log, its state and its calls
always fit together.
-/
namespace CodeRepair

def Attempt.calls (s : Settings) (language : Language) (a : Attempt) : List Call :=
  .run language a.codeUsed ::
    match a.fix with
    | none => []
    | some fix =>
      .ask .primary language a.codeUsed a.result.errorSignal ::
        if fix.provenance ≠ .primary ∧ s.fallback.isSome then
          [.ask .fallback language a.codeUsed a.result.errorSignal]
        else []

/-- An attempt that is under way. -/
inductive Flight
  | running (since : Time.Stamp)
  | askingPrimary (since : Time.Stamp) (result : ExecutionResult)
  | askingFallback (since : Time.Stamp) (result : ExecutionResult) (problem : String)

namespace Flight

def failure (place : Nat) (x : Session) (since : Time.Stamp) (result : ExecutionResult) : Failure :=
  ⟨.attempt place x.nextIndex x.maxAttempts since, x.language, x.currentCode, result,
    Diagnostic.scan x.language result.errorSignal⟩

/-- Where the job stands that makes the attempt. -/
def phase (place : Nat) (x : Session) : Flight → Phase
  | .running since => .running (.attempt place x.nextIndex x.maxAttempts since) x.language x.currentCode
  | .askingPrimary since result => .askingPrimary (failure place x since result)
  | .askingFallback since result problem => .askingFallback (failure place x since result) problem

def calls (x : Session) : Flight → List Call
  | .running _ => [.run x.language x.currentCode]
  | .askingPrimary _ result =>
    [.run x.language x.currentCode, .ask .primary x.language x.currentCode result.errorSignal]
  | .askingFallback _ result _ =>
    [.run x.language x.currentCode, .ask .primary x.language x.currentCode result.errorSignal,
      .ask .fallback x.language x.currentCode result.errorSignal]

/-- A fix is asked for after a failed run only, while another attempt may follow, and of the fallback if there is
one. -/
def Fits (s : Settings) (x : Session) : Flight → Prop
  | .running _ => True
  | .askingPrimary _ result => result.succeeded = false ∧ x.nextIndex < x.maxAttempts
  | .askingFallback _ result _ =>
    result.succeeded = false ∧ x.nextIndex < x.maxAttempts ∧ s.fallback.isSome = true

inductive Ends (s : Settings) (x : Session) : Flight → Time.Stamp → ExecutionResult → Option Fix → Prop
  | unasked {since : Time.Stamp} {result : ExecutionResult} :
      result.succeeded = true ∨ x.maxAttempts ≤ x.nextIndex → Ends s x (.running since) since result none
  | byPrimary {since : Time.Stamp} {result : ExecutionResult} {answer : Answered} {fix : Fix} :
      s.pipeline.afterPrimary answer = .settled fix → Ends s x (.askingPrimary since result) since result (some fix)
  | byFallback {since : Time.Stamp} {result : ExecutionResult} {problem : String} (answer : Answered) :
      Ends s x (.askingFallback since result problem) since result (some (s.pipeline.afterFallback problem answer))

end Flight

/-- A session with what happens to it. -/
structure Course where
  session : Session
  /-- Whether its token is cancelled, by itself or through its caller. -/
  cancelled : Bool
  flight : Option Flight
  calls : List Call

namespace Course

variable {s : Settings} {now : Time.Stamp} {x y : Course}

inductive Step (s : Settings) (now : Time.Stamp) : Course → Course → Prop
  | stay (x : Course) : Step s now x x
  | cancel (x : Course) : Step s now x { x with cancelled := true }
  | giveUp {x : Course} : x.flight = none → x.session.state = .running → x.cancelled = true →
      Step s now x { x with session := x.session.finish .cancelled now }
  | enter {x : Course} : x.flight = none → x.session.state = .running → x.cancelled = false →
      Step s now x
        { x with
          flight := some (.running now)
          calls := x.calls ++ [.run x.session.language x.session.currentCode] }
  | askPrimary {x : Course} {since : Time.Stamp} {result : ExecutionResult} : x.flight = some (.running since) →
      result.succeeded = false → x.session.nextIndex < x.session.maxAttempts →
      Step s now x
        { x with
          flight := some (.askingPrimary since result)
          calls := x.calls ++ [.ask .primary x.session.language x.session.currentCode result.errorSignal] }
  | askFallback {x : Course} {since : Time.Stamp} {result : ExecutionResult} {answer : Answered} {problem : String} :
      x.flight = some (.askingPrimary since result) → s.pipeline.afterPrimary answer = .askFallback problem →
      Step s now x
        { x with
          flight := some (.askingFallback since result problem)
          calls := x.calls ++ [.ask .fallback x.session.language x.session.currentCode result.errorSignal] }
  | land {x : Course} {f : Flight} {since : Time.Stamp} {result : ExecutionResult} {fix : Option Fix} :
      x.flight = some f → f.Ends s x.session since result fix →
      Step s now x
        { x with
          flight := none
          session := x.session.extend s.config.retry.onNoFix (x.session.nextAttempt since result fix) now }

/-- The session, the attempt under way and the calls of a course fit together. -/
structure Sound (s : Settings) (x : Course) : Prop where
  session : x.session.Sound s.config.retry.onNoFix
  cancelled : x.session.state = .cancelled → x.cancelled = true
  flight : ∀ f, x.flight = some f → x.session.state = .running ∧ f.Fits s x.session
  calls : x.calls =
    x.session.attempts.flatMap (Attempt.calls s x.session.language) ++
      (x.flight.map (Flight.calls x.session)).getD []

theorem Sound.flight_of_over (h : x.Sound s) (hover : x.session.state ≠ .running) : x.flight = none := by
  cases hf : x.flight with
  | none => rfl
  | some f => exact absurd (h.flight f hf).1 hover

theorem Sound.calls_of_landed (h : x.Sound s) (hf : x.flight = none) :
    x.calls = x.session.attempts.flatMap (Attempt.calls s x.session.language) := by
  simpa [hf] using h.calls

theorem faithful_of_ends {x : Session} {f : Flight} {since : Time.Stamp} {result : ExecutionResult}
    {fix : Option Fix} (hf : f.Fits s x) (he : f.Ends s x since result fix) :
    (x.nextAttempt since result fix).Faithful x.language x.maxAttempts := by
  cases he with
  | unasked h =>
    refine Session.Sound.nextAttempt_faithful s.gate x since ⟨by simp, fun hrl ↦ ?_⟩ (by simp)
    obtain ⟨hr, hl⟩ := hrl
    rcases h with h | h
    · rw [hr] at h; cases h
    · omega
  | byPrimary h =>
    refine Session.Sound.nextAttempt_faithful s.gate x since ⟨fun _ ↦ hf, fun _ ↦ rfl⟩ fun f hfix ↦ ?_
    cases hfix
    exact (Pipeline.afterPrimary_eq_settled h).1
  | byFallback answer =>
    refine Session.Sound.nextAttempt_faithful s.gate x since ⟨fun _ ↦ ⟨hf.1, hf.2.1⟩, fun _ ↦ rfl⟩ fun f hfix ↦ ?_
    cases hfix
    exact s.pipeline.afterFallback_vetted _ answer

theorem calls_of_ends {x : Session} {f : Flight} {since : Time.Stamp} {result : ExecutionResult}
    {fix : Option Fix} (hf : f.Fits s x) (he : f.Ends s x since result fix) :
    (x.nextAttempt since result fix).calls s x.language = f.calls x := by
  cases he with
  | unasked h => rfl
  | @byPrimary since result answer fix h =>
    have hnone : ¬ (fix.provenance ≠ .primary ∧ s.fallback.isSome = true) := by
      rcases (Pipeline.afterPrimary_eq_settled h).2 with hp | hn
      · simp [hp]
      · have : s.fallback = none := hn
        simp [this]
    simp [Attempt.calls, Session.nextAttempt, Flight.calls, hnone]
  | @byFallback since result problem answer =>
    have hp := Pipeline.afterFallback_provenance s.pipeline problem answer
    simp [Attempt.calls, Session.nextAttempt, Flight.calls, hp, hf.2.2]

theorem sound_step (h : x.Sound s) (hs : Step s now x y) : y.Sound s := by
  cases hs with
  | stay => exact h
  | cancel => exact ⟨h.session, fun _ ↦ rfl, h.flight, h.calls⟩
  | giveUp hf hr hc =>
    refine ⟨h.session.finish hr now, fun _ ↦ hc, fun f hf' ↦ ?_, ?_⟩
    · rw [hf] at hf'; cases hf'
    · have := h.calls
      rw [Session.finish_of_running _ _ hr]
      simpa [hf] using this
  | enter hf hr hc =>
    refine ⟨h.session, h.cancelled, fun f hf' ↦ ?_, ?_⟩
    · cases hf'; exact ⟨hr, trivial⟩
    · have := h.calls
      simp [this, hf, Flight.calls]
  | askPrimary hf hr hl =>
    have hcalls := h.calls
    refine ⟨h.session, h.cancelled, fun f hf' ↦ ?_, ?_⟩
    · cases hf'; exact ⟨(h.flight _ hf).1, hr, hl⟩
    · simp [hcalls, hf, Flight.calls]
  | askFallback hf ha =>
    have hcalls := h.calls
    obtain ⟨hrun, hr, hl⟩ := h.flight _ hf
    refine ⟨h.session, h.cancelled, fun f hf' ↦ ?_, ?_⟩
    · cases hf'; exact ⟨hrun, hr, hl, (Pipeline.afterPrimary_eq_askFallback ha).1⟩
    · simp [hcalls, hf, Flight.calls]
  | @land f since result fix hf he =>
    obtain ⟨hrun, hfits⟩ := h.flight _ hf
    have hsound := h.session.extend hrun now (faithful_of_ends hfits he)
    refine ⟨hsound, fun hc ↦ ?_, by simp, ?_⟩
    · have hd := hsound.undecided_iff.2 (.inr hc)
      rw [Session.extend_of_running _ _ hrun rfl] at hc hd
      have ho : (x.session.nextAttempt since result fix).outcome s.config.retry.onNoFix = none := by
        simpa [Session.decision] using hd
      simp [ho] at hc
    · have hcalls := h.calls
      rw [Session.extend_of_running _ _ hrun rfl]
      simp [hcalls, hf, calls_of_ends hfits he]

inductive Reached (s : Settings) : Course → Prop
  | opened (id : String) (language : Language) (code : String) (max : Nat) (now : Time.Stamp) (cancelled : Bool) :
      1 ≤ max → max ≤ maxAttemptsCeiling →
      Reached s ⟨Session.start id language code max now, cancelled, none, []⟩
  | step {x y : Course} {now : Time.Stamp} : Reached s x → Step s now x y → Reached s y

theorem Reached.sound (h : Reached s x) : x.Sound s := by
  induction h with
  | opened id language code max now cancelled hmin hmax =>
    exact ⟨Session.Sound.start _ id language code now hmin, by simp [Session.start], by simp, by simp [Session.start]⟩
  | step _ hs ih => exact sound_step ih hs

inductive Leads (s : Settings) (x : Course) : Course → Prop
  | refl : Leads s x x
  | step {y z : Course} {now : Time.Stamp} : Leads s x y → Step s now y z → Leads s x z

theorem Sound.leads (hx : x.Sound s) (hl : Leads s x y) : y.Sound s := by
  induction hl with
  | refl => exact hx
  | step _ hs ih => exact sound_step ih hs

theorem Step.cancelled (hs : Step s now x y) (hc : x.cancelled = true) : y.cancelled = true := by
  cases hs <;> first | exact hc | rfl

theorem Leads.cancelled (hl : Leads s x y) (hc : x.cancelled = true) : y.cancelled = true := by
  induction hl with
  | refl => exact hc
  | step _ hs ih => exact hs.cancelled ih

/-- Without an attempt under way, a cancelled session may be given up, and that is all. -/
theorem Step.closed (hs : Step s now x y) (hc : x.cancelled = true) (hf : x.flight = none) :
    y.flight = none ∧ y.calls = x.calls ∧ x.session.GivesUp y.session := by
  cases hs with
  | stay | cancel => exact ⟨hf, rfl, .inl rfl⟩
  | giveUp _ hr _ => exact ⟨hf, rfl, .inr ⟨hr, now, rfl⟩⟩
  | enter _ _ hn => rw [hc] at hn; cases hn
  | askPrimary h | askFallback h | land h => rw [hf] at h; cases h

/-- An attempt that waits for the primary goes on waiting, waits for the fallback, or is recorded. -/
theorem Step.of_askingPrimary (hs : Step s now x y) {since : Time.Stamp} {result : ExecutionResult}
    (hf : x.flight = some (.askingPrimary since result)) :
    (y.flight = x.flight ∧ y.session = x.session) ∨
      (∃ problem, y.flight = some (.askingFallback since result problem) ∧ y.session = x.session) ∨
      y.flight = none := by
  cases hs with
  | stay | cancel => exact .inl ⟨rfl, rfl⟩
  | giveUp hn | enter hn | askPrimary hn => rw [hf] at hn; cases hn
  | askFallback hn =>
    rw [hf] at hn
    cases hn
    exact .inr (.inl ⟨_, rfl, rfl⟩)
  | land => exact .inr (.inr rfl)

theorem Leads.closed (hl : Leads s x y) (hc : x.cancelled = true) (hf : x.flight = none) :
    y.flight = none ∧ y.calls = x.calls ∧ x.session.GivesUp y.session := by
  induction hl with
  | refl => exact ⟨hf, rfl, .inl rfl⟩
  | step hl hs ih =>
    obtain ⟨hf', hcalls, hg⟩ := ih
    obtain ⟨hf'', hcalls', hg'⟩ := hs.closed (hl.cancelled hc) hf'
    exact ⟨hf'', hcalls'.trans hcalls, hg.trans hg'⟩

/-- An attempt under way is carried to its end and recorded, whatever else happens; then a cancelled session has no
other. -/
theorem Leads.carried (hl : Leads s x y) (hx : x.Sound s) (hc : x.cancelled = true) {f : Flight}
    (hf : x.flight = some f) :
    (y.flight.isSome = true ∧ y.session = x.session) ∨
      y.flight = none ∧ ∃ a : Attempt, a.Faithful x.session.language x.session.maxAttempts ∧
        a.index = x.session.nextIndex ∧ a.codeUsed = x.session.currentCode ∧
        y.session.attempts = x.session.attempts ++ [a] := by
  induction hl with
  | refl => exact .inl ⟨by rw [hf]; rfl, rfl⟩
  | @step y z now hl hs ih =>
    have hc' := hl.cancelled hc
    rcases ih with ⟨hf', hsame⟩ | ⟨hf', a, ha, hi, hcode, hadd⟩
    · cases hs with
      | stay | cancel => exact .inl ⟨hf', hsame⟩
      | giveUp h | enter h => rw [h] at hf'; cases hf'
      | askPrimary | askFallback => exact .inl ⟨rfl, hsame⟩
      | @land f' since result fix h he =>
        obtain ⟨hrun, hfits⟩ := (hx.leads hl).flight _ h
        have hfaith := faithful_of_ends hfits he
        rw [hsame] at hfaith hrun ⊢
        refine .inr ⟨rfl, x.session.nextAttempt since result fix, hfaith, rfl, rfl, ?_⟩
        rw [Session.extend_of_running _ _ hrun rfl]
    · obtain ⟨hf'', -, hg⟩ := hs.closed hc' hf'
      exact .inr ⟨hf'', a, ha, hi, hcode, hg.attempts.trans hadd⟩

theorem Leads.complete (hl : Leads s x y) (hx : x.Sound s) (hc : x.session.state ≠ .running) :
    y.session = x.session := by
  induction hl with
  | refl => rfl
  | step hl hs ih =>
    have hsound := hx.leads hl
    rw [← ih] at hc ⊢
    cases hs with
    | giveUp _ hr _ => exact absurd hr hc
    | land h _ => exact absurd (hsound.flight _ h).1 hc
    | _ => rfl

end Course

end CodeRepair
