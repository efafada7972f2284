import CodeRepair.Proofs.Service.Fairness
import CodeRepair.Service.Conduct

/-!
A session played to its end by itself, against an outside whose replies follow from the calls made of it. Two plays
from the same code, at other times and under other ids, make the same calls and the same attempts.
-/
namespace CodeRepair

def Attempt.untimed (a : Attempt) : Attempt := { a with timestamp := default }

/-- A session without its id and its times. -/
def Session.untimed (x : Session) : Session :=
  { x with id := "", attempts := x.attempts.map Attempt.untimed, startedAt := default, finishedAt := none }

def Summary.untimed (sum : Summary) : Summary :=
  { sum with
    sessionId := "", startedAt := default, elapsedSeconds := 0, attempts := sum.attempts.map Attempt.untimed }

/-- An outside that replies to each call by what has been called so far, with this call at the end. -/
structure Replies where
  run : List Call → ExecutionResult
  ask : List Call → Answered

namespace Replies

/-- The outside that gives these replies. It keeps the calls, and its clock goes on whenever it is looked at. -/
def outside (ρ : Replies) (clock : Nat → Time.Stamp) : Outside (StateM (List Call × Nat)) where
  run language code := modifyGet fun (calls, ticks) ↦
    let calls := calls ++ [.run language code]
    (ρ.run calls, calls, ticks)
  ask role language code error := modifyGet fun (calls, ticks) ↦
    let calls := calls ++ [.ask role language code error]
    (ρ.ask calls, calls, ticks)
  now := modifyGet fun (calls, ticks) ↦ (clock ticks, calls, ticks + 1)

def fix (ρ : Replies) (s : Settings) (x : Session) (result : ExecutionResult) (calls : List Call) : Fix × List Call :=
  let asked := calls ++ [.ask .primary x.language x.currentCode result.errorSignal]
  match s.pipeline.afterPrimary (ρ.ask asked) with
  | .settled fix => (fix, asked)
  | .askFallback problem =>
    let relayed := asked ++ [.ask .fallback x.language x.currentCode result.errorSignal]
    (s.pipeline.afterFallback problem (ρ.ask relayed), relayed)

/-- What comes of the next attempt of a session: its result, its fix, and the calls made when it is over. -/
def attempt (ρ : Replies) (s : Settings) (x : Session) (calls : List Call) :
    ExecutionResult × Option Fix × List Call :=
  let ran := calls ++ [.run x.language x.currentCode]
  let result := ρ.run ran
  if result.succeeded ∨ x.maxAttempts ≤ x.nextIndex then (result, none, ran)
  else
    let (fix, asked) := ρ.fix s x result ran
    (result, some fix, asked)

/-- A session is played to its end, one attempt after the other, whatever the time. -/
inductive Plays (ρ : Replies) (s : Settings) : Session → List Call → Session → List Call → Prop
  | done {x : Session} {calls : List Call} : x.isComplete = true → Plays ρ s x calls x calls
  | attempt {x y : Session} {calls calls₁ calls' : List Call} {result : ExecutionResult} {fix : Option Fix}
      (since now : Time.Stamp) : x.state = .running → ρ.attempt s x calls = (result, fix, calls₁) →
      Plays ρ s (x.extend s.config.retry.onNoFix (x.nextAttempt since result fix) now) calls₁ y calls' →
      Plays ρ s x calls y calls'

end Replies

namespace Session

variable {x y : Session}

theorem summary_untimed (hxy : x.untimed = y.untimed) (now now' : Time.Stamp) :
    (x.summary now).untimed = (y.summary now').untimed := by
  have hsummary (z : Session) (now : Time.Stamp) : (z.summary now).untimed = (z.untimed.summary default).untimed := by
    simp [summary, untimed, Summary.untimed, Attempt.untimed, isComplete, succeeded]
    rfl
  calc (x.summary now).untimed = (x.untimed.summary default).untimed := hsummary x now
    _ = (y.untimed.summary default).untimed := by rw [hxy]
    _ = (y.summary now').untimed := (hsummary y now').symm

theorem extend_untimed (policy : NoFixPolicy) (since now : Time.Stamp) (result : ExecutionResult) (fix : Option Fix)
    (hr : x.state = .running) :
    (x.extend policy (x.nextAttempt since result fix) now).untimed =
      (x.untimed.extend policy (x.untimed.nextAttempt default result fix) default).untimed := by
  have hr' : x.untimed.state = .running := hr
  have houtcome : (x.untimed.nextAttempt default result fix).outcome policy =
      (x.nextAttempt since result fix).outcome policy := rfl
  have hcode : (x.untimed.nextAttempt default result fix).nextCode = (x.nextAttempt since result fix).nextCode := rfl
  rw [extend_of_running policy now hr rfl, extend_of_running policy default hr' rfl, houtcome, hcode]
  simp [untimed, nextAttempt, nextIndex, Attempt.untimed]

/-- A session that was not given up, and has room for an attempt while it runs. -/
structure Playable (x : Session) : Prop where
  kept : x.state ≠ .cancelled
  room : x.state = .running → x.attempts.length < x.maxAttempts

theorem Playable.start {max : Nat} (id : String) (language : Language) (code : String) (hmin : 1 ≤ max)
    (now : Time.Stamp) : (Session.start id language code max now).Playable where
  kept := by simp [Session.start]
  room _ := hmin

theorem room_extend (hroom : 1 ≤ x.room) (policy : NoFixPolicy) (a : Attempt) (now : Time.Stamp) :
    (x.extend policy a now).room + 1 = x.room := by
  unfold room at hroom ⊢
  rw [extend_maxAttempts, extend_attempts, List.length_append, List.length_singleton]
  omega

theorem Playable.running_or_complete (hx : x.Playable) : x.isComplete = true ∨ x.state = .running ∧ 1 ≤ x.room := by
  cases hc : x.isComplete with
  | true => exact .inl rfl
  | false =>
    have hr := (isComplete_eq_false_iff x).1 hc
    have hlt := hx.room hr
    exact .inr ⟨hr, by unfold Session.room; omega⟩

end Session

namespace Replies

variable {ρ : Replies} {s : Settings} {x y x' y' : Session} {calls calls' calls'' : List Call}
  {result : ExecutionResult} {fix : Option Fix}

theorem attempt_untimed (ρ : Replies) (s : Settings) (x : Session) (calls : List Call) :
    ρ.attempt s x.untimed calls = ρ.attempt s x calls := by
  have hindex : x.untimed.nextIndex = x.nextIndex := by simp [Session.untimed, Session.nextIndex]
  unfold attempt
  rw [hindex]
  rfl

theorem attempt_fix (ha : ρ.attempt s x calls = (result, fix, calls')) (hf : fix.isSome = true) :
    x.nextIndex < x.maxAttempts := by
  unfold attempt at ha
  dsimp only at ha
  split at ha
  · cases ha
    cases hf
  next hno =>
    by_contra hle
    exact hno (.inr (Nat.not_lt.1 hle))

theorem playable_extend (hr : x.state = .running) (ha : ρ.attempt s x calls = (result, fix, calls'))
    (policy : NoFixPolicy) (since now : Time.Stamp) :
    (x.extend policy (x.nextAttempt since result fix) now).Playable := by
  rw [Session.extend_of_running policy now hr rfl]
  constructor
  · cases ho : (x.nextAttempt since result fix).outcome policy with
    | none => simp
    | some st => exact (Attempt.outcome_ne_open ho).2
  · intro hstate
    cases ho : (x.nextAttempt since result fix).outcome policy with
    | none =>
      obtain ⟨-, f, hf, -⟩ := Attempt.outcome_eq_none_iff.1 ho
      have hlt := attempt_fix ha (by rw [show fix = some f from hf]; rfl)
      simpa [Session.nextIndex] using hlt
    | some st =>
      have hst : st = .running := by simpa [ho] using hstate
      exact absurd hst (Attempt.outcome_ne_open ho).1

theorem Plays.complete (hp : ρ.Plays s x calls y calls') : y.isComplete = true := by
  induction hp with
  | done hc => exact hc
  | attempt _ _ _ _ _ ih => exact ih

theorem Plays.id (hp : ρ.Plays s x calls y calls') : y.id = x.id := by
  induction hp with
  | done => rfl
  | attempt _ _ _ _ _ ih => exact ih.trans (Session.extend_id _ _ _ _)

/-- How a play ends follows from the session and the calls at its start, whatever its id and its times. -/
theorem Plays.agree (hp : ρ.Plays s x calls y calls') (hp' : ρ.Plays s x' calls y' calls'')
    (hxx : x.untimed = x'.untimed) : calls' = calls'' ∧ y.untimed = y'.untimed := by
  have hstate {x x' : Session} (hxx : x.untimed = x'.untimed) : x.state = x'.state := by
    calc x.state = x.untimed.state := rfl
      _ = x'.untimed.state := by rw [hxx]
      _ = x'.state := rfl
  induction hp generalizing x' with
  | done hc =>
    cases hp' with
    | done => exact ⟨rfl, hxx⟩
    | attempt _ _ hr => exact absurd (hstate hxx ▸ hr) ((Session.isComplete_iff _).1 hc)
  | @attempt x y calls calls₁ calls' result fix since now hr ha _ ih =>
    cases hp' with
    | done hc => exact absurd (hstate hxx ▸ hr) ((Session.isComplete_iff _).1 hc)
    | attempt since' now' hr' ha' hrest =>
      rw [← attempt_untimed, ← hxx, attempt_untimed, ha] at ha'
      cases ha'
      refine ih hrest ?_
      rw [Session.extend_untimed _ _ _ _ _ hr, Session.extend_untimed _ _ _ _ _ hr', hxx]

end Replies

end CodeRepair
