import CodeRepair.Proofs.Service.Transition

/-!
What each request for a session does when it arrives, as an equation: how its job is answered or where it waits, and
the register after it.
-/
namespace CodeRepair

def Request.asksSession : Request → Bool
  | .run .. | .start .. | .runChecked .. | .startChecked .. => true
  | _ => false

namespace Machine

variable {s : Settings} {m : Machine} {now : Time.Stamp} {bits : Nat} {request : Request} {mode : Mode}
  {caller : Option Nat} {language : Language} {code text name : String} {asked : Option Nat} {max place : Nat}
  {h : Handle} {r : Registry} {e : SessionError} {refusal : RequestError}

def replied (m : Machine) (mode : Mode) (answer : Answer) : Machine :=
  m.arrived mode (.answered answer) m.registry m.calls

section Opening

theorem register_ok (hmin : 1 ≤ max) (hmax : max ≤ maxAttemptsCeiling)
    (hi : m.registry.insert (.start (SessionKey.ofBits bits) language code max now) mode caller = .ok (place, r))
    (jobs : List Job) :
    register { m with jobs := jobs } now bits mode caller language code max =
      .ok (place, .start (SessionKey.ofBits bits) language code max now, { m with jobs := jobs, registry := r }) := by
  have hwithin : ¬ (max < 1 ∨ maxAttemptsCeiling < max) := by omega
  simp only [register, if_neg hwithin, hi, bind, Except.bind]
  rfl

theorem register_error (hmin : 1 ≤ max) (hmax : max ≤ maxAttemptsCeiling)
    (hi : m.registry.insert (.start (SessionKey.ofBits bits) language code max now) mode caller = .error e)
    (jobs : List Job) : register { m with jobs := jobs } now bits mode caller language code max = .error e := by
  have hwithin : ¬ (max < 1 ∨ maxAttemptsCeiling < max) := by omega
  simp only [register, if_neg hwithin, hi, bind, Except.bind]

theorem register_overBudget (hover : max < 1 ∨ maxAttemptsCeiling < max) (m : Machine) (now : Time.Stamp) (bits : Nat)
    (mode : Mode) (caller : Option Nat) (language : Language) (code : String) :
    m.register now bits mode caller language code max =
      .error (.request (.invalidMaxAttempts max maxAttemptsCeiling)) := by
  simp only [register, if_pos hover]
  rfl

theorem step_opens (ho : Opens s request mode caller language code max) (m : Machine) (now : Time.Stamp)
    (bits : Nat) :
    m.step s now (.arrive request bits) =
      match mode with
      | .batch =>
        startBatch { m with jobs := m.jobs ++ [⟨.batch, .answered (.error default)⟩] } now m.jobs.length bits caller
          language code max
      | .paced =>
        startPaced { m with jobs := m.jobs ++ [⟨.paced, .answered (.error default)⟩] } now m.jobs.length bits
          language code max := by
  simp only [step]
  delta begin
  cases ho with
  | run hv hr | start hv hr =>
    simp only [hv, hr]
    rfl
  | runChecked | startChecked => rfl

theorem Opens.caller_of_paced (ho : Opens s request .paced caller language code max) : caller = none := by
  cases ho <;> rfl

theorem step_opened (ho : Opens s request mode caller language code max) (hmin : 1 ≤ max)
    (hmax : max ≤ maxAttemptsCeiling)
    (hi : m.registry.insert (.start (SessionKey.ofBits bits) language code max now) mode caller = .ok (place, r)) :
    m.step s now (.arrive request bits) =
      m.arrived mode
        (openedPhase place ((Session.start (SessionKey.ofBits bits) language code max now).summary now) mode)
        r m.calls := by
  rw [step_opens ho]
  cases mode with
  | batch =>
    simp only [startBatch]
    rw [register_ok hmin hmax hi]
    simp only [setPhase, arrived, openedPhase, Places.modify_concat]
  | paced =>
    rw [ho.caller_of_paced] at hi
    simp only [startPaced]
    rw [register_ok hmin hmax hi]
    simp only [conclude, setPhase, arrived, openedPhase, Places.modify_concat]

theorem step_unopened (ho : Opens s request mode caller language code max) (hmin : 1 ≤ max)
    (hmax : max ≤ maxAttemptsCeiling)
    (hi : m.registry.insert (.start (SessionKey.ofBits bits) language code max now) mode caller = .error e) :
    m.step s now (.arrive request bits) = m.replied mode (.error e) := by
  rw [step_opens ho]
  cases mode with
  | batch =>
    simp only [startBatch]
    rw [register_error hmin hmax hi]
    exact conclude_arriving m _ _ _
  | paced =>
    rw [ho.caller_of_paced] at hi
    simp only [startPaced]
    rw [register_error hmin hmax hi]
    exact conclude_arriving m _ _ _

theorem step_overBudget (ho : Opens s request mode caller language code max)
    (hover : max < 1 ∨ maxAttemptsCeiling < max) (m : Machine) (now : Time.Stamp) (bits : Nat) :
    m.step s now (.arrive request bits) =
      m.replied mode (.error (.request (.invalidMaxAttempts max maxAttemptsCeiling))) := by
  rw [step_opens ho]
  cases mode with
  | batch =>
    simp only [startBatch]
    rw [register_overBudget hover]
    exact conclude_arriving m _ _ _
  | paced =>
    simp only [startPaced]
    rw [register_overBudget hover]
    exact conclude_arriving m _ _ _

end Opening

section Refused

theorem step_run_refused (hv : s.validate name code = .error refusal ∨
      (∃ language, s.validate name code = .ok language) ∧ s.resolveMaxAttempts asked = .error refusal)
    (m : Machine) (now : Time.Stamp) (bits : Nat) (caller : Option Nat) :
    m.step s now (.arrive (.run name code asked caller) bits) = m.replied .batch (.error (.request refusal)) := by
  simp only [step]
  delta begin
  rcases hv with hv | ⟨⟨language, hv⟩, hr⟩
  · simp only [hv]
    exact conclude_arriving m _ _ _
  · simp only [hv, hr]
    exact conclude_arriving m _ _ _

theorem step_start_refused (hv : s.validate name code = .error refusal ∨
      (∃ language, s.validate name code = .ok language) ∧ s.resolveMaxAttempts asked = .error refusal)
    (m : Machine) (now : Time.Stamp) (bits : Nat) :
    m.step s now (.arrive (.start name code asked) bits) = m.replied .paced (.error (.request refusal)) := by
  simp only [step]
  delta begin
  rcases hv with hv | ⟨⟨language, hv⟩, hr⟩
  · simp only [hv]
    exact conclude_arriving m _ _ _
  · simp only [hv, hr]
    exact conclude_arriving m _ _ _

theorem refused_or_opens (hr : request.asksSession = true) (s : Settings) (m : Machine) (now : Time.Stamp)
    (bits : Nat) :
    (∃ mode e, m.step s now (.arrive request bits) = m.replied mode (.error e)) ∨
      ∃ mode caller language code max, Opens s request mode caller language code max ∧ 1 ≤ max ∧
        max ≤ maxAttemptsCeiling := by
  have within {mode caller language code max} (ho : Opens s request mode caller language code max) :
      (∃ mode e, m.step s now (.arrive request bits) = m.replied mode (.error e)) ∨
        ∃ mode caller language code max, Opens s request mode caller language code max ∧ 1 ≤ max ∧
          max ≤ maxAttemptsCeiling := by
    by_cases hover : max < 1 ∨ maxAttemptsCeiling < max
    · exact .inl ⟨_, _, step_overBudget ho hover m now bits⟩
    · exact .inr ⟨_, _, _, _, _, ho, by omega, by omega⟩
  cases request with
  | run name code asked caller =>
    cases hv : s.validate name code with
    | error refusal => exact .inl ⟨_, _, step_run_refused (.inl hv) m now bits caller⟩
    | ok language =>
      cases hm : s.resolveMaxAttempts asked with
      | error refusal => exact .inl ⟨_, _, step_run_refused (.inr ⟨⟨_, hv⟩, hm⟩) m now bits caller⟩
      | ok max => exact within (.run hv hm)
  | start name code asked =>
    cases hv : s.validate name code with
    | error refusal => exact .inl ⟨_, _, step_start_refused (.inl hv) m now bits⟩
    | ok language =>
      cases hm : s.resolveMaxAttempts asked with
      | error refusal => exact .inl ⟨_, _, step_start_refused (.inr ⟨⟨_, hv⟩, hm⟩) m now bits⟩
      | ok max => exact within (.start hv hm)
  | runChecked language code max caller => exact within (.runChecked language code max caller)
  | startChecked language code max => exact within (.startChecked language code max)
  | _ => cases hr

end Refused

section Addressing

theorem step_get_error (hl : m.registry.lookup text = .error e) (s : Settings) (now : Time.Stamp) (bits : Nat) :
    m.step s now (.arrive (.get text) bits) = m.replied .paced (.error e) := by
  simp only [step]
  delta begin
  simp only [hl]
  exact conclude_arriving m _ _ _

theorem step_get (hl : m.registry.lookup text = .ok place) (hh : m.registry.handles[place]? = some h) (s : Settings)
    (now : Time.Stamp) (bits : Nat) :
    m.step s now (.arrive (.get text) bits) = m.replied .paced (.ok (.summary (h.session.summary now))) := by
  simp only [step]
  delta begin
  simp only [hl, hh]
  exact conclude_arriving m _ _ _

theorem step_step_error (hl : m.registry.lookup text = .error e) (s : Settings) (now : Time.Stamp) (bits : Nat) :
    m.step s now (.arrive (.step text) bits) = m.replied .paced (.error e) := by
  simp only [step]
  delta begin
  simp only [hl]
  exact conclude_arriving m _ _ _

theorem step_step (hl : m.registry.lookup text = .ok place) (s : Settings) (now : Time.Stamp) (bits : Nat) :
    m.step s now (.arrive (.step text) bits) =
      m.arrived .paced (.waiting place) (m.enqueue place m.jobs.length).registry m.calls := by
  simp only [step]
  delta begin
  simp only [hl]
  simp only [enqueue, setPhase, arrived, Places.modify_concat]
  rfl

theorem step_delete_error (hr : m.registry.remove text = .error e) (s : Settings) (now : Time.Stamp) (bits : Nat) :
    m.step s now (.arrive (.delete text) bits) = m.replied .paced (.error e) := by
  simp only [step]
  delta begin
  simp only [hr]
  exact conclude_arriving m _ _ _

theorem step_delete (hr : m.registry.remove text = .ok (place, r)) (hh : m.registry.handles[place]? = some h)
    (s : Settings) (now : Time.Stamp) (bits : Nat) :
    m.step s now (.arrive (.delete text) bits) =
      m.arrived .paced (.answered (.ok (.summary (h.session.summary now)))) r m.calls := by
  simp only [step]
  delta begin
  simp only [hr, hh]
  simp only [conclude, setPhase, arrived, Places.modify_concat]
  rfl

theorem step_list (m : Machine) (s : Settings) (now : Time.Stamp) (bits : Nat) :
    m.step s now (.arrive .list bits) = m.replied .paced (.ok (.summaries (m.registry.list now))) := by
  simp only [step]
  delta begin
  exact conclude_arriving m _ _ _

end Addressing

end Machine

end CodeRepair
