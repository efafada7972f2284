import CodeRepair.Proofs.Service.Cancellation

/-!
The rules by which jobs move leave no choice: at most one of them says what an action does to a job, and when one
applies, the service follows it.
-/
namespace CodeRepair.Machine

variable {s : Settings} {m : Machine} {now : Time.Stamp} {job : Nat} {mode : Mode} {phase phase' phase'' : Phase}
  {r r' : Registry} {cs cs' : List (Option Nat × Call)} {action : Action} {f f' : Failure} {fix fix' : Fix}
  {answer : Answered}

theorem Settles.unique (hs : Settles s answer phase f fix) (hs' : Settles s answer phase f' fix') :
    f' = f ∧ fix' = fix := by
  cases hs with
  | byPrimary ha =>
    cases hs' with
    | byPrimary ha' =>
      rw [ha] at ha'; cases ha'
      exact ⟨rfl, rfl⟩
  | byFallback =>
    cases hs'
    exact ⟨rfl, rfl⟩

theorem Settles.not_askFallback {problem : String} (hs : Settles s answer (.askingPrimary f) f' fix) :
    s.pipeline.afterPrimary answer ≠ .askFallback problem := by
  cases hs with
  | byPrimary ha => simp [ha]

theorem turnedAway_or_open {place : Nat} {h h' : Handle} (hh : m.registry.handles[place]? = some h)
    (ho : h.session.isComplete = true ∨ m.isCancelled h = true) (hh' : m.registry.handles[place]? = some h')
    (hc : h'.session.isComplete = false) (hx : m.isCancelled h' = false) : False := by
  rw [hh] at hh'
  cases hh'
  simp [hc, hx] at ho

/-- Nobody is asked about an attempt that succeeded or that is the last one. -/
theorem concluded_or_asked {place index max : Nat} {since : Time.Stamp} {result : ExecutionResult}
    (ho : result.succeeded = true ∨ max ≤ index) (hr : result.succeeded = false)
    (hlt : ∀ place' index' max' since', Purpose.attempt place index max since = .attempt place' index' max' since' →
      index' < max') : False := by
  have hlt' := hlt _ _ _ _ rfl
  rcases ho with hr' | hle
  · rw [hr] at hr'; cases hr'
  · omega

theorem Settles.debugged_or_settled {place index max : Nat} {since : Time.Stamp}
    (hs : Settles s answer phase f fix) (hnone : f.purpose.place? = none) (hs' : Settles s answer phase f' fix')
    (hpurpose : f'.purpose = .attempt place index max since) : False := by
  obtain ⟨rfl, rfl⟩ := hs.unique hs'
  rw [hpurpose] at hnone
  cases hnone

/-- At most one rule says how a job moves by an action. -/
theorem Progress.unique (hp : Progress s m now job action mode phase phase' r cs)
    (hp' : Progress s m now job action mode phase phase'' r' cs') : phase'' = phase' ∧ r' = r ∧ cs' = cs := by
  cases hp with
  | summedUp hh hc | queued hh hc =>
    cases hp' with
    | summedUp hh' hc' | queued hh' hc' =>
      rw [hh] at hh'; cases hh'
      simp_all
  | refused hh _ ho =>
    cases hp' with
    | refused hh' => rw [hh] at hh'; cases hh'; exact ⟨rfl, rfl, rfl⟩
    | entered hh' _ hc hx => exact (turnedAway_or_open hh ho hh' hc hx).elim
  | ended hh _ ho =>
    cases hp' with
    | ended hh' => rw [hh] at hh'; cases hh'; exact ⟨rfl, rfl, rfl⟩
    | entered hh' _ hc hx => exact (turnedAway_or_open hh ho hh' hc hx).elim
  | entered hh _ hc hx =>
    cases hp' with
    | refused hh' _ ho | ended hh' _ ho => exact (turnedAway_or_open hh' ho hh hc hx).elim
    | entered hh' => rw [hh] at hh'; cases hh'; exact ⟨rfl, rfl, rfl⟩
  | executed =>
    cases hp' with
    | executed => exact ⟨rfl, rfl, rfl⟩
    | askedPrimary _ hne => exact absurd rfl hne
  | passed hr =>
    cases hp' with
    | passed => exact ⟨rfl, rfl, rfl⟩
    | askedPrimary hr' => rw [hr] at hr'; cases hr'
  | askedPrimary hr hne hlt =>
    cases hp' with
    | executed => exact absurd rfl hne
    | passed hr' => rw [hr] at hr'; cases hr'
    | askedPrimary => exact ⟨rfl, rfl, rfl⟩
    | concluded ho => exact (concluded_or_asked ho hr hlt).elim
  | concluded ho ha =>
    cases hp' with
    | askedPrimary hr _ hlt => exact (concluded_or_asked ho hr hlt).elim
    | concluded _ ha' => rw [ha, ha']; exact ⟨rfl, rfl, rfl⟩
  | debugged hs hnone =>
    cases hp' with
    | debugged hs' => obtain ⟨rfl, rfl⟩ := hs.unique hs'; exact ⟨rfl, rfl, rfl⟩
    | askedFallback ha => exact absurd ha hs.not_askFallback
    | settled hs' hpurpose => exact (hs.debugged_or_settled hnone hs' hpurpose).elim
  | askedFallback ha =>
    cases hp' with
    | debugged hs' | settled hs' => exact absurd ha hs'.not_askFallback
    | askedFallback ha' => rw [ha] at ha'; cases ha'; exact ⟨rfl, rfl, rfl⟩
  | settled hs hpurpose ha =>
    cases hp' with
    | debugged hs' hnone => exact (hs'.debugged_or_settled hnone hs hpurpose).elim
    | askedFallback ha' => exact absurd ha' hs.not_askFallback
    | settled hs' hpurpose' ha' =>
      obtain ⟨rfl, rfl⟩ := hs.unique hs'
      rw [hpurpose] at hpurpose'; cases hpurpose'
      rw [ha, ha']
      exact ⟨rfl, rfl, rfl⟩

theorem Progress.not_idle (hj : m.jobs[job]? = some ⟨mode, phase⟩)
    (hp : Progress s m now job action mode phase phase' r cs) : ¬ m.Idle action := by
  have hphase := phase?_of_job hj
  intro hi
  cases hp with
  | summedUp hh | queued hh => rw [hi.1 _ hphase] at hh; cases hh
  | refused hh ht | ended hh ht | entered hh ht => exact hi.2 _ _ hphase hh ht
  | executed | passed | askedPrimary | concluded => exact hi _ _ _ hphase
  | askedFallback => exact hi.1 _ hphase
  | debugged hs | settled hs =>
    cases hs with
    | byPrimary => exact hi.1 _ hphase
    | byFallback => exact hi.2 _ _ hphase

theorem Progress.step_eq (hj : m.jobs[job]? = some ⟨mode, phase⟩)
    (hp : Progress s m now job action mode phase phase' r cs) : m.step s now action = m.moved job phase' r cs := by
  rcases job_step hj s now action with ⟨hidle, -⟩ | ⟨phase'', r', cs', hp', -, he⟩
  · exact absurd (hidle hp.job?) (hp.not_idle hj)
  · obtain ⟨rfl, rfl, rfl⟩ := hp.unique hp'
    exact he

end CodeRepair.Machine
