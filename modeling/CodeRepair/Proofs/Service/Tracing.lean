import CodeRepair.Proofs.Service.Course
import CodeRepair.Proofs.Service.Line
import CodeRepair.Proofs.Service.Transition

/-!
The courses of the sessions of a service. Whatever a service does, each of its sessions takes one step of its course,
so what holds of every course holds of every session.
-/
namespace CodeRepair.Machine

def callsAt (m : Machine) (place : Nat) : List Call :=
  m.calls.filterMap fun c ↦ if c.1 = some place then some c.2 else none

/-- A session with its queue and its calls is on some course. -/
structure Traces (m : Machine) (place : Nat) (h : Handle) (x : Course) : Prop where
  handle : m.registry.handles[place]? = some h
  session : h.session = x.session
  cancelled : m.isCancelled h = x.cancelled
  calls : m.callsAt place = x.calls
  line : Line m.phase? place (x.flight.map (Flight.phase place x.session)) h.turns

/-- The line stays, grows at its end, or loses its first job, which leaves no attempt under way. -/
def Shifts (turns turns' : List Nat) (flight : Option Flight) : Prop :=
  turns' = turns ∨ (∃ job, turns' = turns ++ [job]) ∨ flight = none ∧ turns' = turns.tail

def Follows (s : Settings) (now : Time.Stamp) (m' : Machine) (place : Nat) (h : Handle) (x : Course) : Prop :=
  ∃ h' y, m'.Traces place h' y ∧ Course.Step s now x y ∧ Shifts h.turns h'.turns y.flight

variable {s : Settings} {m m' : Machine} {now : Time.Stamp} {place q job : Nat} {h : Handle} {x : Course}
  {mode : Mode} {phase phase' : Phase} {r : Registry} {calls : List (Option Nat × Call)}

theorem callsAt_log_self (m : Machine) (place : Nat) (c : Call) :
    callsAt { m with calls := m.calls ++ [(some place, c)] } place = m.callsAt place ++ [c] := by
  simp [callsAt]

theorem callsAt_log_ne (m : Machine) {place : Nat} {o : Option Nat} (c : Call) (hne : o ≠ some place) :
    callsAt { m with calls := m.calls ++ [(o, c)] } place = m.callsAt place := by
  simp [callsAt, hne]

theorem phase?_arrived_self (m : Machine) (mode : Mode) (phase : Phase) (r : Registry)
    (calls : List (Option Nat × Call)) : (m.arrived mode phase r calls).phase? m.jobs.length = some phase := by
  simp [phase?, arrived]

theorem phase?_arrived_ne (m : Machine) (mode : Mode) (phase : Phase) (r : Registry)
    (calls : List (Option Nat × Call)) {j : Nat} (hj : j ≠ m.jobs.length) :
    (m.arrived mode phase r calls).phase? j = m.phase? j := by
  simp only [phase?, arrived, List.getElem?_append]
  split
  · rfl
  · rw [List.getElem?_singleton, if_neg (by omega), List.getElem?_eq_none (by omega)]

theorem phase?_length (m : Machine) : m.phase? m.jobs.length = none := by
  simp [phase?]

theorem phase?_moved_self (hj : m.jobs[job]? = some ⟨mode, phase⟩) (phase' : Phase) (r : Registry)
    (calls : List (Option Nat × Call)) : (m.moved job phase' r calls).phase? job = some phase' := by
  simp [phase?, moved, setPhase, hj]

theorem phase?_moved_ne (m : Machine) (phase' : Phase) (r : Registry) (calls : List (Option Nat × Call)) {j : Nat}
    (hj : j ≠ job) : (m.moved job phase' r calls).phase? j = m.phase? j := by
  simp [phase?, moved, setPhase, List.getElem?_modify_ne _ _ (Ne.symm hj)]

theorem isCancelled_cancelled (m : Machine) (h : Handle) : m.isCancelled { h with cancelled := true } = true := by
  simp [isCancelled]

theorem isCancelled_cancelCaller {caller : Nat} (hc : m.isCancelled h = true) :
    isCancelled { m with cancelledCallers := caller :: m.cancelledCallers } h = true := by
  unfold isCancelled at hc ⊢
  cases hcaller : h.caller with
  | none => simpa [hcaller] using hc
  | some c =>
    have : h.cancelled = true ∨ c ∈ m.cancelledCallers := by simpa [hcaller] using hc
    rcases this with ht | hm
    · simp [ht]
    · simp [hm]

theorem turn?_recordedPhase (place : Nat) (a : Attempt) (mode : Mode) :
    (recordedPhase place a mode).turn? = none := by
  cases mode <;> rfl

theorem turn?_openedPhase (place : Nat) (y : Summary) (mode : Mode) : (openedPhase place y mode).turn? = none := by
  cases mode <;> rfl

theorem Settles.underWay? {answer : Answered} {f : Failure} {fix : Fix} (hs : Settles s answer phase f fix) :
    phase.underWay? = f.purpose.place? := by
  cases hs <;> rfl

/-- A job that is not in line at a place, before or after it moves, leaves the session there as it was, but for its
token, and calls nobody for it. -/
theorem Progress.elsewhere {action : Action} (hp : Progress s m now job action mode phase phase' r calls)
    (hout : phase.turn? ≠ some place) (hout' : phase'.turn? ≠ some place) :
    m.registry.KeepsAt r place ∧ (m.moved job phase' r calls).callsAt place = m.callsAt place := by
  cases hp with
  | summedUp => exact ⟨Registry.keepsAt_evict _ _ _, rfl⟩
  | queued => exact ⟨.inl (Registry.modify_ne _ _ (by simpa using hout')), rfl⟩
  | refused => exact ⟨.inl (Registry.modify_ne _ _ (by simpa using hout)), rfl⟩
  | ended =>
    exact ⟨.trans (.inl (Registry.modify_ne _ _ (by simpa using hout))) (Registry.keepsAt_evict _ _ _), rfl⟩
  | entered | askedPrimary | askedFallback => exact ⟨.inl rfl, callsAt_log_ne m _ (by simpa using hout)⟩
  | executed | passed | debugged => exact ⟨.inl rfl, rfl⟩
  | concluded => exact ⟨.inl (Registry.modify_ne _ _ (by simpa using hout)), rfl⟩
  | @settled _ _ _ _ _ q _ _ _ _ hs hf =>
    have hne : q ≠ place := by
      cases hs <;> simpa [hf] using hout
    exact ⟨.inl (Registry.modify_ne _ _ hne), rfl⟩

theorem erase_head {turns : List Nat} (hh : turns.head? = some job) : turns.erase job = turns.tail := by
  cases turns with
  | nil => rfl
  | cons k rest => cases hh; exact List.erase_cons_head ..

namespace Traces

/-- What changes neither the line nor the calls of a session leaves it as it was, but for its token. -/
theorem keep (ht : m.Traces place h x) (now : Time.Stamp)
    (hline : Line m'.phase? place (x.flight.map (Flight.phase place x.session)) h.turns)
    (hk : m.registry.KeepsAt m'.registry place) (hcalls : m'.callsAt place = m.callsAt place)
    (hcallers : m'.cancelledCallers = m.cancelledCallers) : Follows s now m' place h x := by
  have hsame : m'.isCancelled h = x.cancelled := by
    rw [← ht.cancelled]
    simp only [isCancelled, hcallers]
  rcases hk.of_some ht.handle with hh | hh
  · exact ⟨h, x, ⟨hh, ht.session, hsame, hcalls.trans ht.calls, hline⟩, .stay x, .inl rfl⟩
  · exact ⟨{ h with cancelled := true }, { x with cancelled := true },
      ⟨hh, ht.session, isCancelled_cancelled m' h, hcalls.trans ht.calls, hline⟩, .cancel x, .inl rfl⟩

theorem pass (ht : m.Traces place h x) (now : Time.Stamp) (hjob : m'.phase? job = some phase')
    (hother : ∀ j, j ≠ job → m'.phase? j = m.phase? j) (hout : (m.phase? job).bind Phase.turn? ≠ some place)
    (hout' : phase'.turn? ≠ some place) (hk : m.registry.KeepsAt m'.registry place)
    (hcalls : m'.callsAt place = m.callsAt place) (hcallers : m'.cancelledCallers = m.cancelledCallers) :
    Follows s now m' place h x :=
  ht.keep now (ht.line.pass hjob hother hout hout') hk hcalls hcallers

theorem join (ht : m.Traces place h x) (now : Time.Stamp) (hjob : m'.phase? job = some (.waiting place))
    (hother : ∀ j, j ≠ job → m'.phase? j = m.phase? j) (hout : (m.phase? job).bind Phase.turn? ≠ some place)
    (hr : m'.registry = (m.enqueue place job).registry) (hcalls : m'.calls = m.calls)
    (hcallers : m'.cancelledCallers = m.cancelledCallers) : Follows s now m' place h x := by
  have hline := ht.line.join hjob hother hout rfl
  refine ⟨{ h with turns := h.turns ++ [job] }, x, ⟨?_, ht.session, ?_, ?_, hline⟩, .stay x, .inr (.inl ⟨job, rfl⟩)⟩
  · rw [hr]; exact Registry.modify_self _ ht.handle
  · rw [← ht.cancelled]; simp only [isCancelled, hcallers]
  · rw [← ht.calls]; simp only [callsAt, hcalls]

/-- The job that makes an attempt has the turn, and the course says how far the attempt is. -/
theorem flight_of_underWay (ht : m.Traces place h x) (hj : m.phase? job = some phase)
    (hu : phase.underWay? = some place) :
    ∃ f, x.flight = some f ∧ f.phase place x.session = phase ∧ h.turns.head? = some job := by
  obtain ⟨hf, hhead⟩ := ht.line.front_of_underWay hj hu
  obtain ⟨f, hf, hp⟩ := Option.map_eq_some_iff.1 hf
  exact ⟨f, hf, hp, hhead⟩

theorem flight_of_running (ht : m.Traces place h x) {purpose : Purpose} {language : Language} {code : String}
    (hj : m.phase? job = some (.running purpose language code)) (hu : purpose.place? = some place) :
    ∃ since, x.flight = some (.running since) ∧
      (Flight.running since).phase place x.session = .running purpose language code ∧ h.turns.head? = some job := by
  obtain ⟨f, hf, hp, hhead⟩ := ht.flight_of_underWay hj hu
  cases f with
  | running since => exact ⟨since, hf, hp, hhead⟩
  | _ => cases hp

theorem flight_of_askingPrimary (ht : m.Traces place h x) {f : Failure}
    (hj : m.phase? job = some (.askingPrimary f)) (hu : f.purpose.place? = some place) :
    ∃ since result, x.flight = some (.askingPrimary since result) ∧
      f = Flight.failure place x.session since result ∧ h.turns.head? = some job := by
  obtain ⟨g, hg, hp, hhead⟩ := ht.flight_of_underWay hj hu
  cases g with
  | askingPrimary since result => cases hp; exact ⟨since, result, hg, rfl, hhead⟩
  | _ => cases hp

theorem flight_of_askingFallback (ht : m.Traces place h x) {f : Failure} {problem : String}
    (hj : m.phase? job = some (.askingFallback f problem)) (hu : f.purpose.place? = some place) :
    ∃ since result, x.flight = some (.askingFallback since result problem) ∧
      f = Flight.failure place x.session since result ∧ h.turns.head? = some job := by
  obtain ⟨g, hg, hp, hhead⟩ := ht.flight_of_underWay hj hu
  cases g with
  | askingFallback since result problem => cases hp; exact ⟨since, result, hg, rfl, hhead⟩
  | _ => cases hp

/-- A fix that is settled on for a session ends the attempt under way, which failed with another one to follow. -/
theorem flight_of_settles (ht : m.Traces place h x) (hx : x.Sound s) (hj : m.phase? job = some phase)
    {answer : Answered} {f : Failure} {fix : Fix} (hs : Settles s answer phase f fix)
    (hu : f.purpose.place? = some place) :
    ∃ g since result, x.flight = some g ∧ g.Ends s x.session since result (some fix) ∧
      f = Flight.failure place x.session since result ∧ result.succeeded = false ∧
      x.session.nextIndex < x.session.maxAttempts ∧ h.turns.head? = some job := by
  cases hs with
  | byPrimary ha =>
    obtain ⟨since, result, hf, hsame, hhead⟩ := ht.flight_of_askingPrimary hj hu
    obtain ⟨-, hfailed, hleft⟩ := hx.flight _ hf
    exact ⟨_, since, result, hf, .byPrimary ha, hsame, hfailed, hleft, hhead⟩
  | byFallback f problem =>
    obtain ⟨since, result, hf, hsame, hhead⟩ := ht.flight_of_askingFallback hj hu
    obtain ⟨-, hfailed, hleft, -⟩ := hx.flight _ hf
    exact ⟨_, since, result, hf, .byFallback answer, hsame, hfailed, hleft, hhead⟩

theorem flight_of_waiting (ht : m.Traces place h x) (hhead : h.turns.head? = some job)
    (hj : m.phase? job = some (.waiting place)) : x.flight = none :=
  Option.map_eq_none_iff.1 (ht.line.front_of_waiting hhead hj)

theorem turnAway (ht : m.Traces place h x) (now : Time.Stamp) (hjob : m'.phase? job = some phase')
    (hother : ∀ j, j ≠ job → m'.phase? j = m.phase? j) (hw : m.phase? job = some (.waiting place))
    (hhead : h.turns.head? = some job) (hout' : phase'.turn? ≠ some place)
    (ho : h.session.isComplete = true ∨ m.isCancelled h = true)
    (hk : (m.left now place job).KeepsAt m'.registry place) (hcalls : m'.calls = m.calls)
    (hcallers : m'.cancelledCallers = m.cancelledCallers) : Follows s now m' place h x := by
  let h₁ : Handle := { h with session := h.session.finish .cancelled now, turns := h.turns.erase job }
  have hf := ht.flight_of_waiting hhead hw
  have hline : Line m'.phase? place none (h.turns.erase job) := ht.line.leave hjob hother hhead hout'
  have hsame : m'.isCancelled h₁ = x.cancelled := by
    rw [← ht.cancelled]; simp only [isCancelled, hcallers, h₁]
  have hcalls' : m'.callsAt place = x.calls := by
    rw [← ht.calls]; simp only [callsAt, hcalls]
  have hh₁ := hk.of_some (Registry.modify_self _ ht.handle)
  have hshift : Shifts h.turns (h.turns.erase job) x.flight := .inr (.inr ⟨hf, erase_head hhead⟩)
  cases hc : h.session.isComplete with
  | true =>
    have hsession : h₁.session = x.session := by
      rw [← ht.session]; exact Session.finish_of_complete _ _ hc
    rcases hh₁ with hh | hh
    · exact ⟨h₁, x, ⟨hh, hsession, hsame, hcalls', by rw [hf]; exact hline⟩, .stay x, hshift⟩
    · exact ⟨{ h₁ with cancelled := true }, { x with cancelled := true },
        ⟨hh, hsession, isCancelled_cancelled m' h₁, hcalls', by rw [hf]; exact hline⟩, .cancel x, hshift⟩
  | false =>
    have hrun := (Session.isComplete_eq_false_iff _).1 hc
    have hx : x.cancelled = true := by rw [← ht.cancelled]; exact ho.resolve_left (by simp [hc])
    let y : Course := { x with session := x.session.finish .cancelled now }
    have hstep : Course.Step s now x y := .giveUp hf (ht.session ▸ hrun) hx
    have hsession : h₁.session = y.session := by simp only [h₁, y, ht.session]
    have hline' : Line m'.phase? place (y.flight.map (Flight.phase place y.session)) h₁.turns := by
      rw [show y.flight = none from hf]; exact hline
    rcases hh₁ with hh | hh
    · exact ⟨h₁, y, ⟨hh, hsession, hsame, hcalls', hline'⟩, hstep, hshift⟩
    · exact ⟨{ h₁ with cancelled := true }, y,
        ⟨hh, hsession, (isCancelled_cancelled m' h₁).trans hx.symm, hcalls', hline'⟩, hstep, hshift⟩

theorem call (ht : m.Traces place h x) {y : Course} {f : Flight} {c : Call} (hs : Course.Step s now x y)
    (hsession : y.session = x.session) (hcancelled : y.cancelled = x.cancelled) (hflight : y.flight = some f)
    (hy : y.calls = x.calls ++ [c]) (hhead : h.turns.head? = some job)
    (hjob : m'.phase? job = some (f.phase place x.session)) (hother : ∀ j, j ≠ job → m'.phase? j = m.phase? j)
    (hr : m'.registry = m.registry) (hcalls : m'.calls = m.calls ++ [(some place, c)])
    (hcallers : m'.cancelledCallers = m.cancelledCallers) : Follows s now m' place h x := by
  have hu : (f.phase place x.session).underWay? = some place := by cases f <;> rfl
  have hline := ht.line.lead hjob hother hhead hu
  refine ⟨h, y, ⟨?_, ?_, ?_, ?_, ?_⟩, hs, .inl rfl⟩
  · rw [hr]; exact ht.handle
  · rw [hsession]; exact ht.session
  · rw [hcancelled, ← ht.cancelled]; simp only [isCancelled, hcallers]
  · rw [hy, ← ht.calls, ← callsAt_log_self]; simp only [callsAt, hcalls]
  · rw [hflight, hsession]; exact hline

theorem land (ht : m.Traces place h x) (now : Time.Stamp) {f : Flight} {since : Time.Stamp} {result : ExecutionResult}
    {fix : Option Fix} {a : Attempt} (hf : x.flight = some f) (he : f.Ends s x.session since result fix)
    (ha : a = x.session.nextAttempt since result fix) (hhead : h.turns.head? = some job)
    (hjob : m'.phase? job = some phase') (hother : ∀ j, j ≠ job → m'.phase? j = m.phase? j)
    (hout' : phase'.turn? ≠ some place) (hr : m'.registry = m.recorded s now place job a)
    (hcalls : m'.calls = m.calls) (hcallers : m'.cancelledCallers = m.cancelledCallers) :
    Follows s now m' place h x := by
  subst ha
  let a := x.session.nextAttempt since result fix
  let h₁ : Handle :=
    { h with session := h.session.extend s.config.retry.onNoFix a now, turns := h.turns.erase job }
  let y : Course := { x with flight := none, session := x.session.extend s.config.retry.onNoFix a now }
  have hline : Line m'.phase? place none h₁.turns := ht.line.leave hjob hother hhead hout'
  refine ⟨h₁, y, ⟨?_, ?_, ?_, ?_, hline⟩, .land hf he, .inr (.inr ⟨rfl, erase_head hhead⟩)⟩
  · rw [hr]; exact Registry.modify_self _ ht.handle
  · simp only [h₁, y, ht.session]
  · rw [show y.cancelled = m.isCancelled h from ht.cancelled.symm]
    simp only [isCancelled, hcallers, h₁]
  · rw [← ht.calls]; simp only [callsAt, hcalls]

theorem callerCancelled (ht : m.Traces place h x) (now : Time.Stamp) (caller : Nat) :
    Follows s now { m with cancelledCallers := caller :: m.cancelledCallers } place h x := by
  cases hc : isCancelled { m with cancelledCallers := caller :: m.cancelledCallers } h with
  | true =>
    exact ⟨h, { x with cancelled := true }, ⟨ht.handle, ht.session, hc, ht.calls, ht.line⟩, .cancel x, .inl rfl⟩
  | false =>
    have hx : m.isCancelled h = false := by
      cases hm : m.isCancelled h with
      | false => rfl
      | true => rw [isCancelled_cancelCaller hm] at hc; cases hc
    rw [ht.cancelled] at hx
    exact ⟨h, x, ⟨ht.handle, ht.session, hc.trans hx.symm, ht.calls, ht.line⟩, .stay x, .inl rfl⟩

theorem arrived (ht : m.Traces place h x) {request : Request} {bits : Nat}
    (ha : Arrival s m now bits request phase r calls) (mode : Mode) :
    Follows s now (m.arrived mode phase r calls) place h x := by
  have hjob := phase?_arrived_self m mode phase r calls
  have hother (j : Nat) (hne : j ≠ m.jobs.length) := phase?_arrived_ne m mode phase r calls hne
  have hout : (m.phase? m.jobs.length).bind Phase.turn? ≠ some place := by simp [phase?_length]
  cases ha with
  | replied => exact ht.pass now hjob hother hout (by simp) (.inl rfl) rfl rfl
  | @launched _ purpose _ _ hl =>
    have hp : purpose.place? = none := by cases hl <;> rfl
    exact ht.pass now hjob hother hout (by simp [hp]) (.inl rfl)
      (callsAt_log_ne m _ (by simp)) rfl
  | opened _ _ _ hi =>
    obtain ⟨key, -, -, -, rfl⟩ := Registry.insert_eq_ok hi
    exact ht.pass now hjob hother hout (by simp [turn?_openedPhase])
      (.inl ((Places.concat_of_some _ ht.handle).trans ht.handle.symm)) rfl rfl
  | @queued id q hl =>
    by_cases hq : q = place
    · subst hq
      exact ht.join now hjob hother hout rfl rfl rfl
    · exact ht.pass now hjob hother hout (by simpa using hq)
        (.inl (Registry.modify_ne _ _ hq)) rfl rfl
  | removed hr _ => exact ht.pass now hjob hother hout (by simp) (Registry.keepsAt_remove hr place) rfl rfl

/-- A job that moves in line, or into it, takes the session a step on. -/
theorem moved_here (ht : m.Traces place h x) (hx : x.Sound s) {action : Action}
    (hj : m.jobs[job]? = some ⟨mode, phase⟩) (hp : Progress s m now job action mode phase phase' r calls)
    (hhere : phase.turn? = some place ∨ phase'.turn? = some place) :
    Follows s now (m.moved job phase' r calls) place h x := by
  have hphase := phase?_of_job hj
  have hjob := phase?_moved_self hj phase' r calls
  have hother (j : Nat) (hne : j ≠ job) := phase?_moved_ne m phase' r calls hne
  cases hp with
  | summedUp | executed | passed => simp at hhere
  | debugged hs hf => cases hs <;> simp [hf] at hhere
  | @queued _ q =>
    obtain rfl : q = place := by simpa using hhere
    exact ht.join now hjob hother (by simp [hphase]) rfl rfl rfl
  | @refused q _ hh hhead ho =>
    obtain rfl : q = place := by simpa using hhere
    rw [ht.handle] at hh; cases hh
    exact ht.turnAway now hjob hother hphase hhead (by simp) ho (.inl rfl) rfl rfl
  | @ended q _ hh hhead ho =>
    obtain rfl : q = place := by simpa using hhere
    rw [ht.handle] at hh; cases hh
    exact ht.turnAway now hjob hother hphase hhead (by simp) ho (Registry.keepsAt_evict _ _ _) rfl rfl
  | @entered _ q _ hh hhead hc hn =>
    obtain rfl : q = place := by simpa using hhere
    rw [ht.handle] at hh; cases hh
    have hrun := (Session.isComplete_eq_false_iff _).1 hc
    have hs : Course.Step s now x _ :=
      .enter (ht.flight_of_waiting hhead hphase) (ht.session ▸ hrun) (ht.cancelled ▸ hn)
    refine ht.call hs rfl rfl rfl rfl hhead ?_ hother rfl ?_ rfl
    · rw [hjob, ht.session]; rfl
    · rw [← ht.session]; rfl
  | askedPrimary hr _ hl =>
    obtain ⟨since, hf, hp, hhead⟩ := ht.flight_of_running hphase (by simpa using hhere)
    cases hp
    have hs : Course.Step s now x _ := .askPrimary hf hr (hl _ _ _ _ rfl)
    exact ht.call hs rfl rfl rfl rfl hhead hjob hother rfl rfl rfl
  | askedFallback ha =>
    obtain ⟨since, result, hf, rfl, hhead⟩ := ht.flight_of_askingPrimary hphase (by simpa using hhere)
    have hs : Course.Step s now x _ := .askFallback hf ha
    exact ht.call hs rfl rfl rfl rfl hhead hjob hother rfl rfl rfl
  | @concluded _ q _ _ _ _ _ _ _ ho ha =>
    obtain rfl : q = place := by simpa [turn?_recordedPhase] using hhere
    obtain ⟨since, hf, hp, hhead⟩ := ht.flight_of_running hphase rfl
    cases hp
    exact ht.land now hf (.unasked ho) ha hhead hjob hother (by simp [turn?_recordedPhase]) rfl rfl rfl
  | @settled _ answer _ g _ q _ _ _ a hs hg ha =>
    have hplace : g.purpose.place? = some q := by rw [hg]; rfl
    have hu : phase.underWay? = some q := hs.underWay?.trans hplace
    obtain rfl : q = place := by simpa [turn?_recordedPhase, Phase.turn?_of_underWay? hu] using hhere
    obtain ⟨f, since, result, hf, hends, rfl, hfailed, -, hhead⟩ := ht.flight_of_settles hx hphase hs hplace
    cases hg
    have hattempt := ha.trans (x.session.nextAttempt_of_failed _ hfailed _).symm
    exact ht.land now hf hends hattempt hhead hjob hother (by simp [turn?_recordedPhase]) rfl rfl rfl

theorem moved (ht : m.Traces place h x) (hx : x.Sound s) {action : Action} (hj : m.jobs[job]? = some ⟨mode, phase⟩)
    (hp : Progress s m now job action mode phase phase' r calls) :
    Follows s now (m.moved job phase' r calls) place h x := by
  by_cases hhere : phase.turn? = some place ∨ phase'.turn? = some place
  · exact ht.moved_here hx hj hp hhere
  · obtain ⟨hout, hout'⟩ := not_or.1 hhere
    obtain ⟨hk, hcalls⟩ := hp.elsewhere hout hout'
    have hother (j : Nat) (hne : j ≠ job) := phase?_moved_ne m phase' r calls hne
    exact ht.pass now (phase?_moved_self hj phase' r calls) hother (by simpa [phase?_of_job hj] using hout) hout' hk
      hcalls rfl

/-- Every action is a step of the course of every session. -/
theorem step (ht : m.Traces place h x) (hx : x.Sound s) (now : Time.Stamp) (action : Action) :
    Follows s now (m.step s now action) place h x := by
  have hs := step_transition s m now action
  generalize m.step s now action = m' at hs ⊢
  cases hs with
  | ignored _ => exact ⟨h, x, ht, .stay x, .inl rfl⟩
  | callerCancelled caller => exact ht.callerCancelled now caller
  | arrived ha => exact ht.arrived ha _
  | moved hj hp => exact ht.moved hx hj hp

end Traces

end CodeRepair.Machine
