import CodeRepair.Proofs.Service.Transition
import CodeRepair.Proofs.Text.Trim

/-!
What a service runs. A program comes from a request that was checked or from a fix that was vetted, and the sessions
keep no other; so nothing is ever run that is blank or that the gate blocks.
-/
namespace CodeRepair

variable {s : Settings}

theorem Settings.validate_eq_ok {name code : String} {language : Language} (h : s.validate name code = .ok language) :
    Language.parse name = .ok language ∧ code.toList.length ≤ s.config.retry.maxCodeLength ∧ s.gate.Admits code := by
  unfold validate at h
  cases hp : Language.parse name with
  | error e => rw [hp] at h; cases h
  | ok l =>
    simp only [hp, bind, Except.bind] at h
    split at h
    · cases h
    next hb =>
      simp only [pure, Except.pure] at h
      split at h
      · cases h
      next hl =>
        split at h
        · cases h
        next hs =>
          cases h
          exact ⟨rfl, by omega, by simpa using hb, by simpa using hs⟩

def Request.isChecked : Request → Bool
  | .runChecked .. | .startChecked .. => false
  | _ => true

/-- A request that arrives is one for the service, and not for what works behind its checks. -/
def Action.IsServed : Action → Prop
  | .arrive request _ => request.isChecked = true
  | _ => True

theorem Session.extend_admits {gate : SafetyGate} {policy : NoFixPolicy} {x : Session} {a : Attempt}
    (now : Time.Stamp) (hx : gate.Admits x.currentCode) (ha : ∀ fix, a.fix = some fix → fix.Vetted gate) :
    gate.Admits (x.extend policy a now).currentCode := by
  have hcode : (x.extend policy a now).currentCode = a.replacement?.getD x.currentCode := by
    simp only [extend, record]
    cases a.outcome policy with
    | none => rfl
    | some st => simp only [finish]; split <;> rfl
  rw [hcode]
  cases hf : a.fix with
  | none => simpa [Attempt.replacement?, hf] using hx
  | some fix =>
    cases hu : fix.isUsable with
    | true => simpa [Attempt.replacement?, hf, hu] using (ha fix hf).admitted hu
    | false => simpa [Attempt.replacement?, hf, hu] using hx

namespace Machine

variable {m : Machine} {now : Time.Stamp} {job place : Nat} {mode : Mode} {phase phase' : Phase} {r : Registry}
  {calls : List (Option Nat × Call)}

theorem Settles.vetted {answer : Answered} {f : Failure} {fix : Fix} (h : Settles s answer phase f fix) :
    fix.Vetted s.gate := by
  cases h with
  | byPrimary h => exact (Pipeline.afterPrimary_eq_settled h).1
  | byFallback f problem => exact s.pipeline.afterFallback_vetted problem answer

/-- The sessions hold admitted code, and the programs run so far were admitted. -/
structure Guarded (s : Settings) (r : Registry) (calls : List (Option Nat × Call)) : Prop where
  sessions : ∀ (place : Nat) h, r.handles[place]? = some h → s.gate.Admits h.session.currentCode
  runs : ∀ place language code, (place, .run language code) ∈ calls → s.gate.Admits code

namespace Guarded

theorem start (s : Settings) : Guarded s (start s).registry (start s).calls where
  sessions place h hh := by simp [Machine.start, Registry.empty] at hh
  runs place language code hc := by simp [Machine.start] at hc

theorem modify (hg : Guarded s r calls) (place : Nat) {f : Handle → Handle}
    (hf : ∀ h, s.gate.Admits h.session.currentCode → s.gate.Admits (f h).session.currentCode) :
    Guarded s (r.modify place f) calls where
  sessions q h' hh' := by
    rw [Registry.modify, List.getElem?_modify] at hh'
    obtain ⟨h, hh, rfl⟩ := Option.map_eq_some_iff.1 hh'
    split
    · exact hf h (hg.sessions q h hh)
    · exact hg.sessions q h hh
  runs := hg.runs

theorem keep {r' : Registry} (hg : Guarded s r calls) (hk : ∀ place, r.KeepsAt r' place) : Guarded s r' calls where
  sessions place h' hh' := by
    rcases hk place with he | ⟨h, hh, he⟩
    · exact hg.sessions place h' (he ▸ hh')
    · rw [hh'] at he; cases he
      exact hg.sessions place h hh
  runs := hg.runs

theorem log (hg : Guarded s r calls) (place : Option Nat) {call : Call}
    (h : ∀ language code, call = .run language code → s.gate.Admits code) : Guarded s r (calls ++ [(place, call)]) where
  sessions := hg.sessions
  runs q language code hm := by
    rcases List.mem_append.1 hm with hm | hm
    · exact hg.runs q language code hm
    · exact h language code (Prod.mk.inj (List.mem_singleton.1 hm)).2.symm

theorem left (hg : Guarded s m.registry calls) (now : Time.Stamp) (place job : Nat) :
    Guarded s (m.left now place job) calls := by
  refine hg.modify place fun h hh ↦ ?_
  simp only [Session.finish]
  split
  · exact hh
  · exact hh

theorem arrival {request : Request} {bits : Nat} (hg : Guarded s m.registry m.calls)
    (ha : Arrival s m now bits request phase r calls) (hreq : request.isChecked = true) : Guarded s r calls := by
  cases ha with
  | replied => exact hg
  | launched hl =>
    refine hg.log none fun language code he ↦ ?_
    cases he
    cases hl with
    | execute hv | debug hv => exact (Settings.validate_eq_ok hv).2.2
  | opened ho _ _ hi =>
    refine ⟨?_, hg.runs⟩
    obtain ⟨key, -, -, -, rfl⟩ := Registry.insert_eq_ok hi
    intro q h hh
    rcases Places.concat_eq_some hh with hh | ⟨-, rfl⟩
    · exact hg.sessions q h hh
    · cases ho with
      | run hv | start hv => exact (Settings.validate_eq_ok hv).2.2
      | runChecked | startChecked => cases hreq
  | queued => exact hg.modify _ fun _ h ↦ h
  | removed hr _ => exact hg.keep (Registry.keepsAt_remove hr)

theorem progress {action : Action} (hg : Guarded s m.registry m.calls)
    (hp : Progress s m now job action mode phase phase' r calls) : Guarded s r calls := by
  cases hp with
  | summedUp => exact hg.keep (Registry.keepsAt_evict _ _)
  | queued => exact hg.modify _ fun _ h ↦ h
  | refused => exact hg.left _ _ _
  | ended => exact (hg.left _ _ _).keep (Registry.keepsAt_evict _ _)
  | @entered _ q h hh =>
    refine hg.log _ fun language code he ↦ ?_
    cases he
    exact hg.sessions q h hh
  | executed | passed | debugged => exact hg
  | askedPrimary | askedFallback => exact hg.log _ (by simp)
  | concluded _ ha =>
    refine hg.modify _ fun h hh ↦ Session.extend_admits now hh fun fix hf ↦ ?_
    subst ha; cases hf
  | settled hs _ ha =>
    refine hg.modify _ fun h hh ↦ Session.extend_admits now hh fun fix hf ↦ ?_
    subst ha; cases hf
    exact hs.vetted

theorem step (hg : Guarded s m.registry m.calls) (now : Time.Stamp) {action : Action} (ha : action.IsServed) :
    Guarded s (m.step s now action).registry (m.step s now action).calls := by
  have hs := step_transition s m now action
  generalize m.step s now action = m' at hs ⊢
  cases hs with
  | ignored | callerCancelled => exact hg
  | arrived h => exact hg.arrival h ha
  | moved _ hp => exact hg.progress hp

theorem run (hg : Guarded s m.registry m.calls) {events : List (Time.Stamp × Action)}
    (he : ∀ e ∈ events, e.2.IsServed) : Guarded s (m.run s events).registry (m.run s events).calls :=
  run_invariant (P := fun m ↦ Guarded s m.registry m.calls) events hg fun _ hg' e hmem ↦ hg'.step e.1 (he e hmem)

end Guarded

/-- Whatever is asked of a service, and whatever its runs and providers come to, no program is ever run that is blank
or that the gate blocks. -/
theorem run_code_admitted (s : Settings) (events : List (Time.Stamp × Action)) (he : ∀ e ∈ events, e.2.IsServed)
    (place : Option Nat) (language : Language) (code : String)
    (hc : (place, .run language code) ∈ ((start s).run s events).calls) :
    Text.trim code.toList ≠ [] ∧ (s.gate.check code).safe = true := by
  obtain ⟨hb, hs⟩ := ((Guarded.start s).run he).runs place language code hc
  exact ⟨Text.trim_ne_nil hb, hs⟩

theorem run_code_admitted_mending :
    (some 0, .run .python "print(1)") ∈ ((start .plain).run .plain mending).calls ∧
      Text.trim "print(1)".toList ≠ [] ∧ (Settings.plain.gate.check "print(1)").safe = true := by
  have he : ∀ e ∈ mending, e.2.IsServed := by simp [mending, Action.IsServed, Request.isChecked]
  have hc : (some 0, .run .python "print(1)") ∈ ((start .plain).run .plain mending).calls := by decide +kernel
  exact ⟨hc, run_code_admitted .plain mending he (some 0) .python "print(1)" hc⟩

end Machine

end CodeRepair
