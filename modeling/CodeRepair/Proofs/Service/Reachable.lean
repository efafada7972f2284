import CodeRepair.Proofs.Service.Tracing
import CodeRepair.Proofs.Session.Lifecycle

/-!
What holds of every service that is reached from the start: keys, jobs and calls name sessions that there are, and
every session is on a course that its operations allow.
-/
namespace CodeRepair

namespace Registry

variable {r r' : Registry} {place : Nat} {id : String}

def InRange (r : Registry) : Prop := ∀ e ∈ r.entries, e.2 < r.handles.length

theorem length_modify (r : Registry) (place : Nat) (f : Handle → Handle) :
    (r.modify place f).handles.length = r.handles.length := by
  simp [modify]

theorem InRange.modify (hr : r.InRange) (place : Nat) (f : Handle → Handle) : (r.modify place f).InRange :=
  fun e he ↦ by rw [length_modify]; exact hr e he

theorem InRange.remove (hr : r.InRange) (h : r.remove id = .ok (place, r')) :
    r'.InRange ∧ r'.handles.length = r.handles.length := by
  obtain ⟨key, -, -, rfl⟩ := remove_eq_ok h
  refine ⟨fun e he ↦ ?_, length_modify _ _ _⟩
  rw [length_modify]
  exact hr e (List.mem_filter.1 he).1

theorem InRange.evict (hr : r.InRange) (id : String) :
    (r.evict id).InRange ∧ (r.evict id).handles.length = r.handles.length := by
  unfold Registry.evict
  split
  next place r' h => exact hr.remove h
  · exact ⟨hr, rfl⟩

theorem InRange.insert (hr : r.InRange) {session : Session} {mode : Mode} {caller : Option Nat}
    (h : r.insert session mode caller = .ok (place, r')) :
    r'.InRange ∧ r'.handles.length = r.handles.length + 1 := by
  obtain ⟨key, -, -, rfl, rfl⟩ := insert_eq_ok h
  refine ⟨fun e he ↦ ?_, by simp⟩
  simp only [List.length_append, List.length_singleton]
  rcases List.mem_append.1 he with he | he
  · have := hr e (List.mem_filter.1 he).1
    omega
  · rw [List.mem_singleton.1 he]
    exact Nat.lt_succ_self _

theorem InRange.lookup (hr : r.InRange) (h : r.lookup id = .ok place) : place < r.handles.length := by
  obtain ⟨key, -, hf⟩ := lookup_eq_ok h
  obtain ⟨e, he, rfl⟩ := Option.map_eq_some_iff.1 hf
  exact hr e (List.mem_of_find?_eq_some he)

end Registry

namespace Machine

variable {s : Settings} {m m' : Machine} {now : Time.Stamp} {place job : Nat} {h : Handle} {mode : Mode}
  {phase phase' : Phase} {r : Registry} {calls : List (Option Nat × Call)}

structure InRange (m : Machine) : Prop where
  entries : m.registry.InRange
  phases : ∀ j phase place, m.phase? j = some phase → phase.place? = some place → place < m.registry.handles.length
  calls : ∀ place c, (some place, c) ∈ m.calls → place < m.registry.handles.length

theorem Progress.place? {action : Action} (hp : Progress s m now job action mode phase phase' r calls) :
    phase'.place? = none ∨ phase'.place? = phase.place? := by
  cases hp with
  | queued | entered | askedPrimary | askedFallback => exact .inr rfl
  | concluded _ _ => cases mode <;> simp [recordedPhase]
  | settled hs hf _ =>
    cases hs <;> cases mode <;> simp [recordedPhase, hf]
  | _ => exact .inl rfl

theorem Progress.calls_for {action : Action} (hp : Progress s m now job action mode phase phase' r calls) {c : Call}
    (hc : (some place, c) ∈ calls) : (some place, c) ∈ m.calls ∨ phase.place? = some place := by
  cases hp with
  | entered | askedPrimary | askedFallback =>
    rcases List.mem_append.1 hc with hc | hc
    · exact .inl hc
    · obtain ⟨hq, -⟩ := Prod.mk.inj (List.mem_singleton.1 hc)
      exact .inr hq.symm
  | _ => exact .inl hc

theorem Progress.inRange {action : Action} (hp : Progress s m now job action mode phase phase' r calls)
    (hr : m.registry.InRange) : r.InRange ∧ r.handles.length = m.registry.handles.length := by
  cases hp with
  | summedUp => exact hr.evict _
  | queued | refused | concluded | settled => exact ⟨hr.modify _ _, Registry.length_modify _ _ _⟩
  | ended =>
    obtain ⟨he, hl⟩ := Registry.InRange.evict (hr.modify _ _) _
    exact ⟨he, hl.trans (Registry.length_modify _ _ _)⟩
  | _ => exact ⟨hr, rfl⟩

theorem Arrival.inRange {request : Request} {bits : Nat} (ha : Arrival s m now bits request phase r calls)
    (hr : m.registry.InRange) : r.InRange ∧ m.registry.handles.length ≤ r.handles.length ∧
      (∀ place, phase.place? = some place → place < r.handles.length) ∧
      ∀ place c, (some place, c) ∈ calls → (some place, c) ∈ m.calls := by
  cases ha with
  | replied => exact ⟨hr, Nat.le_refl _, by simp, fun _ _ h ↦ h⟩
  | launched hl =>
    refine ⟨hr, Nat.le_refl _, fun place hp ↦ ?_, fun place c hc ↦ ?_⟩
    · cases hl <;> cases hp
    · rcases List.mem_append.1 hc with hc | hc
      · exact hc
      · cases List.mem_singleton.1 hc
  | @opened _ mode _ _ _ _ q _ _ _ _ hi =>
    obtain ⟨hr', hl⟩ := hr.insert hi
    refine ⟨hr', by omega, fun place hp ↦ ?_, fun _ _ h ↦ h⟩
    obtain ⟨-, -, -, hq, -⟩ := Registry.insert_eq_ok hi
    cases mode with
    | batch => cases hp; omega
    | paced => cases hp
  | queued hl =>
    refine ⟨hr.modify _ _, Nat.le_of_eq (Registry.length_modify _ _ _).symm, fun place hp ↦ ?_, fun _ _ h ↦ h⟩
    cases hp
    rw [enqueue, Registry.length_modify]
    exact hr.lookup hl
  | removed hrm _ =>
    obtain ⟨hr', hl⟩ := hr.remove hrm
    exact ⟨hr', Nat.le_of_eq hl.symm, by simp, fun _ _ h ↦ h⟩

theorem inRange_start (s : Settings) : (start s).InRange where
  entries e he := by simp [start, Registry.empty] at he
  phases j phase place hj := by simp [phase?, start] at hj
  calls place c hc := by simp [start] at hc

theorem inRange_step (hm : m.InRange) (s : Settings) (now : Time.Stamp) (action : Action) :
    (m.step s now action).InRange := by
  have hs := step_transition s m now action
  generalize m.step s now action = m' at hs ⊢
  cases hs with
  | ignored _ => exact hm
  | callerCancelled caller => exact ⟨hm.entries, hm.phases, hm.calls⟩
  | @arrived _ _ phase r calls ha =>
    obtain ⟨hr, hle, hplace, hcalls⟩ := ha.inRange hm.entries
    refine ⟨hr, fun j phase' place hj hp ↦ ?_, fun place c hc ↦ ?_⟩
    · by_cases he : j = m.jobs.length
      · subst he
        rw [phase?_arrived_self] at hj; cases hj
        exact hplace place hp
      · rw [phase?_arrived_ne m _ _ _ _ he] at hj
        exact Nat.lt_of_lt_of_le (hm.phases j phase' place hj hp) hle
    · exact Nat.lt_of_lt_of_le (hm.calls place c (hcalls place c hc)) hle
  | @moved _ job mode phase phase' r calls hj hp =>
    obtain ⟨hr, hl⟩ := hp.inRange hm.entries
    have hmine := hm.phases job phase
    refine ⟨hr, fun j phase'' place hj' hpl ↦ ?_, fun place c hc ↦ ?_⟩
    · have : place < m.registry.handles.length := by
        by_cases he : j = job
        · subst he
          rw [phase?_moved_self hj] at hj'; cases hj'
          rcases hp.place? with hn | hsame
          · rw [hn] at hpl; cases hpl
          · exact hmine place (phase?_of_job hj) (hsame ▸ hpl)
        · rw [phase?_moved_ne m _ _ _ he] at hj'
          exact hm.phases j phase'' place hj' hpl
      exact hl ▸ this
    · have : place < m.registry.handles.length := by
        rcases hp.calls_for hc with hc | hpl
        · exact hm.calls place c hc
        · exact hmine place (phase?_of_job hj) hpl
      exact hl ▸ this

theorem Arrival.traces {request : Request} {bits : Nat} (ha : Arrival s m now bits request phase r calls)
    (hm : m.InRange) (mode : Mode) (hnew : m.registry.handles[place]? = none) (hh : r.handles[place]? = some h) :
    ∃ x, Course.Reached s x ∧ (m.arrived mode phase r calls).Traces place h x := by
  cases ha with
  | replied | launched => rw [hnew] at hh; cases hh
  | queued hl =>
    rw [enqueue, Places.eq_none_of_length_eq (Registry.length_modify _ _ _).symm hnew] at hh; cases hh
  | removed hr _ =>
    rw [Places.eq_none_of_length_eq (hm.entries.remove hr).2.symm hnew] at hh; cases hh
  | @opened _ opening caller language code max _ _ _ hmin hmax hi =>
    have hge : m.registry.handles.length ≤ place := List.getElem?_eq_none_iff.1 hnew
    obtain ⟨key, -, -, -, rfl⟩ := Registry.insert_eq_ok hi
    rcases Places.concat_eq_some hh with hh | ⟨rfl, rfl⟩
    · rw [hnew] at hh; cases hh
    · refine ⟨_, .opened (SessionKey.ofBits bits) language code max now _ hmin hmax, hh, rfl, rfl, ?_, ?_⟩
      · refine List.filterMap_eq_nil_iff.2 fun c hc ↦ if_neg fun hp ↦ ?_
        exact absurd (hm.calls _ c.2 (hp ▸ hc)) (Nat.lt_irrefl _)
      · refine Line.empty fun j hj ↦ ?_
        obtain ⟨phase, hj, ht⟩ := Option.bind_eq_some_iff.1 hj
        by_cases he : j = m.jobs.length
        · subst he
          rw [phase?_arrived_self] at hj; cases hj
          rw [turn?_openedPhase] at ht; cases ht
        · rw [phase?_arrived_ne m _ _ _ _ he] at hj
          exact absurd (hm.phases j phase _ hj (Phase.place?_of_turn? ht)) (Nat.lt_irrefl _)

/-- Every session is on a course that its operations allow. -/
structure Tracked (s : Settings) (m : Machine) : Prop where
  inRange : m.InRange
  courses : ∀ place h, m.registry.handles[place]? = some h → ∃ x, Course.Reached s x ∧ m.Traces place h x

theorem tracked_start (s : Settings) : (start s).Tracked s where
  inRange := inRange_start s
  courses place h hh := by simp [start, Registry.empty] at hh

theorem Tracked.step (hm : m.Tracked s) (now : Time.Stamp) (action : Action) : (m.step s now action).Tracked s where
  inRange := inRange_step hm.inRange s now action
  courses place h' hh' := by
    cases hh : m.registry.handles[place]? with
    | some h =>
      obtain ⟨x, hx, ht⟩ := hm.courses place h hh
      obtain ⟨h'', y, ht', hs, -⟩ := ht.step hx.sound now action
      have he := ht'.handle
      rw [hh'] at he; cases he
      exact ⟨y, hx.step hs, ht'⟩
    | none =>
      have hs := step_transition s m now action
      generalize m.step s now action = m' at hs hh' ⊢
      cases hs with
      | ignored _ | callerCancelled _ => rw [hh] at hh'; cases hh'
      | arrived ha => exact ha.traces hm.inRange _ hh hh'
      | moved _ hp =>
        have hnone := Places.eq_none_of_length_eq (hp.inRange hm.inRange.entries).2.symm hh
        rw [Machine.moved, hnone] at hh'; cases hh'

theorem Tracked.run (hm : m.Tracked s) (events : List (Time.Stamp × Action)) : (m.run s events).Tracked s :=
  run_invariant events hm fun _ hm' e _ ↦ hm'.step e.1 e.2

theorem tracked (s : Settings) (events : List (Time.Stamp × Action)) : ((start s).run s events).Tracked s :=
  (tracked_start s).run events

/-- However the drivers of a session, its removal and its cancellation take turns, its log is whole and in order. -/
theorem session_log_intact (s : Settings) (events : List (Time.Stamp × Action)) (place : Nat) (h : Handle)
    (hh : ((start s).run s events).registry.handles[place]? = some h) : h.session.LogIntact := by
  obtain ⟨x, hx, ht⟩ := (tracked s events).courses place h hh
  rw [ht.session]
  exact hx.sound.session.log

theorem session_log_intact_mending :
    ∃ h, ((start .plain).run .plain mending).registry.handles[0]? = some h ∧
      h.session.attempts.map Attempt.codeUsed = ["print(1", "print(1)"] ∧ h.session.LogIntact := by
  have hcodes : (((start .plain).run .plain mending).registry.handles[0]?.map
      fun h ↦ h.session.attempts.map Attempt.codeUsed) = some ["print(1", "print(1)"] := by decide +kernel
  obtain ⟨h, hh, hcodes⟩ := Option.map_eq_some_iff.1 hcodes
  exact ⟨h, hh, hcodes, session_log_intact .plain mending 0 h hh⟩

/-- However the drivers of a session, its removal and its cancellation take turns, its state tells the truth about its
log and its token. -/
theorem session_truthful (s : Settings) (events : List (Time.Stamp × Action)) (place : Nat) (h : Handle)
    (hh : ((start s).run s events).registry.handles[place]? = some h) :
    h.session.Truthful s.config.retry.onNoFix (((start s).run s events).isCancelled h) := by
  obtain ⟨x, hx, ht⟩ := (tracked s events).courses place h hh
  rw [ht.session, ht.cancelled]
  exact hx.sound.session.truthful hx.sound.cancelled

theorem session_truthful_mending :
    ∃ h, ((start .plain).run .plain mending).registry.handles[0]? = some h ∧ h.session.state = .succeeded ∧
      h.session.Truthful .retryUnchanged (((start .plain).run .plain mending).isCancelled h) := by
  have hstate : (((start .plain).run .plain mending).registry.handles[0]?.map fun h ↦ h.session.state) =
      some .succeeded := by decide +kernel
  obtain ⟨h, hh, hstate⟩ := Option.map_eq_some_iff.1 hstate
  exact ⟨h, hh, hstate, session_truthful .plain mending 0 h hh⟩

end Machine

end CodeRepair
