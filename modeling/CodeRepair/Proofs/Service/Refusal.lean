import CodeRepair.Proofs.Service.Completion
import CodeRepair.Proofs.Service.Serving

/-!
What a step that fails leaves behind. It has made no call, the register holds what it held, and no record has changed,
save that of a cancelled session, which may have been given up. A paced session is not cancelled while it is
registered, so there a step fails only because the session is over.
-/
namespace CodeRepair

namespace Registry

/-- No registered session's own token is cancelled, and no paced session has a caller whose token could be. -/
structure Live (r : Registry) : Prop where
  token : ∀ e ∈ r.entries, ∀ h, r.handles[e.2]? = some h → h.cancelled = false
  caller : ∀ (place : Nat) h, r.handles[place]? = some h → h.mode = .paced → h.caller = none

variable {r r' : Registry} {place : Nat} {h : Handle} {text : String} {session : Session} {mode : Mode}
  {caller : Option Nat}

theorem mode_modify (r : Registry) (q place : Nat) {f : Handle → Handle} (hf : ∀ h, (f h).mode = h.mode) :
    (r.modify q f).handles[place]?.map Handle.mode = r.handles[place]?.map Handle.mode := by
  simp only [Registry.modify, List.getElem?_modify]
  cases r.handles[place]? with
  | none => rfl
  | some h => by_cases hq : q = place <;> simp [hq, hf]

theorem KeepsAt.mode_eq (hk : r.KeepsAt r' place) :
    r'.handles[place]?.map Handle.mode = r.handles[place]?.map Handle.mode := by
  rcases hk with hsame | ⟨h, hh, hoff⟩
  · rw [hsame]
  · rw [hh, hoff]
    rfl

namespace Live

theorem empty (capacity : Nat) : (Registry.empty capacity).Live where
  token e he := by simp [Registry.empty] at he
  caller place h hh := by simp [Registry.empty] at hh

theorem modify (hl : r.Live) (place : Nat) {f : Handle → Handle} (hcancelled : ∀ h, (f h).cancelled = h.cancelled)
    (hmode : ∀ h, (f h).mode = h.mode) (hcaller : ∀ h, (f h).caller = h.caller) : (r.modify place f).Live where
  token e he h' hh' := by
    rw [Registry.modify, List.getElem?_modify] at hh'
    obtain ⟨h, hh, rfl⟩ := Option.map_eq_some_iff.1 hh'
    have hoff := hl.token e he h hh
    split
    · rw [hcancelled]; exact hoff
    · exact hoff
  caller q h' hh' hp := by
    rw [Registry.modify, List.getElem?_modify] at hh'
    obtain ⟨h, hh, rfl⟩ := Option.map_eq_some_iff.1 hh'
    by_cases hq : place = q
    · simp only [if_pos hq] at hp ⊢
      rw [hmode] at hp
      rw [hcaller]
      exact hl.caller q h hh hp
    · simp only [if_neg hq] at hp ⊢
      exact hl.caller q h hh hp

theorem remove (hl : r.Live) (hf : r.Filed) (hr : r.remove text = .ok (place, r')) : r'.Live where
  token e he h hh := by
    obtain ⟨key, -, hfind, rfl⟩ := remove_eq_ok hr
    obtain ⟨hold, hne⟩ := List.mem_filter.1 he
    have hplace : place ≠ e.2 := by
      rintro rfl
      obtain ⟨h', hh', hid⟩ := hf.entries e hold
      have hkey := hf.id_of_entry hh' (hf.find?_eq_some_iff.1 hfind)
      simp [← hid, hkey] at hne
    rw [modify_ne _ _ hplace] at hh
    exact hl.token e hold h hh
  caller q h' hh' hp := by
    rcases keepsAt_remove hr q with hsame | ⟨h, hh, hoff⟩
    · exact hl.caller q h' (hsame ▸ hh') hp
    · rw [hh'] at hoff; cases hoff
      exact hl.caller q h hh hp

theorem evict (hl : r.Live) (hf : r.Filed) (id : String) : (r.evict id).Live := by
  unfold Registry.evict
  split
  next place r' hr => exact hl.remove hf hr
  · exact hl

theorem filed (hl : r.Live) (hf : r.Filed) (hcaller : mode = .paced → caller = none) :
    (r.filed session mode caller).Live where
  token e he h hh := by
    rcases List.mem_append.1 he with he | he
    · have hold := (List.mem_filter.1 he).1
      obtain ⟨h', hh', -⟩ := hf.entries e hold
      have hsame : (r.filed session mode caller).handles[e.2]? = some h' := Places.concat_of_some _ hh'
      rw [hh] at hsame; cases hsame
      exact hl.token e hold h hh'
    · rw [List.mem_singleton.1 he] at hh
      have hnew : (r.filed session mode caller).handles[r.handles.length]? =
          some ⟨session.id, mode, session, false, caller, []⟩ := by simp [Registry.filed]
      rw [hnew] at hh; cases hh
      rfl
  caller place h hh hp := by
    rcases Places.concat_eq_some hh with hh | ⟨-, rfl⟩
    · exact hl.caller place h hh hp
    · exact hcaller hp

end Live

end Registry

inductive StepError (text : String) : SessionError → Prop
  | invalidId {e : KeyError} : SessionKey.normalize text = .error e → StepError text (.invalidId e)
  | notFound {key : String} : SessionKey.normalize text = .ok key → StepError text (.notFound key)
  | alreadyComplete {key : String} : SessionKey.normalize text = .ok key → StepError text (.alreadyComplete key)
  | cancelled {key : String} : SessionKey.normalize text = .ok key → StepError text (.cancelled key)

/-- An attempt is under way for a job or has been its answer: no error follows. -/
def Phase.Engaged : Phase → Prop
  | .running .. | .askingPrimary _ | .askingFallback .. | .answered (.ok _) => True
  | _ => False

namespace Machine

def failure? (m : Machine) (job : Nat) : Option SessionError :=
  match m.phase? job with
  | some (.answered (.error e)) => some e
  | _ => none

/-- No call is made, and the register and every session are as they were, save that a cancelled session that still ran
may be given up. -/
structure WithoutEffect (m m' : Machine) : Prop where
  calls : m'.calls = m.calls
  entries : m'.registry.entries = m.registry.entries
  count : m'.registry.handles.length = m.registry.handles.length
  sessions : ∀ (place : Nat) h, m.registry.handles[place]? = some h →
    ∃ h', m'.registry.handles[place]? = some h' ∧ h'.id = h.id ∧ h'.mode = h.mode ∧
      (h'.session = h.session ∨
        h.session.state = .running ∧ m.isCancelled h = true ∧
          ∃ now, h'.session = { h.session with state := .cancelled, finishedAt := some now })

variable {s : Settings} {m : Machine} {now : Time.Stamp} {place job bits : Nat} {h : Handle} {x : Course}
  {mode : Mode} {phase phase' : Phase} {r : Registry} {calls : List (Option Nat × Call)} {action : Action}
  {text : String} {e : SessionError} {events : List (Time.Stamp × Action)}

theorem failure?_eq_some : m.failure? job = some e ↔ m.phase? job = some (.answered (.error e)) := by
  unfold failure?
  constructor
  · intro hf
    split at hf
    next hj => cases hf; exact hj
    · cases hf
  · intro hj
    rw [hj]

section Live

theorem Live.step (hl : m.registry.Live) (hk : m.Kept s) (now : Time.Stamp) (action : Action) :
    (m.step s now action).registry.Live := by
  have hs := step_transition s m now action
  generalize m.step s now action = m' at hs ⊢
  cases hs with
  | ignored | callerCancelled => exact hl
  | @arrived _ bits _ _ _ ha =>
    cases ha with
    | replied | launched => exact hl
    | @opened _ mode _ language code max _ _ ho _ _ hi =>
      obtain ⟨-, rfl, -⟩ := Registry.insert_eq_filed (normalize_start bits language code max now) hi
      refine hl.filed hk.filed fun hp ↦ ?_
      subst hp
      exact ho.caller_of_paced
    | queued => exact hl.modify _ (fun _ ↦ rfl) (fun _ ↦ rfl) fun _ ↦ rfl
    | removed hr => exact hl.remove hk.filed hr
  | @moved _ job _ _ _ _ _ _ hp =>
    have hleft (place : Nat) : (m.left now place job).Live :=
      hl.modify _ (fun _ ↦ rfl) (fun _ ↦ rfl) fun _ ↦ rfl
    cases hp with
    | summedUp => exact hl.evict hk.filed _
    | refused => exact hleft _
    | @ended place => exact (hleft place).evict (hk.left now place job) _
    | queued | concluded | settled => exact hl.modify _ (fun _ ↦ rfl) (fun _ ↦ rfl) fun _ ↦ rfl
    | _ => exact hl

theorem live (s : Settings) (events : List (Time.Stamp × Action)) : ((start s).run s events).registry.Live := by
  have hall : ((start s).run s events).Kept s ∧ ((start s).run s events).registry.Live := by
    refine run_invariant (P := fun m ↦ m.Kept s ∧ m.registry.Live) events ⟨kept_start s, .empty _⟩ ?_
    intro m' hm' event _
    exact ⟨hm'.1.step event.1 event.2, Live.step hm'.2 hm'.1 event.1 event.2⟩
  exact hall.2

theorem not_cancelled (hl : m.registry.Live) {entry : String × Nat} (he : entry ∈ m.registry.entries)
    (hh : m.registry.handles[entry.2]? = some h) (hp : h.mode = .paced) : m.isCancelled h = false := by
  have hoff := hl.token entry he h hh
  have hnone := hl.caller entry.2 h hh hp
  simp [isCancelled, hoff, hnone]

theorem Tracked.state_ne_cancelled (ht : m.Tracked s) (hh : m.registry.handles[place]? = some h)
    (hc : m.isCancelled h = false) : h.session.state ≠ .cancelled := by
  obtain ⟨x, hx, htrace⟩ := ht.courses place h hh
  intro hstate
  have hoff := hx.sound.cancelled (htrace.session ▸ hstate)
  rw [← htrace.cancelled, hc] at hoff
  cases hoff

end Live

theorem Traces.entry_of_run (ht : m.Traces place h x) (hx : x.Sound s) {key : String}
    (events events' : List (Time.Stamp × Action))
    (he : (key, place) ∈ (m.run s (events ++ events')).registry.entries) :
    (key, place) ∈ (m.run s events).registry.entries := by
  induction events' using List.reverseRecOn with
  | nil => simpa using he
  | append_singleton events' event ih =>
    obtain ⟨h', y, ht', -⟩ := ht.run hx (events ++ events')
    have hlt := (List.getElem?_eq_some_iff.1 ht'.handle).1
    rw [← List.append_assoc, run_append] at he
    rcases entries_step s (m.run s (events ++ events')) event.1 event.2 _ he with hold | hnew
    · exact ih hold
    · exact absurd hnew (Nat.ne_of_lt hlt)

section Own

theorem own_step (hj : m.jobs[job]? = some ⟨mode, phase⟩) (ha : action.job? = some job) (s : Settings)
    (now : Time.Stamp) :
    m.step s now action = m ∨
      ∃ phase' r calls, Progress s m now job action mode phase phase' r calls ∧
        m.step s now action = m.moved job phase' r calls := by
  have hs := step_transition s m now action
  generalize m.step s now action = m' at hs ⊢
  cases hs with
  | ignored => exact .inl rfl
  | callerCancelled | arrived => cases ha
  | @moved _ job' _ _ _ _ _ hj' hp =>
    rw [hp.job?] at ha; cases ha
    rw [hj] at hj'; cases hj'
    exact .inr ⟨_, _, _, hp, rfl⟩

theorem WithoutEffect.refl (m : Machine) : m.WithoutEffect m :=
  ⟨rfl, rfl, rfl, fun _ h hh ↦ ⟨h, hh, rfl, rfl, .inl rfl⟩⟩

theorem WithoutEffect.of_registry {m' : Machine} (hr : m'.registry = m.registry) (hc : m'.calls = m.calls) :
    m.WithoutEffect m' := by
  refine ⟨hc, by rw [hr], by rw [hr], fun place h hh ↦ ⟨h, ?_, rfl, rfl, .inl rfl⟩⟩
  rw [hr]
  exact hh

theorem WithoutEffect.of_enqueue {m' : Machine} (hr : m'.registry = (m.enqueue place job).registry)
    (hc : m'.calls = m.calls) : m.WithoutEffect m' := by
  refine ⟨hc, by rw [hr]; rfl, by rw [hr]; exact Registry.length_modify _ _ _, fun q h hh ↦ ?_⟩
  rw [hr, enqueue]
  by_cases hq : place = q
  · subst hq
    exact ⟨_, Registry.modify_self _ hh, rfl, rfl, .inl rfl⟩
  · exact ⟨h, (Registry.modify_ne _ _ hq).trans hh, rfl, rfl, .inl rfl⟩

theorem withoutEffect_refused (hh : m.registry.handles[place]? = some h)
    (ho : h.session.isComplete = true ∨ m.isCancelled h = true) (now : Time.Stamp) (phase : Phase) :
    m.WithoutEffect (m.moved job phase (m.left now place job) m.calls) := by
  refine ⟨rfl, rfl, Registry.length_modify _ _ _, fun q h' hh' ↦ ?_⟩
  by_cases hq : place = q
  · subst hq
    rw [hh] at hh'; cases hh'
    refine ⟨_, Registry.modify_self _ hh, rfl, rfl, ?_⟩
    by_cases hc : h.session.isComplete = true
    · exact .inl (Session.finish_of_complete _ _ hc)
    · have hrun : h.session.state = .running := by simpa [Session.isComplete_eq_false_iff] using hc
      exact .inr ⟨hrun, ho.resolve_left hc, now, Session.finish_of_running _ _ hrun⟩
  · exact ⟨h', (Registry.modify_ne _ _ hq).trans hh', rfl, rfl, .inl rfl⟩

theorem Progress.engaged (hp : Progress s m now job action .paced phase phase' r calls) (he : phase.Engaged) :
    phase'.Engaged := by
  cases hp with
  | refused | entered => exact he.elim
  | summedUp | queued => exact he.elim
  | executed | passed | debugged | askedPrimary | askedFallback | concluded | settled => trivial

theorem engaged_run (hj : m.jobs[job]? = some ⟨.paced, phase⟩) (he : phase.Engaged) (s : Settings)
    (events : List (Time.Stamp × Action)) :
    ∃ phase', (m.run s events).jobs[job]? = some ⟨.paced, phase'⟩ ∧ phase'.Engaged := by
  refine run_invariant (P := fun m ↦ ∃ phase', m.jobs[job]? = some ⟨.paced, phase'⟩ ∧ phase'.Engaged) events
    ⟨phase, hj, he⟩ ?_
  rintro m' ⟨phase', hj', he'⟩ event -
  rcases job_step hj' s event.1 event.2 with ⟨-, hsame⟩ | ⟨phase'', _, _, hp, hmoved, -⟩
  · exact ⟨phase', hsame, he'⟩
  · exact ⟨phase'', hmoved, hp.engaged he'⟩

theorem not_engaged_of_failure (hf : (m.run s events).failure? job = some e)
    (hj : m.jobs[job]? = some ⟨.paced, phase⟩) : ¬phase.Engaged := fun he ↦ by
  obtain ⟨phase', hj', he'⟩ := engaged_run hj he s events
  rw [failure?_eq_some, phase?_of_job hj'] at hf
  cases hf
  exact he'

theorem own_answered {answer : Answer} (hj : m.jobs[job]? = some ⟨mode, .answered answer⟩)
    (ha : action.job? = some job) (s : Settings) (now : Time.Stamp) : m.step s now action = m := by
  rcases own_step hj ha s now with hsame | ⟨_, _, _, hp, -⟩
  · exact hsame
  · exact absurd hp Progress.not_answered

end Own

theorem mode_step (hh : m.registry.handles[place]?.map Handle.mode = some mode) (s : Settings) (now : Time.Stamp)
    (action : Action) : (m.step s now action).registry.handles[place]?.map Handle.mode = some mode := by
  have hs := step_transition s m now action
  generalize m.step s now action = m' at hs ⊢
  cases hs with
  | ignored | callerCancelled => exact hh
  | arrived ha =>
    cases ha with
    | replied | launched => exact hh
    | opened _ _ _ hi =>
      obtain ⟨key, -, -, -, rfl⟩ := Registry.insert_eq_ok hi
      obtain ⟨h, hold, rfl⟩ := Option.map_eq_some_iff.1 hh
      exact congrArg (Option.map Handle.mode) (Places.concat_of_some _ hold)
    | queued => exact Eq.trans (Registry.mode_modify _ _ _ fun _ ↦ rfl) hh
    | removed hr => exact (Registry.keepsAt_remove hr place).mode_eq.trans hh
  | @moved _ job _ _ _ _ _ _ hp =>
    have hleft (q : Nat) : (m.left now q job).handles[place]?.map Handle.mode = some mode :=
      Eq.trans (Registry.mode_modify _ _ _ fun _ ↦ rfl) hh
    cases hp with
    | summedUp => exact (Registry.keepsAt_evict _ _ place).mode_eq.trans hh
    | refused => exact hleft _
    | ended => exact (Registry.keepsAt_evict _ _ place).mode_eq.trans (hleft _)
    | queued | concluded | settled => exact Eq.trans (Registry.mode_modify _ _ _ fun _ ↦ rfl) hh
    | _ => exact hh

theorem mode_run (hh : m.registry.handles[place]?.map Handle.mode = some mode) (s : Settings)
    (events : List (Time.Stamp × Action)) : (m.run s events).registry.handles[place]?.map Handle.mode = some mode :=
  run_invariant (P := fun m ↦ m.registry.handles[place]?.map Handle.mode = some mode) events hh
    fun _ hm event _ ↦ mode_step hm s event.1 event.2

/-- Where a job stands that was in line for an attempt of a session: it is in line, its attempt is under way, or it
has been refused; a paced session that is still registered was over then. -/
inductive Awaits (m : Machine) (place job : Nat) (id : String) (mode : Mode) : Prop
  | waiting : m.jobs[job]? = some ⟨.paced, .waiting place⟩ → Awaits m place job id mode
  | engaged {phase : Phase} : m.jobs[job]? = some ⟨.paced, phase⟩ → phase.Engaged → Awaits m place job id mode
  | complete : m.jobs[job]? = some ⟨.paced, .answered (.error (.alreadyComplete id))⟩ → Awaits m place job id mode
  | cancelled : m.jobs[job]? = some ⟨.paced, .answered (.error (.cancelled id))⟩ →
      (mode = .paced → ∀ key, (key, place) ∉ m.registry.entries) → Awaits m place job id mode

/-- A machine reached from the start, with the session at a place. -/
structure Standing (s : Settings) (m : Machine) (place : Nat) (h : Handle) : Prop where
  handle : m.registry.handles[place]? = some h
  tracked : m.Tracked s
  live : m.registry.Live

theorem Standing.awaits_refused (hst : Standing s m place h) (hj : m.jobs[job]? = some ⟨.paced, .waiting place⟩)
    (ho : h.session.isComplete = true ∨ m.isCancelled h = true) (now : Time.Stamp) :
    (m.moved job (.answered (.error (h.session.finish .cancelled now).refusal)) (m.left now place job)
      m.calls).Awaits place job h.session.id h.mode := by
  have hanswered := jobs_moved hj (.answered (.error (h.session.finish .cancelled now).refusal))
    (m.left now place job) m.calls
  by_cases hstate : (h.session.finish .cancelled now).state = .cancelled
  · have hrefusal : (h.session.finish .cancelled now).refusal = .cancelled h.session.id := by
      rw [Session.refusal, if_pos hstate, Session.finish_id]
    rw [hrefusal] at hanswered ⊢
    refine .cancelled hanswered fun hp key he ↦ ?_
    have hoff := not_cancelled hst.live he hst.handle hp
    have hcomplete := ho.resolve_right (by simp [hoff])
    rw [Session.finish_of_complete _ _ hcomplete] at hstate
    exact hst.tracked.state_ne_cancelled hst.handle hoff hstate
  · have hrefusal : (h.session.finish .cancelled now).refusal = .alreadyComplete h.session.id := by
      rw [Session.refusal, if_neg hstate, Session.finish_id]
    rw [hrefusal] at hanswered ⊢
    exact .complete hanswered

theorem Awaits.step {id : String} (ha : m.Awaits place job id mode) (hst : Standing s m place h)
    (hid : h.session.id = id) (hmode : h.mode = mode) (now : Time.Stamp) (action : Action) :
    (m.step s now action).Awaits place job id mode := by
  subst hid hmode
  cases ha with
  | waiting hj =>
    rcases job_step hj s now action with ⟨-, hsame⟩ | ⟨phase', r, calls, hp, hmoved, he⟩
    · exact .waiting hsame
    · cases hp with
      | refused hh _ ho =>
        rw [hst.handle] at hh; cases hh
        rw [he]
        exact hst.awaits_refused hj ho now
      | entered => exact .engaged hmoved trivial
      | debugged hs | settled hs => cases hs
  | engaged hj hengaged =>
    rcases job_step hj s now action with ⟨-, hsame⟩ | ⟨phase', r, calls, hp, hmoved, -⟩
    · exact .engaged hsame hengaged
    · exact .engaged hmoved (hp.engaged hengaged)
  | complete hj => exact .complete (answered_run hj s [(now, action)])
  | cancelled hj hout =>
    obtain ⟨x, hx, ht⟩ := hst.tracked.courses place h hst.handle
    refine .cancelled (answered_run hj s [(now, action)]) fun hp key he ↦ hout hp key ?_
    exact ht.entry_of_run hx.sound [] [(now, action)] he

theorem standing_run (s : Settings) (before events : List (Time.Stamp × Action))
    (hh : ((start s).run s before).registry.handles[place]? = some h) :
    ∃ h', Standing s (((start s).run s before).run s events) place h' ∧ h'.session.id = h.session.id ∧
      h'.mode = h.mode := by
  obtain ⟨x, hx, ht⟩ := (tracked s before).courses place h hh
  obtain ⟨h', y, ht', hl⟩ := ht.run hx.sound events
  have hid : h'.session.id = h.session.id := by
    rw [ht'.session, ht.session]
    exact hl.terms.1
  have hmode := mode_run (by rw [hh]; rfl : _ = some h.mode) s events
  rw [ht'.handle] at hmode
  rw [← run_append] at ht' ⊢
  exact ⟨h', ⟨ht'.handle, tracked s _, live s _⟩, hid, Option.some.inj hmode⟩

theorem awaits_run (s : Settings) (before events : List (Time.Stamp × Action))
    (hh : ((start s).run s before).registry.handles[place]? = some h)
    (hj : ((start s).run s before).jobs[job]? = some ⟨.paced, .waiting place⟩) :
    (((start s).run s before).run s events).Awaits place job h.session.id h.mode := by
  induction events using List.reverseRecOn with
  | nil => exact .waiting hj
  | append_singleton events event ih =>
    obtain ⟨h', hst, hid, hmode⟩ := standing_run s before events hh
    rw [run_append]
    exact ih.step hst hid hmode event.1 event.2

theorem Awaits.failure {id : String} (ha : m.Awaits place job id mode) (hf : m.failure? job = some e) :
    e = .alreadyComplete id ∨ e = .cancelled id ∧ (mode = .paced → ∀ key, (key, place) ∉ m.registry.entries) := by
  rw [failure?_eq_some] at hf
  cases ha with
  | waiting hj =>
    rw [phase?_of_job hj] at hf
    cases hf
  | engaged hj hengaged =>
    rw [phase?_of_job hj] at hf
    cases hf
    exact hengaged.elim
  | complete hj =>
    rw [phase?_of_job hj] at hf
    cases hf
    exact .inl rfl
  | cancelled hj hout =>
    rw [phase?_of_job hj] at hf
    cases hf
    exact .inr ⟨rfl, hout⟩

theorem Awaits.own_withoutEffect {id : String} (ha : m.Awaits place job id mode) (hown : action.job? = some job)
    (hf : ((m.step s now action).run s events).failure? job = some e) : m.WithoutEffect (m.step s now action) := by
  cases ha with
  | waiting hj =>
    rcases own_step hj hown s now with hsame | ⟨phase', r, calls, hp, he⟩
    · rw [hsame]
      exact .refl m
    · rw [he] at hf ⊢
      cases hp with
      | refused hh _ ho => exact withoutEffect_refused hh ho now _
      | entered => exact absurd trivial (not_engaged_of_failure hf (jobs_moved hj ..))
      | debugged hs | settled hs => cases hs
  | engaged hj hengaged =>
    have hfailed : (m.run s ((now, action) :: events)).failure? job = some e := hf
    exact absurd hengaged (not_engaged_of_failure hfailed hj)
  | complete hj | cancelled hj =>
    rw [own_answered hj hown]
    exact .refl m

/-- What is left behind by a step that fails: nothing that its job did had an effect, and on a paced session that is
registered it fails because the session is over. -/
structure Fails (s : Settings) (m : Machine) (arrival : Time.Stamp × Action) (text : String)
    (events : List (Time.Stamp × Action)) (e : SessionError) : Prop where
  reason : StepError text e
  arrives : m.WithoutEffect (m.run s [arrival])
  own : ∀ earlier event later, events = earlier ++ event :: later → event.2.job? = some m.jobs.length →
    (m.run s (arrival :: earlier)).WithoutEffect (m.run s (arrival :: earlier ++ [event]))
  registered : ∀ place h key, m.registry.lookup text = .ok place → m.registry.handles[place]? = some h →
    h.mode = .paced → (key, place) ∈ (m.run s (arrival :: events)).registry.entries → e = .alreadyComplete h.id

theorem fails_of_unnamed (hk : m.Kept s) (hl : m.registry.lookup text = .error e) (now : Time.Stamp) (bits : Nat)
    {e' : SessionError}
    (hf : (m.run s ((now, .arrive (.step text) bits) :: events)).failure? m.jobs.length = some e') :
    Fails s m (now, .arrive (.step text) bits) text events e' := by
  have hstep : m.run s [(now, .arrive (.step text) bits)] = m.replied .paced (.error e) :=
    step_step_error hl s now bits
  have hj : (m.run s [(now, .arrive (.step text) bits)]).jobs[m.jobs.length]? =
      some ⟨.paced, .answered (.error e)⟩ := by
    rw [hstep]
    exact List.getElem?_concat_length
  have hanswered (more : List (Time.Stamp × Action)) :
      (m.run s ((now, .arrive (.step text) bits) :: more)).jobs[m.jobs.length]? =
        some ⟨.paced, .answered (.error e)⟩ := answered_run hj s more
  have he : e' = e := by
    rw [failure?_eq_some, phase?_of_job (hanswered events)] at hf
    cases hf
    rfl
  subst he
  refine ⟨?_, ?_, fun earlier event later _ hown ↦ ?_, fun place h key hl' ↦ ?_⟩
  · rcases hk.filed.lookup_cases text with ⟨_, hn, hl', -⟩ | ⟨key, hn, -, hl', -⟩ | ⟨_, _, _, -, -, -, hl', -⟩
    · rw [hl] at hl'; cases hl'
      exact .invalidId hn
    · rw [hl] at hl'; cases hl'
      exact .notFound hn
    · rw [hl] at hl'; cases hl'
  · rw [hstep]
    exact .of_registry rfl rfl
  · have hsame : m.run s ((now, .arrive (.step text) bits) :: earlier ++ [event]) =
        m.run s ((now, .arrive (.step text) bits) :: earlier) := by
      rw [run_append]
      exact own_answered (hanswered earlier) hown s event.1
    rw [hsame]
    exact .refl _
  · rw [hl] at hl'; cases hl'

theorem fails_of_named {before : List (Time.Stamp × Action)} (hm : (start s).run s before = m)
    (hl : m.registry.lookup text = .ok place) (hh : m.registry.handles[place]? = some h)
    (hn : SessionKey.normalize text = .ok h.id) (now : Time.Stamp) (bits : Nat)
    (hf : (m.run s ((now, .arrive (.step text) bits) :: events)).failure? m.jobs.length = some e) :
    Fails s m (now, .arrive (.step text) bits) text events e := by
  have hk : m.Kept s := hm ▸ kept s before
  have hstep : m.run s [(now, .arrive (.step text) bits)] =
      m.arrived .paced (.waiting place) (m.enqueue place m.jobs.length).registry m.calls := step_step hl s now bits
  have hrun (more : List (Time.Stamp × Action)) :
      m.run s ((now, .arrive (.step text) bits) :: more) =
        ((start s).run s (before ++ [(now, .arrive (.step text) bits)])).run s more := by
    rw [run_append, hm]
    rfl
  have hj : (m.run s [(now, .arrive (.step text) bits)]).jobs[m.jobs.length]? = some ⟨.paced, .waiting place⟩ := by
    rw [hstep]
    exact List.getElem?_concat_length
  have hh₀ : (m.run s [(now, .arrive (.step text) bits)]).registry.handles[place]? =
      some { h with turns := h.turns ++ [m.jobs.length] } := by
    rw [hstep]
    exact Registry.modify_self _ hh
  have hawaits (more : List (Time.Stamp × Action)) :
      (m.run s ((now, .arrive (.step text) bits) :: more)).Awaits place m.jobs.length h.id h.mode := by
    have hall := awaits_run s (before ++ [(now, .arrive (.step text) bits)]) more
      ((hrun []).symm ▸ hh₀ : _ = some { h with turns := h.turns ++ [m.jobs.length] }) ((hrun []).symm ▸ hj)
    rw [hrun more, ← (hk.filed.named place h hh).2]
    exact hall
  refine ⟨?_, ?_, ?_, ?_⟩
  · rcases (hawaits events).failure hf with rfl | ⟨rfl, -⟩
    · exact .alreadyComplete hn
    · exact .cancelled hn
  · rw [hstep]
    exact .of_enqueue rfl rfl
  · rintro earlier event later rfl hown
    rw [← List.cons_append, run_append] at hf
    rw [run_append]
    exact (hawaits earlier).own_withoutEffect hown hf
  · intro q h' key hl' hh' hp he
    rw [hl] at hl'; cases hl'
    rw [hh] at hh'; cases hh'
    rcases (hawaits events).failure hf with rfl | ⟨-, hout⟩
    · rfl
    · exact absurd he (hout hp key)

/-- A step that fails is without effect, and a paced session is never cancelled while it is registered. -/
theorem failed_step_without_effect (s : Settings) (before : List (Time.Stamp × Action)) :
    let m := (start s).run s before
    (∀ now text bits events e,
      (m.run s ((now, .arrive (.step text) bits) :: events)).failure? m.jobs.length = some e →
        Fails s m (now, .arrive (.step text) bits) text events e) ∧
      ∀ h ∈ m.registry.registered, h.mode = .paced → h.session.state ≠ .cancelled := by
  intro m
  have hk := kept s before
  refine ⟨fun now text bits events e hf ↦ ?_, fun h hmem hp ↦ ?_⟩
  · rcases hk.filed.lookup_cases text with ⟨_, -, hl, -⟩ | ⟨_, -, -, hl, -⟩ | ⟨h, place, r, hn, -, hh, hl, -⟩
    · exact fails_of_unnamed hk hl now bits hf
    · exact fails_of_unnamed hk hl now bits hf
    · exact fails_of_named rfl hl hh hn now bits hf
  · obtain ⟨entry, he, hh⟩ := Registry.mem_registered.1 hmem
    exact (tracked s before).state_ne_cancelled hh (not_cancelled (live s before) he hh hp)

def single (stepped : Bool) : List (Time.Stamp × Action) :=
  (⟨0, 0⟩, .arrive (.start "python" "print(1)" none) 7) ::
    if stepped then
      [(⟨1, 0⟩, .arrive (.step (SessionKey.ofBits 7)) 0), (⟨1, 0⟩, .proceed 1), (⟨2, 0⟩, .ran 1 (.success "1" ""))]
    else []

/-- A session that is over is stepped, and one that is deleted while the step is in line. -/
theorem failed_step_without_effect_single :
    Fails .plain ((start .plain).run .plain (single true)) (⟨3, 0⟩, .arrive (.step (SessionKey.ofBits 7)) 0)
        (SessionKey.ofBits 7) [(⟨3, 0⟩, .proceed 2)] (.alreadyComplete (SessionKey.ofBits 7)) ∧
      Fails .plain ((start .plain).run .plain (single false)) (⟨1, 0⟩, .arrive (.step (SessionKey.ofBits 7)) 0)
        (SessionKey.ofBits 7) [(⟨1, 0⟩, .arrive (.delete (SessionKey.ofBits 7)) 0), (⟨2, 0⟩, .proceed 1)]
        (.cancelled (SessionKey.ofBits 7)) ∧
      ∃ h ∈ ((start .plain).run .plain (single true)).registry.registered,
        h.mode = .paced ∧ h.session.state ≠ .cancelled := by
  have hover : (((start .plain).run .plain (single true)).run .plain
      [(⟨3, 0⟩, .arrive (.step (SessionKey.ofBits 7)) 0), (⟨3, 0⟩, .proceed 2)]).failure?
        ((start .plain).run .plain (single true)).jobs.length = some (.alreadyComplete (SessionKey.ofBits 7)) := by
    decide +kernel
  have hcancelled : (((start .plain).run .plain (single false)).run .plain
      [(⟨1, 0⟩, .arrive (.step (SessionKey.ofBits 7)) 0), (⟨1, 0⟩, .arrive (.delete (SessionKey.ofBits 7)) 0),
        (⟨2, 0⟩, .proceed 1)]).failure? ((start .plain).run .plain (single false)).jobs.length =
          some (.cancelled (SessionKey.ofBits 7)) := by
    decide +kernel
  have hpaced : ∃ h ∈ ((start .plain).run .plain (single true)).registry.registered, h.mode = .paced := by
    decide +kernel
  obtain ⟨h, hmem, hp⟩ := hpaced
  exact ⟨(failed_step_without_effect .plain (single true)).1 _ _ _ _ _ hover,
    (failed_step_without_effect .plain (single false)).1 _ _ _ _ _ hcancelled,
    h, hmem, hp, (failed_step_without_effect .plain (single true)).2 h hmem hp⟩

end Machine

end CodeRepair
