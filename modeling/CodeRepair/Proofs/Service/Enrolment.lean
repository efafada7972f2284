import CodeRepair.Proofs.Service.Requests
import CodeRepair.Proofs.Service.Tracing
import CodeRepair.Proofs.Session.Entries
import Mathlib.Data.List.Induction

/-!
Which sessions are registered. Whatever is asked of a service, and in whatever order its jobs go on, the register
holds the sessions that were opened and not closed since, each under its id, and the paced ones are never too many.
-/
namespace CodeRepair

/-- The budget of the session that a request asks for, when the request passes the checks on it. -/
def Settings.budget? (s : Settings) : Request → Option Nat
  | .run language code asked _ | .start language code asked =>
    (s.validate language code).toOption.bind fun _ ↦ (s.resolveMaxAttempts asked).toOption
  | .runChecked _ _ max _ | .startChecked _ _ max => some max
  | _ => none

def Settings.drawn? (s : Settings) : Action → Option String
  | .arrive request bits =>
    (s.budget? request).bind fun max ↦
      if 1 ≤ max ∧ max ≤ maxAttemptsCeiling then some (SessionKey.ofBits bits) else none
  | _ => none

theorem Session.finish_id (x : Session) (st : SessionState) (now : Time.Stamp) : (x.finish st now).id = x.id := by
  unfold finish
  split <;> rfl

/-- What a text names in a register: the session with that id, or the reason why there is none. -/
inductive Registry.Names (r : Registry) (text : String) : Except SessionError Handle → Prop
  | invalid {e : KeyError} : SessionKey.normalize text = .error e → Names r text (.error (.invalidId e))
  | missing {key : String} : SessionKey.normalize text = .ok key → (∀ h ∈ r.registered, h.id ≠ key) →
      Names r text (.error (.notFound key))
  | found {h : Handle} : SessionKey.normalize text = .ok h.id → h ∈ r.registered → Names r text (.ok h)

namespace Machine

variable {s : Settings} {m m' : Machine} {now : Time.Stamp} {bits job place max : Nat} {request : Request}
  {mode : Mode} {caller : Option Nat} {language : Language} {code text : String} {h : Handle} {phase phase' : Phase}
  {r : Registry} {calls : List (Option Nat × Call)} {action : Action} {answer : Answer}

theorem Opens.drawn? (ho : Opens s request mode caller language code max) (hmin : 1 ≤ max)
    (hmax : max ≤ maxAttemptsCeiling) (bits : Nat) :
    s.drawn? (.arrive request bits) = some (SessionKey.ofBits bits) := by
  have hbudget : s.budget? request = some max := by
    cases ho with
    | @run name code asked _ _ _ hv hr | @start name code asked _ _ hv hr =>
      change ((s.validate name code).toOption.bind fun _ ↦ (s.resolveMaxAttempts asked).toOption) = some max
      rw [hv, hr]
      rfl
    | runChecked | startChecked => rfl
  rw [Settings.drawn?, hbudget, Option.bind_some, if_pos ⟨hmin, hmax⟩]

theorem Opens.asksSession (ho : Opens s request mode caller language code max) : request.asksSession = true := by
  cases ho <;> rfl

def told (m : Machine) (job : Nat) : List String :=
  match m.phase? job with
  | some (.answered (.ok (.summary sum))) => [sum.sessionId]
  | _ => []

def failed (m : Machine) (job : Nat) : Bool :=
  match m.phase? job with
  | some (.answered (.error _)) => true
  | _ => false

/-- The sessions closed by an action that leads from one machine to another: a removal, or the end of a batch job, is
answered with the summary of the session. -/
def closes (m m' : Machine) : Action → List String
  | .arrive (.delete _) _ => m'.told m.jobs.length
  | .proceed job => if m.told job = [] then m'.told job else []
  | _ => []

/-- The sessions opened by an action that leads from one machine to another: a request for one does not fail. -/
def opens (m m' : Machine) : Action → List String
  | .arrive request bits =>
    if request.asksSession && !m'.failed m.jobs.length then [SessionKey.ofBits bits] else []
  | _ => []

/-- The ids of the sessions that have been opened and not closed since, the oldest first. -/
def ledger (s : Settings) : Machine → List (Time.Stamp × Action) → List String → List String
  | _, [], ids => ids
  | m, e :: events, ids =>
    let m' := m.step s e.1 e.2
    ledger s m' events (ids.filter (· ∉ m.closes m' e.2) ++ m.opens m' e.2)

theorem ledger_concat (s : Settings) (m : Machine) (events : List (Time.Stamp × Action)) (e : Time.Stamp × Action)
    (ids : List String) :
    ledger s m (events ++ [e]) ids =
      (ledger s m events ids).filter (· ∉ (m.run s events).closes (m.run s (events ++ [e])) e.2) ++
        (m.run s events).opens (m.run s (events ++ [e])) e.2 := by
  induction events generalizing m ids with
  | nil => rfl
  | cons e' events ih => exact ih _ _

section Kept

/-- The register is in order, and its capacity is the one that was configured. -/
structure Kept (s : Settings) (m : Machine) : Prop where
  filed : m.registry.Filed
  capacity : m.registry.capacity = s.config.retry.maxSessions

theorem kept_start (s : Settings) : (start s).Kept s := ⟨.empty _, rfl⟩

theorem normalize_start (bits : Nat) (language : Language) (code : String) (max : Nat) (now : Time.Stamp) :
    SessionKey.normalize (Session.start (SessionKey.ofBits bits) language code max now).id =
      .ok (Session.start (SessionKey.ofBits bits) language code max now).id :=
  SessionKey.normalize_ofBits bits

theorem Kept.arrival (hm : m.Kept s) (ha : Arrival s m now bits request phase r calls) :
    r.Filed ∧ r.capacity = m.registry.capacity := by
  cases ha with
  | replied | launched => exact ⟨hm.filed, rfl⟩
  | @opened _ _ _ language code max _ _ _ _ _ hi =>
    have hn := normalize_start bits language code max now
    obtain ⟨-, rfl, hroom⟩ := Registry.insert_eq_filed hn hi
    exact ⟨hm.filed.filed hn _ hroom, rfl⟩
  | queued => exact ⟨hm.filed.modify _ (fun _ ↦ rfl) (fun _ ↦ rfl) (fun _ ↦ rfl), rfl⟩
  | removed hr _ =>
    obtain ⟨-, -, -, hf, hc, -⟩ := hm.filed.remove hr
    exact ⟨hf, hc⟩

theorem Kept.left (hm : m.Kept s) (now : Time.Stamp) (place job : Nat) : (m.left now place job).Filed :=
  hm.filed.modify _ (fun _ ↦ rfl) (fun _ ↦ rfl) (fun _ ↦ Session.finish_id _ _ _)

theorem Kept.recorded (hm : m.Kept s) (now : Time.Stamp) (place job : Nat) (a : Attempt) :
    (m.recorded s now place job a).Filed :=
  hm.filed.modify _ (fun _ ↦ rfl) (fun _ ↦ rfl) (fun _ ↦ Session.extend_id _ _ _ _)

theorem Kept.progress (hm : m.Kept s) (hp : Progress s m now job action mode phase phase' r calls) :
    r.Filed ∧ r.capacity = m.registry.capacity := by
  cases hp with
  | @summedUp _ place h hh =>
    obtain ⟨hf, hc, -⟩ := hm.filed.evict (hm.filed.named place h hh).1
    exact ⟨hf, hc⟩
  | queued => exact ⟨hm.filed.modify _ (fun _ ↦ rfl) (fun _ ↦ rfl) (fun _ ↦ rfl), rfl⟩
  | refused => exact ⟨hm.left _ _ _, rfl⟩
  | @ended place h hh =>
    obtain ⟨hf, hc, -⟩ := (hm.left now place job).evict (hm.filed.named place h hh).1
    exact ⟨hf, hc⟩
  | concluded | settled => exact ⟨hm.recorded _ _ _ _, rfl⟩
  | _ => exact ⟨hm.filed, rfl⟩

theorem Kept.step (hm : m.Kept s) (now : Time.Stamp) (action : Action) : (m.step s now action).Kept s := by
  have hs := step_transition s m now action
  generalize m.step s now action = m' at hs ⊢
  cases hs with
  | ignored => exact hm
  | callerCancelled => exact ⟨hm.filed, hm.capacity⟩
  | arrived ha =>
    obtain ⟨hf, hc⟩ := hm.arrival ha
    exact ⟨hf, hc.trans hm.capacity⟩
  | moved _ hp =>
    obtain ⟨hf, hc⟩ := hm.progress hp
    exact ⟨hf, hc.trans hm.capacity⟩

theorem kept (s : Settings) (events : List (Time.Stamp × Action)) : ((start s).run s events).Kept s :=
  run_invariant events (kept_start s) fun _ hm e _ ↦ hm.step e.1 e.2

end Kept

section Ledger

def ids (m : Machine) : List String := m.registry.registered.map Handle.id

theorem map_id_filter (hs : List Handle) (key : String) :
    (hs.filter (·.id ≠ key)).map Handle.id = (hs.map Handle.id).filter (· ∉ [key]) := by
  rw [List.filter_map]
  congr 1
  refine List.filter_congr fun h _ ↦ ?_
  simp

theorem ids_modify (r : Registry) (place : Nat) {f : Handle → Handle} (hf : ∀ h, (f h).id = h.id) :
    (r.modify place f).registered.map Handle.id = r.registered.map Handle.id := Registry.registered_modify r place _ hf

theorem told_eq_nil (hj : m.phase? job = some phase) (hp : ∀ sum, phase ≠ .answered (.ok (.summary sum))) :
    m.told job = [] := by
  unfold told
  rw [hj]
  split
  next sum he => exact absurd (Option.some.inj he) (hp sum)
  · rfl

theorem closes_proceed {sum : Summary} (hj : m.phase? job = some phase)
    (hp : ∀ sum, phase ≠ .answered (.ok (.summary sum)))
    (hj' : m'.phase? job = some (.answered (.ok (.summary sum)))) :
    m.closes m' (.proceed job) = [sum.sessionId] := by
  rw [closes, if_pos (told_eq_nil hj hp)]
  simp [told, hj']

theorem ids_left (m : Machine) (now : Time.Stamp) (place job : Nat) :
    (m.left now place job).registered.map Handle.id = m.ids := ids_modify _ _ fun _ ↦ rfl

theorem ids_recorded (s : Settings) (m : Machine) (now : Time.Stamp) (place job : Nat) (a : Attempt) :
    (m.recorded s now place job a).registered.map Handle.id = m.ids := ids_modify _ _ fun _ ↦ rfl

/-- When a job moves, the register loses the session whose end it is answered with, and no other. -/
theorem Kept.ids_progress (hm : m.Kept s) (hj : m.jobs[job]? = some ⟨mode, phase⟩)
    (hp : Progress s m now job action mode phase phase' r calls) :
    r.registered.map Handle.id = m.ids.filter (· ∉ m.closes (m.moved job phase' r calls) action) := by
  have hphase := phase?_of_job hj
  have hphase' := phase?_moved_self hj phase' r calls
  have stays (hids : r.registered.map Handle.id = m.ids) (hnone : m.closes (m.moved job phase' r calls) action = []) :
      r.registered.map Handle.id = m.ids.filter (· ∉ m.closes (m.moved job phase' r calls) action) := by
    rw [hnone, hids]
    simp
  have open_ (hnone : ∀ sum, phase' ≠ .answered (.ok (.summary sum))) :
      m.closes (m.moved job phase' r calls) (.proceed job) = [] := by
    simp [closes, told_eq_nil hphase' hnone]
  cases hp with
  | @summedUp _ place h hh =>
    obtain ⟨hn, hid⟩ := hm.filed.named place h hh
    obtain ⟨-, -, hreg⟩ := hm.filed.evict hn
    rw [closes_proceed hphase (by simp) hphase', hreg, map_id_filter]
    simp only [Session.summary, hid]
    rfl
  | @ended place h hh =>
    obtain ⟨hn, hid⟩ := hm.filed.named place h hh
    obtain ⟨-, -, hreg⟩ := (hm.left now place job).evict hn
    rw [closes_proceed hphase (by simp) hphase', hreg, map_id_filter, ids_left]
    simp only [Session.summary, Session.finish_id, hid]
  | queued => exact stays (ids_modify _ _ fun _ ↦ rfl) (open_ (by simp))
  | refused => exact stays (ids_left ..) (open_ (by simp))
  | entered => exact stays rfl (open_ (by simp))
  | concluded | settled => exact stays (ids_recorded ..) rfl
  | _ => exact stays rfl rfl

theorem phase?_replied (m : Machine) (mode : Mode) (answer : Answer) :
    (m.replied mode answer).phase? m.jobs.length = some (.answered answer) := phase?_arrived_self ..

theorem closes_of_asksSession (hr : request.asksSession = true) (m m' : Machine) (bits : Nat) :
    m.closes m' (.arrive request bits) = [] := by
  cases request with
  | delete => cases hr
  | _ => rfl

theorem failed_openedPhase (m : Machine) (place : Nat) (sum : Summary) (mode : Mode) (r : Registry)
    (calls : List (Option Nat × Call)) :
    (m.arrived mode (openedPhase place sum mode) r calls).failed m.jobs.length = false := by
  unfold failed
  rw [phase?_arrived_self]
  cases mode <;> rfl

theorem registered_of_not_mem {id : String} (hnew : id ∉ m.ids) :
    m.registry.registered.filter (·.id ≠ id) = m.registry.registered := by
  refine List.filter_eq_self.2 fun h hmem ↦ ?_
  have hne : h.id ≠ id := fun hid ↦ hnew (hid ▸ List.mem_map_of_mem hmem)
  simp [hne]

theorem Kept.ids_open (hm : m.Kept s) (hr : request.asksSession = true) (now : Time.Stamp)
    (hfresh : ∀ id, s.drawn? (.arrive request bits) = some id → id ∉ m.ids) :
    (m.step s now (.arrive request bits)).ids =
      m.ids ++ m.opens (m.step s now (.arrive request bits)) (.arrive request bits) := by
  have fails {mode e} (he : m.step s now (.arrive request bits) = m.replied mode (.error e)) :
      (m.step s now (.arrive request bits)).ids =
        m.ids ++ m.opens (m.step s now (.arrive request bits)) (.arrive request bits) := by
    have hfailed : (m.replied mode (.error e)).failed m.jobs.length = true := by
      unfold failed
      rw [phase?_replied]
    rw [he]
    simp [opens, hr, hfailed]
    rfl
  rcases refused_or_opens hr s m now bits with ⟨mode, e, he⟩ | ⟨mode, caller, language, code, max, ho, hmin, hmax⟩
  · exact fails he
  · have hn := normalize_start bits language code max now
    by_cases hroom : mode = .paced → m.registry.pacedCount < m.registry.capacity
    · have hothers := registered_of_not_mem (hfresh _ (ho.drawn? hmin hmax bits))
      rw [step_opened ho hmin hmax (Registry.insert_filed hn caller hroom)]
      simp only [opens, hr, failed_openedPhase]
      refine (congrArg (List.map Handle.id) (hm.filed.registered_filed _ mode caller)).trans ?_
      rw [List.map_append]
      exact congrArg (fun hs ↦ List.map Handle.id hs ++ [SessionKey.ofBits bits]) hothers
    · obtain ⟨rfl, hfull⟩ := Classical.not_imp.1 hroom
      exact fails (step_unopened ho hmin hmax (Registry.insert_full hn caller (Nat.not_lt.1 hfull)))

theorem Kept.ids_arrive (hm : m.Kept s) (hr : request.asksSession = false) (now : Time.Stamp) (bits : Nat) :
    (m.step s now (.arrive request bits)).ids =
      m.ids.filter (· ∉ m.closes (m.step s now (.arrive request bits)) (.arrive request bits)) := by
  by_cases hdelete : ∃ text, request = .delete text
  · obtain ⟨text, rfl⟩ := hdelete
    have fails {e} (he : m.registry.remove text = .error e) :
        (m.step s now (.arrive (.delete text) bits)).ids =
          m.ids.filter (· ∉ m.closes (m.step s now (.arrive (.delete text) bits)) (.arrive (.delete text) bits)) := by
      rw [step_delete_error he]
      have hnone : (m.replied .paced (.error e)).told m.jobs.length = [] :=
        told_eq_nil (phase?_replied m _ _) (by simp)
      simp [closes, hnone]
      rfl
    rcases hm.filed.lookup_cases text with ⟨e, -, -, he⟩ | ⟨key, -, -, -, he⟩ | ⟨h, place, r, hn, -, hh, -, hrm⟩
    · exact fails he
    · exact fails he
    · obtain ⟨h', hh', -, -, -, hreg⟩ := hm.filed.remove hrm
      rw [hh] at hh'; cases hh'
      rw [step_delete hrm hh]
      have htold : (m.arrived .paced (.answered (.ok (.summary (h.session.summary now)))) r m.calls).told
          m.jobs.length = [h.id] := by
        rw [← (hm.filed.named place h hh).2]
        simp [told, phase?_arrived_self, Session.summary]
      simp only [closes, htold]
      exact (congrArg (List.map Handle.id) hreg).trans (map_id_filter _ _)
  · have hnone (m' : Machine) : m.closes m' (.arrive request bits) = [] := by
      cases request with
      | delete text => exact absurd ⟨text, rfl⟩ hdelete
      | _ => rfl
    obtain ⟨phase, r, calls, ha, he⟩ := arrive_arrival s m now request bits
    rw [he, hnone]
    simp only [List.not_mem_nil, not_false_eq_true, decide_true, List.filter_true]
    cases ha with
    | replied | launched => rfl
    | opened ho => rw [ho.asksSession] at hr; cases hr
    | queued => exact ids_modify _ _ fun _ ↦ rfl
    | removed => exact absurd ⟨_, rfl⟩ hdelete

theorem Kept.ids_step (hm : m.Kept s) (now : Time.Stamp) (action : Action)
    (hfresh : ∀ id, s.drawn? action = some id → id ∉ m.ids) :
    (m.step s now action).ids =
      m.ids.filter (· ∉ m.closes (m.step s now action) action) ++ m.opens (m.step s now action) action := by
  by_cases harrive : ∃ request bits, action = .arrive request bits
  · obtain ⟨request, bits, rfl⟩ := harrive
    cases hr : request.asksSession with
    | true =>
      rw [closes_of_asksSession hr, hm.ids_open hr now hfresh]
      simp
    | false =>
      rw [hm.ids_arrive hr now bits]
      simp [opens, hr]
  · have hnone (m' : Machine) : m.opens m' action = [] := by
      cases action with
      | arrive request bits => exact absurd ⟨request, bits, rfl⟩ harrive
      | _ => rfl
    rw [hnone, List.append_nil]
    have hs := step_transition s m now action
    generalize m.step s now action = m' at hs ⊢
    cases hs with
    | ignored hi =>
      cases action with
      | proceed job =>
        have : m.closes m (.proceed job) = [] := by simp [closes]
        simp [this]
      | arrive => exact hi.elim
      | _ => simp [closes]
    | callerCancelled => simp [closes]; rfl
    | arrived => exact absurd ⟨_, _, rfl⟩ harrive
    | moved hj hp => exact hm.ids_progress hj hp

end Ledger

section Drawn

def known (r : Registry) : List String := r.handles.map Handle.id

theorem known_modify (r : Registry) (place : Nat) {f : Handle → Handle} (hf : ∀ h, (f h).id = h.id) :
    known (r.modify place f) = known r := by
  refine List.ext_getElem? fun i ↦ ?_
  simp only [known, Registry.modify, List.getElem?_map, List.getElem?_modify]
  cases r.handles[i]? with
  | none => rfl
  | some h => by_cases hi : place = i <;> simp [hi, hf]

theorem known_remove (hr : m.registry.remove text = .ok (place, r)) : known r = known m.registry := by
  obtain ⟨key, -, -, rfl⟩ := Registry.remove_eq_ok hr
  exact known_modify { m.registry with entries := m.registry.entries.filter (·.1 ≠ key) } place fun _ ↦ rfl

theorem known_evict (r : Registry) (id : String) : known (r.evict id) = known r := by
  unfold Registry.evict
  split
  next place r' hr =>
    obtain ⟨key, -, -, rfl⟩ := Registry.remove_eq_ok hr
    exact known_modify { r with entries := r.entries.filter (·.1 ≠ key) } place fun _ ↦ rfl
  · rfl

theorem known_step (s : Settings) (m : Machine) (now : Time.Stamp) (action : Action) :
    known (m.step s now action).registry = known m.registry ∨
      ∃ id, s.drawn? action = some id ∧ known (m.step s now action).registry = known m.registry ++ [id] := by
  have hs := step_transition s m now action
  generalize m.step s now action = m' at hs ⊢
  cases hs with
  | ignored | callerCancelled => exact .inl rfl
  | @arrived _ bits _ _ _ ha =>
    cases ha with
    | replied | launched => exact .inl rfl
    | opened ho hmin hmax hi =>
      obtain ⟨key, -, -, -, rfl⟩ := Registry.insert_eq_ok hi
      exact .inr ⟨_, ho.drawn? hmin hmax bits, List.map_append⟩
    | queued => exact .inl (known_modify _ _ fun _ ↦ rfl)
    | removed hr _ => exact .inl (known_remove hr)
  | moved _ hp =>
    refine .inl ?_
    cases hp with
    | summedUp => exact known_evict _ _
    | ended => exact (known_evict _ _).trans (known_modify _ _ fun _ ↦ rfl)
    | queued | refused | concluded | settled => exact known_modify _ _ fun _ ↦ rfl
    | _ => rfl

def drawn (s : Settings) (events : List (Time.Stamp × Action)) : List String := events.filterMap fun e ↦ s.drawn? e.2

theorem known_sublist (s : Settings) (events : List (Time.Stamp × Action)) :
    (known ((start s).run s events).registry).Sublist (drawn s events) := by
  induction events using List.reverseRecOn with
  | nil => exact .refl _
  | append_singleton events e ih =>
    have hdrawn : drawn s (events ++ [e]) = drawn s events ++ (s.drawn? e.2).toList := by
      cases hd : s.drawn? e.2 <;> simp [drawn, hd]
    rw [run_append, hdrawn]
    rcases known_step s ((start s).run s events) e.1 e.2 with hsame | ⟨id, hid, hnew⟩
    · exact (hsame ▸ ih).trans (List.sublist_append_left _ _)
    · rw [hid]
      exact hnew ▸ ih.append (.refl _)

theorem ids_subset (m : Machine) : m.ids ⊆ known m.registry := by
  intro id hid
  obtain ⟨h, hmem, rfl⟩ := List.mem_map.1 hid
  obtain ⟨e, -, hh⟩ := Registry.mem_registered.1 hmem
  exact List.mem_map_of_mem (List.mem_of_getElem? hh)

/-- While no id is made twice, the registered sessions are those opened and not closed since. -/
theorem ids_eq_ledger (s : Settings) (events : List (Time.Stamp × Action)) (hids : (drawn s events).Nodup) :
    ((start s).run s events).ids = ledger s (start s) events [] := by
  induction events using List.reverseRecOn with
  | nil => rfl
  | append_singleton events e ih =>
    rw [drawn, List.filterMap_append, List.nodup_append] at hids
    obtain ⟨hbefore, -, hapart⟩ := hids
    -- an id stays drawn when its session is closed, so the ids ever known are what a new one is apart from
    have hfresh (id : String) (hid : s.drawn? e.2 = some id) : id ∉ ((start s).run s events).ids := by
      intro hmem
      have hold := (known_sublist s events).subset (ids_subset _ hmem)
      exact hapart id hold id (by simp [hid]) rfl
    rw [ledger_concat, ← ih hbefore, run_append]
    exact (kept s events).ids_step e.1 e.2 hfresh

end Drawn

section Map

/-- How requests that name a session by a text are served, given what the text names. -/
structure Serves (s : Settings) (m : Machine) (now : Time.Stamp) (bits : Nat) (text : String)
    (found : Except SessionError Handle) : Prop where
  get : m.step s now (.arrive (.get text) bits) =
    m.replied .paced (found.map fun h ↦ .summary (h.session.summary now))
  delete : ∃ r, m.step s now (.arrive (.delete text) bits) =
      m.arrived .paced (.answered (found.map fun h ↦ .summary (h.session.summary now))) r m.calls ∧
    r.registered = m.registry.registered.filter fun h ↦ SessionKey.normalize text ≠ .ok h.id
  step : match found with
    | .error e => m.step s now (.arrive (.step text) bits) = m.replied .paced (.error e)
    | .ok h => ∃ place, m.registry.handles[place]? = some h ∧ m.step s now (.arrive (.step text) bits) =
        m.arrived .paced (.waiting place) (m.enqueue place m.jobs.length).registry m.calls

/-- How a request for a session is served that has passed the checks on it. A paced one fails when the paced sessions
are as many as there may be, and then changes nothing; a batch one never fails, and takes no room from paced ones. -/
structure Enrols (s : Settings) (m : Machine) (now : Time.Stamp) (bits : Nat) (request : Request) (mode : Mode)
    (caller : Option Nat) (session : Session) : Prop where
  full : mode = .paced → m.registry.pacedCount = s.config.retry.maxSessions →
    m.step s now (.arrive request bits) = m.replied .paced (.error (.capacityReached s.config.retry.maxSessions))
  room : (mode = .paced → m.registry.pacedCount ≠ s.config.retry.maxSessions) → ∃ place r,
    m.step s now (.arrive request bits) = m.arrived mode (openedPhase place (session.summary now) mode) r m.calls ∧
      r.registered = m.registry.registered ++ [⟨session.id, mode, session, false, caller, []⟩] ∧
      r.pacedCount = m.registry.pacedCount + if mode = .paced then 1 else 0

/-- A listing has every registered session once, and none before one that started later. -/
def Lists (s : Settings) (m : Machine) (now : Time.Stamp) (bits : Nat) : Prop :=
  ∃ sums, m.step s now (.arrive .list bits) = m.replied .paced (.ok (.summaries sums)) ∧
    sums.Perm (m.registry.registered.map (·.session.summary now)) ∧ (sums.map Summary.sessionId).Nodup ∧
    sums.Pairwise fun a b ↦ a.startedAt.isBefore b.startedAt = false

theorem Kept.nodup_ids (hm : m.Kept s) : m.ids.Nodup := by
  rw [ids, hm.filed.map_id]
  exact hm.filed.nodup

theorem Kept.serves (hm : m.Kept s) (now : Time.Stamp) (bits : Nat) (text : String) :
    ∃ found, m.registry.Names text found ∧ Serves s m now bits text found := by
  have fails {e} (hl : m.registry.lookup text = .error e) (hr : m.registry.remove text = .error e)
      (hothers : ∀ h ∈ m.registry.registered, SessionKey.normalize text ≠ .ok h.id) :
      Serves s m now bits text (.error e) := by
    refine ⟨step_get_error hl s now bits, ⟨m.registry, step_delete_error hr s now bits, ?_⟩,
      step_step_error hl s now bits⟩
    exact (List.filter_eq_self.2 fun h hmem ↦ by simpa using hothers h hmem).symm
  rcases hm.filed.lookup_cases text with
    ⟨e, hn, hl, hr⟩ | ⟨key, hn, hnone, hl, hr⟩ | ⟨h, place, r, hn, hmem, hh, hl, hr⟩
  · exact ⟨_, .invalid hn, fails hl hr fun h _ ↦ by rw [hn]; simp⟩
  · refine ⟨_, .missing hn hnone, fails hl hr fun h hmem ↦ ?_⟩
    rw [hn]
    simpa using Ne.symm (hnone h hmem)
  · obtain ⟨h', hh', -, -, -, hreg⟩ := hm.filed.remove hr
    rw [hh] at hh'; cases hh'
    refine ⟨_, .found hn hmem, step_get hl hh s now bits, ⟨r, step_delete hr hh s now bits, ?_⟩,
      ⟨place, hh, step_step hl s now bits⟩⟩
    rw [hreg, hn]
    refine List.filter_congr fun h' _ ↦ ?_
    simp [eq_comm]

section Enrolling

variable (hm : m.Kept s) (hmin : 1 ≤ max) (hmax : max ≤ maxAttemptsCeiling)
include hm hmin hmax

theorem Kept.step_full (ho : Opens s request .paced caller language code max)
    (hfull : m.registry.pacedCount = s.config.retry.maxSessions) (now : Time.Stamp) (bits : Nat) :
    m.step s now (.arrive request bits) = m.replied .paced (.error (.capacityReached s.config.retry.maxSessions)) := by
  have hn := normalize_start bits language code max now
  have hfail := Registry.insert_full hn caller (Nat.le_of_eq (hm.capacity.trans hfull.symm))
  rw [hm.capacity] at hfail
  exact step_unopened ho hmin hmax hfail

theorem Kept.step_filed (ho : Opens s request mode caller language code max)
    (hroom : mode = .paced → m.registry.pacedCount ≠ s.config.retry.maxSessions) (now : Time.Stamp) (bits : Nat) :
    m.step s now (.arrive request bits) =
      m.arrived mode
        (openedPhase m.registry.handles.length
          ((Session.start (SessionKey.ofBits bits) language code max now).summary now) mode)
        (m.registry.filed (.start (SessionKey.ofBits bits) language code max now) mode caller) m.calls := by
  have hroom' (hpaced : mode = .paced) : m.registry.pacedCount < m.registry.capacity := by
    have hle := hm.filed.room
    have hne := hroom hpaced
    rw [hm.capacity] at hle ⊢
    omega
  exact step_opened ho hmin hmax (Registry.insert_filed (normalize_start bits language code max now) caller hroom')

theorem Kept.enrols (ho : Opens s request mode caller language code max) (now : Time.Stamp)
    (hnew : SessionKey.ofBits bits ∉ m.ids) :
    Enrols s m now bits request mode caller (.start (SessionKey.ofBits bits) language code max now) := by
  refine ⟨fun hpaced hfull ↦ ?_, fun hroom ↦ ?_⟩
  · subst hpaced
    exact hm.step_full hmin hmax ho hfull now bits
  · let new : Handle := ⟨SessionKey.ofBits bits, mode, .start (SessionKey.ofBits bits) language code max now, false,
      caller, []⟩
    have hreg : (m.registry.filed new.session mode caller).registered = m.registry.registered ++ [new] :=
      (hm.filed.registered_filed new.session mode caller).trans
        (congrArg (· ++ [new]) (registered_of_not_mem hnew))
    refine ⟨_, _, hm.step_filed hmin hmax ho hroom now bits, hreg, ?_⟩
    have hcount : ([new].map Handle.mode).count .paced = if mode = .paced then 1 else 0 := by
      cases mode <;> rfl
    calc (m.registry.filed new.session mode caller).pacedCount
        = ((m.registry.registered ++ [new]).map Handle.mode).count .paced := by rw [Registry.pacedCount_eq, hreg]
      _ = m.registry.pacedCount + if mode = .paced then 1 else 0 := by
        rw [List.map_append, List.count_append, hcount, ← Registry.pacedCount_eq]

end Enrolling

theorem Kept.lists (hm : m.Kept s) (now : Time.Stamp) (bits : Nat) : Lists s m now bits := by
  have hperm := (Registry.newestFirst_perm m.registry).map fun h ↦ h.session.summary now
  refine ⟨_, step_list m s now bits, hperm, ?_, ?_⟩
  · have hids : (m.registry.registered.map fun h ↦ h.session.summary now).map Summary.sessionId = m.ids := by
      rw [List.map_map]
      refine List.map_congr_left fun h hmem ↦ ?_
      obtain ⟨e, -, hh⟩ := Registry.mem_registered.1 hmem
      exact (hm.filed.named _ h hh).2
    exact (hperm.map Summary.sessionId).nodup_iff.2 (hids ▸ hm.nodup_ids)
  · exact List.pairwise_map.2 (Registry.newestFirst_ordered m.registry)

/-- The register is a map from ids to the sessions opened and not closed since, with room for so many paced ones. -/
theorem register_is_map (s : Settings) (events : List (Time.Stamp × Action)) (hids : (drawn s events).Nodup) :
    let m := (start s).run s events
    m.ids = ledger s (start s) events [] ∧ m.ids.Nodup ∧
      (∀ e ∈ m.registry.entries, ∃ h, m.registry.handles[e.2]? = some h ∧ SessionKey.normalize h.id = .ok e.1 ∧
        h.session.id = h.id) ∧
      m.registry.pacedCount ≤ s.config.retry.maxSessions ∧
      (∀ now bits text, ∃ found, m.registry.Names text found ∧ Serves s m now bits text found) ∧
      (∀ now bits request mode caller language code max, Opens s request mode caller language code max → 1 ≤ max →
        max ≤ maxAttemptsCeiling → SessionKey.ofBits bits ∉ drawn s events →
        Enrols s m now bits request mode caller (.start (SessionKey.ofBits bits) language code max now)) ∧
      ∀ now bits, Lists s m now bits := by
  intro m
  have hm := kept s events
  refine ⟨ids_eq_ledger s events hids, hm.nodup_ids, fun e he ↦ ?_, hm.capacity ▸ hm.filed.room,
    fun now bits text ↦ hm.serves now bits text, ?_, fun now bits ↦ hm.lists now bits⟩
  · obtain ⟨h, hh, hid⟩ := hm.filed.entries e he
    obtain ⟨hn, hsession⟩ := hm.filed.named _ h hh
    exact ⟨h, hh, hid ▸ hn, hsession⟩
  · intro now bits request mode caller language code max ho hmin hmax hnew
    have hnew' : SessionKey.ofBits bits ∉ m.ids := fun hmem ↦
      hnew ((known_sublist s events).subset (ids_subset _ hmem))
    exact hm.enrols hmin hmax ho now hnew'

/-- A batch session goes on beside two paced ones, of which one is removed under another spelling of its id. -/
def mingling : List (Time.Stamp × Action) :=
  mending.take 3 ++
    [(⟨2, 0⟩, .arrive (.start "python" "print(2)" none) 1), (⟨2, 0⟩, .arrive (.start "cpp" "int main() {}" (some 2)) 2),
     (⟨3, 0⟩, .arrive (.delete " RETRY_00000000000000000000000000000001 ") 0)]

theorem register_is_map_mingling :
    (drawn .plain mingling).Nodup ∧
      ledger .plain (start .plain) mingling [] = [SessionKey.ofBits 7, SessionKey.ofBits 2] ∧
      ((start .plain).run .plain mingling).ids = [SessionKey.ofBits 7, SessionKey.ofBits 2] := by
  have hids : (drawn .plain mingling).Nodup := by decide +kernel
  have hledger : ledger .plain (start .plain) mingling [] = [SessionKey.ofBits 7, SessionKey.ofBits 2] := by
    decide +kernel
  exact ⟨hids, hledger, (register_is_map .plain mingling hids).1.trans hledger⟩

end Map

end Machine

end CodeRepair
