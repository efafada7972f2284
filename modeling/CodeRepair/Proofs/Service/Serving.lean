import CodeRepair.Proofs.Service.Driving
import CodeRepair.Proofs.Service.Isolation

/-!
A request served to its end while no other is, whatever the outside does. The arrival of the request is followed by
actions of its own job only, and what it asks of a session that nobody else is driving is answered from the record of
that session.
-/
namespace CodeRepair.Machine

variable {σ : Type} {o : Outside (StateM σ)} {s : Settings} {m m' m'' : Machine} {job k k' place bits fuel : Nat}
  {e e' e'' : σ} {mode : Mode} {phase phase' : Phase} {r : Registry} {cs : List (Option Nat × Call)}
  {action : Action} {request : Request} {answer : Answer} {text id : String} {h : Handle} {x : Session} {j : Job}

section Conducting

theorem run_bind {α β : Type} (a : StateM σ α) (f : α → StateM σ β) (e : σ) :
    (a >>= f).run e = (f (a.run e).1).run (a.run e).2 := rfl

theorem next_job? (hn : (o.next job phase).run e = (some action, e')) : action.job? = some job := by
  cases phase with
  | answered => cases hn
  | _ =>
    cases hn
    rfl

theorem conduct_of_next (s : Settings) (fuel : Nat) {now : Time.Stamp} (hj : m.jobs[job]? = some j)
    (hn : (o.next job j.phase).run e = (some action, e')) (hnow : o.now.run e' = (now, e'')) :
    (o.conduct s job (fuel + 1) m).run e = (o.conduct s job fuel (m.step s now action)).run e'' := by
  rw [Outside.conduct, hj]
  simp only [run_bind, hn, hnow]

theorem conduct_of_none (s : Settings) (fuel : Nat) (hj : m.jobs[job]? = some j)
    (hn : (o.next job j.phase).run e = (none, e')) : (o.conduct s job (fuel + 1) m).run e = (m, e') := by
  rw [Outside.conduct, hj]
  simp only [run_bind, hn]
  rfl

/-- A job goes on by actions of its own. -/
theorem conduct_run (o : Outside (StateM σ)) (s : Settings) (job fuel : Nat) (m : Machine) (e : σ) :
    ∃ events e', (o.conduct s job fuel m).run e = (m.run s events, e') ∧
      ∀ event ∈ events, event.2.job? = some job := by
  -- On the fuel: each round takes the one action that the job waits for.
  induction fuel generalizing m e with
  | zero => exact ⟨[], e, rfl, by simp⟩
  | succ fuel ih =>
    cases hj : m.jobs[job]? with
    | none =>
      refine ⟨[], e, ?_, by simp⟩
      rw [Outside.conduct, hj]
      rfl
    | some j =>
      rcases hn : (o.next job j.phase).run e with ⟨found, e₁⟩
      cases found with
      | none => exact ⟨[], e₁, conduct_of_none s fuel hj hn, by simp⟩
      | some action =>
        rcases hnow : o.now.run e₁ with ⟨now, e₂⟩
        obtain ⟨events, e', hrest, hjob⟩ := ih (m.step s now action) e₂
        refine ⟨(now, action) :: events, e', (conduct_of_next s fuel hj hn hnow).trans hrest, ?_⟩
        intro event hmem
        rcases List.mem_cons.1 hmem with rfl | hmem
        · exact next_job? hn
        · exact hjob event hmem

theorem conduct_of_answered (s : Settings) (fuel : Nat) (hj : m.jobs[job]? = some ⟨mode, .answered answer⟩) :
    (o.conduct s job fuel m).run e = (m, e) := by
  cases fuel with
  | zero => rfl
  | succ fuel =>
    rw [Outside.conduct, hj]
    rfl

def Goes (o : Outside (StateM σ)) (s : Settings) (job k : Nat) (m : Machine) (e : σ) (m' : Machine) (e' : σ) : Prop :=
  ∀ fuel, (o.conduct s job (fuel + k) m).run e = (o.conduct s job fuel m').run e'

theorem Goes.trans (hg : Goes o s job k m e m' e') (hg' : Goes o s job k' m' e' m'' e'') :
    Goes o s job (k' + k) m e m'' e'' := fun fuel ↦ by
  rw [← Nat.add_assoc, hg, hg']

theorem goes_of_progress (s : Settings) {now : Time.Stamp} (hj : m.jobs[job]? = some ⟨mode, phase⟩)
    (hn : (o.next job phase).run e = (some action, e')) (hnow : o.now.run e' = (now, e''))
    (hp : Progress s m now job action mode phase phase' r cs) :
    Goes o s job 1 m e (m.moved job phase' r cs) e'' := fun fuel ↦ by
  rw [conduct_of_next s fuel hj hn hnow, hp.step_eq hj]

end Conducting

section Serving

theorem serve_run (o : Outside (StateM σ)) (s : Settings) (m : Machine) (request : Request) (bits : Nat) (e : σ) :
    ∃ now events answer e', (o.serve s m request bits).run e =
        ((answer, (m.step s now (.arrive request bits)).run s events), e') ∧
      ∀ event ∈ events, event.2.job? = some m.jobs.length := by
  rcases hnow : o.now.run e with ⟨now, e₁⟩
  obtain ⟨events, e', hrun, hjob⟩ :=
    conduct_run o s m.jobs.length Outside.patience (m.step s now (.arrive request bits)) e₁
  rw [Outside.serve]
  simp only [run_bind, hnow, hrun]
  split
  · exact ⟨now, events, _, e', rfl, hjob⟩
  · exact ⟨now, events, _, e', rfl, hjob⟩

/-- A request is answered when its job is answered within the patience allowed. -/
theorem serve_of_goes {now : Time.Stamp} (hnow : o.now.run e = (now, e')) (hk : k ≤ Outside.patience)
    (hg : Goes o s m.jobs.length k (m.step s now (.arrive request bits)) e' m' e'')
    (hj : m'.jobs[m.jobs.length]? = some ⟨mode, .answered answer⟩) :
    (o.serve s m request bits).run e = ((some answer, m'), e'') := by
  have hconduct := hg (Outside.patience - k)
  rw [Nat.sub_add_cancel hk, conduct_of_answered s _ hj] at hconduct
  rw [Outside.serve]
  simp only [run_bind, hnow, hconduct, hj]
  rfl

end Serving

section Attempts

variable {index max : Nat} {since : Time.Stamp} {f : Failure} {a : Attempt} {now : Time.Stamp}

theorem jobs_moved (hj : m.jobs[job]? = some ⟨mode, phase⟩) (phase' : Phase) (r : Registry)
    (cs : List (Option Nat × Call)) : (m.moved job phase' r cs).jobs[job]? = some ⟨mode, phase'⟩ := by
  simp [moved, setPhase, hj]

/-- A job records an attempt with this index, which leaves the rest of the register as it was. -/
def Records (s : Settings) (m m' : Machine) (place job index : Nat) (mode : Mode) : Prop :=
  ∃ a now, a.index = index ∧ m'.jobs[job]? = some ⟨mode, recordedPhase place a mode⟩ ∧
    m'.registry = m.recorded s now place job a

theorem records_moved (hj : m.jobs[job]? = some ⟨mode, phase⟩) (ha : a.index = index)
    (cs : List (Option Nat × Call)) :
    Records s m (m.moved job (recordedPhase place a mode) (m.recorded s now place job a) cs) place job index mode :=
  ⟨a, now, ha, jobs_moved hj .., rfl⟩

theorem goes_fallback (o : Outside (StateM σ)) (s : Settings) {problem : String}
    (hf : f.purpose = .attempt place index max since) (hj : m.jobs[job]? = some ⟨mode, .askingFallback f problem⟩)
    (e : σ) : ∃ m' e', Goes o s job 1 m e m' e' ∧ Records s m m' place job index mode := by
  rcases hask : (o.ask .fallback f.language f.code f.result.errorSignal).run e with ⟨answer, e₁⟩
  rcases hnow : o.now.run e₁ with ⟨now, e₂⟩
  have hn : (o.next job (.askingFallback f problem)).run e = (some (.answered job answer), e₁) := by
    simp only [Outside.next, run_bind, hask]
    rfl
  exact ⟨_, e₂, goes_of_progress s hj hn hnow (.settled (.byFallback f problem) hf rfl), records_moved hj rfl _⟩

theorem goes_primary (o : Outside (StateM σ)) (s : Settings) (hf : f.purpose = .attempt place index max since)
    (hj : m.jobs[job]? = some ⟨mode, .askingPrimary f⟩) (e : σ) :
    ∃ k m' e', k ≤ 2 ∧ Goes o s job k m e m' e' ∧ Records s m m' place job index mode := by
  rcases hask : (o.ask .primary f.language f.code f.result.errorSignal).run e with ⟨answer, e₁⟩
  rcases hnow : o.now.run e₁ with ⟨now, e₂⟩
  have hn : (o.next job (.askingPrimary f)).run e = (some (.answered job answer), e₁) := by
    simp only [Outside.next, run_bind, hask]
    rfl
  cases ha : s.pipeline.afterPrimary answer with
  | settled fix =>
    exact ⟨1, _, e₂, by omega, goes_of_progress s hj hn hnow (.settled (.byPrimary ha) hf rfl), records_moved hj rfl _⟩
  | askFallback problem =>
    have hasked := goes_of_progress s hj hn hnow (.askedFallback ha)
    obtain ⟨m', e', hgoes, hrecords⟩ := goes_fallback o s hf (jobs_moved hj ..) e₂
    exact ⟨2, m', e', by omega, hasked.trans hgoes, hrecords⟩

theorem goes_run (o : Outside (StateM σ)) (s : Settings) {language : Language} {code : String}
    (hj : m.jobs[job]? = some ⟨mode, .running (.attempt place index max since) language code⟩) (e : σ) :
    ∃ k m' e', k ≤ 3 ∧ Goes o s job k m e m' e' ∧ Records s m m' place job index mode := by
  rcases hrun : (o.run language code).run e with ⟨result, e₁⟩
  rcases hnow : o.now.run e₁ with ⟨now, e₂⟩
  have hn : (o.next job (.running (.attempt place index max since) language code)).run e =
      (some (.ran job result), e₁) := by
    simp only [Outside.next, run_bind, hrun]
    rfl
  by_cases ho : result.succeeded = true ∨ max ≤ index
  · exact ⟨1, _, e₂, by omega, goes_of_progress s hj hn hnow (.concluded ho rfl), records_moved hj rfl _⟩
  · have hfailed : result.succeeded = false := by simpa using fun hs ↦ ho (.inl hs)
    have hlt : index < max := Nat.not_le.1 fun hle ↦ ho (.inr hle)
    let f : Failure :=
      ⟨.attempt place index max since, language, code, result, Diagnostic.scan language result.errorSignal⟩
    let m₁ := m.moved job (.askingPrimary f) m.registry
      (m.calls ++ [(some place, .ask .primary language code result.errorSignal)])
    have hasked : Goes o s job 1 m e m₁ e₂ := by
      refine goes_of_progress s hj hn hnow (.askedPrimary hfailed (by simp) fun place index max since hp ↦ ?_)
      cases hp
      exact hlt
    have hj₁ : m₁.jobs[job]? = some ⟨mode, .askingPrimary f⟩ := jobs_moved hj ..
    obtain ⟨k, m', e', hk, hgoes, hrecords⟩ := goes_primary o s rfl hj₁ e₂
    exact ⟨k + 1, m', e', by omega, hasked.trans hgoes, hrecords⟩

/-- A job that has the turn makes its attempt, whatever the outside replies. -/
theorem goes_attempt (o : Outside (StateM σ)) (s : Settings) (hh : m.registry.handles[place]? = some h)
    (hhead : h.turns.head? = some job) (hrun : h.session.state = .running) (hc : m.isCancelled h = false)
    (hj : m.jobs[job]? = some ⟨mode, .waiting place⟩) (e : σ) :
    ∃ k m' e', k ≤ 4 ∧ Goes o s job k m e m' e' ∧ Records s m m' place job h.session.nextIndex mode := by
  rcases hnow : o.now.run e with ⟨now, e₁⟩
  have hopen := (Session.isComplete_eq_false_iff _).2 hrun
  have hentered := goes_of_progress s hj rfl hnow (.entered hh hhead hopen hc)
  obtain ⟨k, m', e', hk, hgoes, hrecords⟩ := goes_run o s (jobs_moved hj ..) e₁
  exact ⟨k + 1, m', e', by omega, hentered.trans hgoes, hrecords⟩

end Attempts

section Held

variable {now : Time.Stamp}

/-- A paced session that is registered, and that nobody drives. -/
structure Held (m : Machine) (place : Nat) (x : Session) : Prop where
  handle : m.registry.handles[place]? = some (sole .paced x [])
  entry : (x.id, place) ∈ m.registry.entries

theorem Held.of_spares (hm : m.Held place x) (hr : m.registry.Spares m'.registry place) : m'.Held place x where
  handle := hr.handle.trans hm.handle
  entry := (hr.entries x.id).2 hm.entry

structure Gone (m : Machine) (id : String) : Prop where
  known : id ∈ known m.registry
  out : ∀ place, (id, place) ∉ m.registry.entries

theorem Held.lookup (hm : m.Held place x) (hf : m.registry.Filed) (hn : SessionKey.normalize text = .ok x.id) :
    m.registry.lookup text = .ok place := by
  have hfind := hf.find?_eq_some_iff.2 hm.entry
  simp only [Registry.lookup, hn, Registry.mapError_ok, bind, Except.bind, hfind]
  rfl

theorem Held.remove (hm : m.Held place x) (hf : m.registry.Filed) (hn : SessionKey.normalize text = .ok x.id) :
    ∃ r, m.registry.remove text = .ok (place, r) ∧ known r = known m.registry ∧ ∀ q, (x.id, q) ∉ r.entries := by
  have hfind := hf.find?_eq_some_iff.2 hm.entry
  have hr : m.registry.remove text = .ok (place, { m.registry with
      entries := m.registry.entries.filter (·.1 ≠ x.id) }.modify place fun h ↦ { h with cancelled := true }) := by
    simp only [Registry.remove, hn, Registry.mapError_ok, bind, Except.bind, hfind]
    rfl
  exact ⟨_, hr, known_remove hr, fun q ↦ by simp [Registry.modify]⟩

theorem Gone.lookup (hm : m.Gone id) (hf : m.registry.Filed) (hn : SessionKey.normalize text = .ok id) :
    m.registry.lookup text = .error (.notFound id) ∧ m.registry.remove text = .error (.notFound id) := by
  have hfind : m.registry.find? id = none := by
    cases hfind : m.registry.find? id with
    | none => rfl
    | some place => exact absurd (hf.find?_eq_some_iff.1 hfind) (hm.out place)
  constructor
  · simp only [Registry.lookup, hn, Registry.mapError_ok, bind, Except.bind, hfind]
    rfl
  · simp only [Registry.remove, hn, Registry.mapError_ok, bind, Except.bind, hfind]
    rfl

theorem serve_of_arrived (hnow : o.now.run e = (now, e'))
    (hstep : m.step s now (.arrive request bits) = m.arrived mode (.answered answer) r cs) :
    (o.serve s m request bits).run e = ((some answer, m.arrived mode (.answered answer) r cs), e') := by
  have hj : (m.arrived mode (.answered answer) r cs).jobs[m.jobs.length]? = some ⟨mode, .answered answer⟩ :=
    List.getElem?_concat_length
  refine serve_of_goes hnow (Nat.zero_le _) (fun fuel ↦ ?_) hj
  rw [hstep]
  rfl

section Asked

variable (hm : m.Held place x) (hf : m.registry.Filed) (hn : SessionKey.normalize text = .ok x.id)
include hm hf hn

theorem Held.serve_delete (o : Outside (StateM σ)) (s : Settings) (bits : Nat) (e : σ) :
    ∃ now m' e', (o.serve s m (.delete text) bits).run e = ((some (.ok (.summary (x.summary now))), m'), e') ∧
      m'.Gone x.id := by
  rcases hnow : o.now.run e with ⟨now, e'⟩
  obtain ⟨r, hr, hknown, hout⟩ := hm.remove hf hn
  refine ⟨now, _, e', serve_of_arrived hnow (step_delete hr hm.handle s now bits), ?_, hout⟩
  rw [arrived, hknown]
  exact List.mem_map_of_mem (List.mem_of_getElem? hm.handle)

theorem Held.queued (s : Settings) (now : Time.Stamp) (bits : Nat) :
    ∃ m', m.step s now (.arrive (.step text) bits) = m' ∧ m'.jobs[m.jobs.length]? = some ⟨.paced, .waiting place⟩ ∧
      m'.registry = (m.enqueue place m.jobs.length).registry ∧ m'.calls = m.calls :=
  ⟨_, step_step (hm.lookup hf hn) s now bits, List.getElem?_concat_length, rfl, rfl⟩

/-- A step of a session that still runs makes its next attempt. -/
theorem Held.serve_step (hrun : x.state = .running) (o : Outside (StateM σ)) (s : Settings) (bits : Nat) (e : σ) :
    ∃ a now m' e', (o.serve s m (.step text) bits).run e = ((some (.ok (.attempt a)), m'), e') ∧
      a.index = x.nextIndex ∧ m'.Held place (x.extend s.config.retry.onNoFix a now) := by
  rcases hnow : o.now.run e with ⟨now, e₁⟩
  obtain ⟨m₁, hstep, hj, hr₁, -⟩ := hm.queued hf hn s now bits
  have hh : m₁.registry.handles[place]? = some (sole .paced x [m.jobs.length]) := by
    rw [hr₁]
    exact Registry.modify_self _ hm.handle
  obtain ⟨k, m', e', hk, hgoes, a, now', hindex, hj', hr⟩ := goes_attempt o s hh rfl hrun rfl hj e₁
  have hpatience : 4 ≤ Outside.patience := by decide
  refine ⟨a, now', m', e', serve_of_goes hnow (by omega) (hstep ▸ hgoes) hj', hindex, ?_, ?_⟩
  · rw [hr, recorded, Registry.modify_self _ hh]
    simp [sole, Session.extend_id]
  · rw [hr, Session.extend_id, recorded, hr₁]
    exact hm.entry

theorem Held.serve_step_over (hc : x.isComplete = true) (o : Outside (StateM σ)) (s : Settings) (bits : Nat) (e : σ) :
    ∃ m' e', (o.serve s m (.step text) bits).run e = ((some (.error x.refusal), m'), e') ∧
      m'.registry = m.registry ∧ m'.calls = m.calls := by
  rcases hnow : o.now.run e with ⟨now, e₁⟩
  rcases hnow' : o.now.run e₁ with ⟨now', e₂⟩
  obtain ⟨m₁, rfl, hj, hr₁, hcalls⟩ := hm.queued hf hn s now bits
  have hsame : x.finish .cancelled now' = x := Session.finish_of_complete _ _ hc
  have hh : (m.step s now (.arrive (.step text) bits)).registry.handles[place]? =
      some (sole .paced x [m.jobs.length]) := by
    rw [hr₁]
    exact Registry.modify_self _ hm.handle
  have hrefused := goes_of_progress s hj rfl hnow' (.refused hh rfl (.inl hc))
  have hserved := serve_of_goes hnow (by decide : 1 ≤ Outside.patience) hrefused (jobs_moved hj ..)
  have hrefusal : ((sole .paced x [m.jobs.length]).session.finish .cancelled now').refusal = x.refusal :=
    congrArg Session.refusal hsame
  rw [hrefusal] at hserved
  refine ⟨_, e₂, hserved, ?_, hcalls⟩
  have hback : { sole .paced x [] with
      session := x.finish .cancelled now', turns := ([] ++ [m.jobs.length]).erase m.jobs.length } =
      sole .paced x [] := by
    rw [hsame]
    simp [sole]
  rw [moved, left, hr₁, enqueue, Registry.modify_modify]
  exact Registry.modify_of_fixed hm.handle hback

end Asked

theorem Kept.serve_start (hm : m.Kept s) (o : Outside (StateM σ)) (language code : String) (asked : Option Nat)
    (bits : Nat) (e : σ) :
    (∃ refusal m' e', (o.serve s m (.start language code asked) bits).run e = ((some (.error refusal), m'), e')) ∨
      ∃ id place language' max now m' e', let x := Session.start id language' code max now
        (o.serve s m (.start language code asked) bits).run e = ((some (.ok (.summary (x.summary now))), m'), e') ∧
          m'.Held place x := by
  rcases hnow : o.now.run e with ⟨now, e'⟩
  have hasks : (Request.start language code asked).asksSession = true := rfl
  rcases refused_or_opens hasks s m now bits with ⟨_, refusal, hstep⟩ | ⟨_, _, language', _, max, ho, hmin, hmax⟩
  · exact .inl ⟨refusal, _, e', serve_of_arrived hnow hstep⟩
  · cases ho with
    | start hv hr =>
      have ho : Opens s (.start language code asked) .paced none language' code max := .start hv hr
      by_cases hfull : m.registry.pacedCount = s.config.retry.maxSessions
      · exact .inl ⟨_, _, e', serve_of_arrived hnow (hm.step_full hmin hmax ho hfull now bits)⟩
      · have hserved := serve_of_arrived hnow (hm.step_filed hmin hmax ho (fun _ ↦ hfull) now bits)
        refine .inr ⟨_, m.registry.handles.length, language', max, now, _, e', hserved, ?_, ?_⟩
        · exact List.getElem?_concat_length
        · exact List.mem_append_right _ (List.mem_singleton.2 rfl)

section Gone

theorem Gone.serve (hm : m.Gone id) (hf : m.registry.Filed) (hn : SessionKey.normalize text = .ok id)
    (hrequest : request = .get text ∨ request = .delete text ∨ request = .step text) (o : Outside (StateM σ))
    (s : Settings) (bits : Nat) (e : σ) :
    ∃ m' e', (o.serve s m request bits).run e = ((some (.error (.notFound id)), m'), e') := by
  rcases hnow : o.now.run e with ⟨now, e'⟩
  obtain ⟨hl, hr⟩ := hm.lookup hf hn
  rcases hrequest with rfl | rfl | rfl
  · exact ⟨_, e', serve_of_arrived hnow (step_get_error hl s now bits)⟩
  · exact ⟨_, e', serve_of_arrived hnow (step_delete_error hr s now bits)⟩
  · exact ⟨_, e', serve_of_arrived hnow (step_step_error hl s now bits)⟩

theorem entries_evict (r : Registry) (id : String) : ∀ entry ∈ (r.evict id).entries, entry ∈ r.entries := by
  unfold Registry.evict
  split
  next place r' hr =>
    obtain ⟨key, -, -, rfl⟩ := Registry.remove_eq_ok hr
    exact fun entry hentry ↦ (List.mem_filter.1 hentry).1
  · exact fun _ h ↦ h

theorem entry_drawn (s : Settings) (m : Machine) (now : Time.Stamp) (action : Action) :
    ∀ entry ∈ (m.step s now action).registry.entries,
      entry ∈ m.registry.entries ∨ s.drawn? action = some entry.1 := by
  have hs := step_transition s m now action
  generalize m.step s now action = m' at hs ⊢
  intro entry hentry
  cases hs with
  | ignored | callerCancelled => exact .inl hentry
  | @arrived _ bits _ _ _ ha =>
    cases ha with
    | replied | launched | queued => exact .inl hentry
    | @opened _ _ _ language code max _ _ ho hmin hmax hi =>
      have hn := normalize_start bits language code max now
      obtain ⟨-, rfl, -⟩ := Registry.insert_eq_filed hn hi
      rcases List.mem_append.1 hentry with hentry | hentry
      · exact .inl (List.mem_filter.1 hentry).1
      · rw [List.mem_singleton.1 hentry]
        exact .inr (ho.drawn? hmin hmax bits)
    | removed hr =>
      obtain ⟨key, -, -, rfl⟩ := Registry.remove_eq_ok hr
      exact .inl (List.mem_filter.1 hentry).1
  | moved _ hp =>
    cases hp with
    | summedUp => exact .inl (entries_evict _ _ entry hentry)
    | @ended place => exact .inl (entries_evict (m.left now place _) _ entry hentry)
    | _ => exact .inl hentry

theorem known_mono (s : Settings) (m : Machine) (now : Time.Stamp) (action : Action) (hid : id ∈ known m.registry) :
    id ∈ known (m.step s now action).registry := by
  rcases known_step s m now action with hsame | ⟨_, -, hadd⟩
  · rw [hsame]
    exact hid
  · rw [hadd]
    exact List.mem_append_left _ hid

theorem Gone.step (hm : m.Gone id) (hnew : ∀ id', s.drawn? action = some id' → id' ∉ Machine.known m.registry)
    (now : Time.Stamp) : (m.step s now action).Gone id where
  known := known_mono s m now action hm.known
  out place hmem := by
    rcases entry_drawn s m now action _ hmem with hold | hdrawn
    · exact hm.out place hold
    · exact hnew id hdrawn hm.known

theorem drawn?_of_job? (ha : action.job? = some job) (s : Settings) : s.drawn? action = none := by
  cases action with
  | arrive | cancelCaller => cases ha
  | _ => rfl

theorem Gone.own_run {events : List (Time.Stamp × Action)} (hm : m.Gone id)
    (hown : ∀ event ∈ events, event.2.job? = some job) (s : Settings) : (m.run s events).Gone id := by
  refine run_invariant (P := fun m ↦ m.Gone id) events hm fun m' hm' event hmem ↦ hm'.step ?_ event.1
  rw [drawn?_of_job? (hown event hmem)]
  simp

/-- A session that is gone does not come back, whatever is served. -/
theorem Gone.served (hm : m.Gone id)
    (hnew : ∀ id', s.drawn? (.arrive request bits) = some id' → id' ∉ Machine.known m.registry)
    (o : Outside (StateM σ)) (e : σ) : ((o.serve s m request bits).run e).1.2.Gone id := by
  obtain ⟨now, events, answer, e', hserved, hown⟩ := serve_run o s m request bits e
  rw [hserved]
  exact (hm.step hnew now).own_run hown s

end Gone

theorem known_own_run {events : List (Time.Stamp × Action)} (hown : ∀ event ∈ events, event.2.job? = some job)
    (s : Settings) (m : Machine) : known (m.run s events).registry = known m.registry := by
  refine run_invariant (P := fun m' ↦ known m'.registry = known m.registry) events rfl fun m' hm' event hmem ↦ ?_
  rcases known_step s m' event.1 event.2 with hsame | ⟨id, hid, -⟩
  · exact hsame.trans hm'
  · rw [drawn?_of_job? (hown event hmem)] at hid
    cases hid

theorem known_served (o : Outside (StateM σ)) (s : Settings) (m : Machine) (request : Request) (bits : Nat) (e : σ) :
    known ((o.serve s m request bits).run e).1.2.registry = known m.registry ∨
      ∃ id, s.drawn? (.arrive request bits) = some id ∧
        known ((o.serve s m request bits).run e).1.2.registry = known m.registry ++ [id] := by
  obtain ⟨now, events, answer, e', hserved, hown⟩ := serve_run o s m request bits e
  rw [hserved, known_own_run hown]
  exact known_step s m now (.arrive request bits)

theorem Kept.served (hm : m.Kept s) (o : Outside (StateM σ)) (request : Request) (bits : Nat) (e : σ) :
    ((o.serve s m request bits).run e).1.2.Kept s := by
  obtain ⟨now, events, answer, e', hserved, -⟩ := serve_run o s m request bits e
  rw [hserved]
  exact run_invariant events (hm.step now _) fun _ hm' event _ ↦ hm'.step event.1 event.2

section Others

variable (hkept : m.Kept s) (hids : (known m.registry).Nodup)
include hkept hids

theorem spares_own_run {events : List (Time.Stamp × Action)} (hown : ∀ event ∈ events, event.2.job? = some job)
    (hh : m.registry.handles[place]? = some h) (hj : m.jobs[job]? = some ⟨mode, phase⟩)
    (hplace : phase.place? ≠ some place) : m.registry.Spares (m.run s events).registry place := by
  induction events generalizing m phase with
  | nil => exact .refl _ place
  | cons event events ih =>
    obtain ⟨hfirst, hrest⟩ := List.forall_mem_cons.1 hown
    have hdrawn := drawn?_of_job? hfirst s
    have haim : m.aim? event.2 ≠ some place := by
      rw [aim?_of_job? (phase?_of_job hj) hfirst]
      exact hplace
    have hspares := hkept.spares_step hids hh haim (by simp [hdrawn]) event.1
    have hids' : (known (m.step s event.1 event.2).registry).Nodup := nodup_known_step hids (by simp [hdrawn]) event.1
    have hkept' := hkept.step event.1 event.2
    have hh' := hspares.handle.trans hh
    rcases job_step hj s event.1 event.2 with ⟨-, hj'⟩ | ⟨phase', r, cs, hp, hj', -⟩
    · exact hspares.trans (ih hkept' hids' hrest hh' hj' hplace)
    · have hplace' : phase'.place? ≠ some place := by
        rcases hp.place? with hnone | hsame
        · simp [hnone]
        · rw [hsame]
          exact hplace
      exact hspares.trans (ih hkept' hids' hrest hh' hj' hplace')

/-- A request that is not for a session leaves it alone, whatever is done to serve it. -/
theorem Held.served (hm : m.Held place x) (haim : m.aim? (.arrive request bits) ≠ some place)
    (hnew : ∀ id', s.drawn? (.arrive request bits) = some id' → id' ∉ known m.registry) (o : Outside (StateM σ))
    (e : σ) : ((o.serve s m request bits).run e).1.2.Held place x := by
  obtain ⟨now, events, answer, e', hserved, hown⟩ := serve_run o s m request bits e
  rw [hserved]
  have hid : x.id ∈ known m.registry := List.mem_map_of_mem (List.mem_of_getElem? hm.handle)
  have hspares := hkept.spares_step hids hm.handle haim (fun id' hid' he ↦ hnew id' hid' (he ▸ hid)) now
  obtain ⟨phase, r, cs, ha, hstep⟩ := arrive_arrival s m now request bits
  have hj : (m.step s now (.arrive request bits)).jobs[m.jobs.length]? = some ⟨modeOf request, phase⟩ := by
    rw [hstep]
    exact List.getElem?_concat_length
  have hrest := spares_own_run (hkept.step now (.arrive request bits)) (nodup_known_step hids hnew now) hown
    (hspares.handle.trans hm.handle) hj (ha.place?_ne hm.handle haim)
  exact hm.of_spares (hspares.trans hrest)

end Others

end Held

end CodeRepair.Machine
