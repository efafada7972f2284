import CodeRepair.Config.Check
import CodeRepair.Proofs.Service.Enrolment
import CodeRepair.Proofs.Service.Fairness

/-!
Requests for sessions: all or nothing. A request is refused at once, for the first thing that stands against it, or it
is admitted; then its batch job comes to its end with a summary, whatever the others do meanwhile.
-/
namespace CodeRepair

namespace Settings

variable {s : Settings} {name code : String} {asked : Option Nat}

/-- What stands against a request for a session, in the order in which it is told. -/
def objections (s : Settings) (name code : String) (asked : Option Nat) : List RequestError :=
  let length := code.toList.length
  let verdict := s.gate.check code
  let max := asked.getD s.config.retry.defaultMaxAttempts
  let limit := s.config.retry.maxAttemptsLimit
  (match Language.parse name with
    | .error e => [e]
    | .ok _ => []) ++
  (if Text.blank code then [.emptyCode] else []) ++
  (if s.config.retry.maxCodeLength < length then [.codeTooLong length s.config.retry.maxCodeLength] else []) ++
  (if verdict.safe then [] else [.unsafeCode (verdict.reason.getD "")]) ++
  (if 1 ≤ max ∧ max ≤ limit then [] else [.invalidMaxAttempts max limit])

/-- The checks refuse a request for the first thing that stands against it, and for nothing else. -/
theorem refused_or_admitted (s : Settings) (name code : String) (asked : Option Nat) :
    (∃ e, (s.objections name code asked).head? = some e ∧
        (s.validate name code = .error e ∨
          (∃ language, s.validate name code = .ok language) ∧ s.resolveMaxAttempts asked = .error e)) ∨
      (s.objections name code asked = [] ∧ ∃ language, Language.parse name = .ok language ∧
        s.validate name code = .ok language ∧
        s.resolveMaxAttempts asked = .ok (asked.getD s.config.retry.defaultMaxAttempts)) := by
  unfold objections validate resolveMaxAttempts
  cases hp : Language.parse name with
  | error e => exact .inl ⟨e, rfl, .inl rfl⟩
  | ok language =>
    simp only [bind, Except.bind, pure, Except.pure, List.nil_append]
    by_cases hblank : Text.blank code = true
    · exact .inl ⟨.emptyCode, by simp [hblank], .inl (by simp [hblank]; rfl)⟩
    · by_cases hlong : s.config.retry.maxCodeLength < code.toList.length
      · refine .inl ⟨.codeTooLong code.toList.length s.config.retry.maxCodeLength, ?_, .inl ?_⟩
        · simp [hblank, hlong]
        · simp [hblank, hlong]
          rfl
      · by_cases hsafe : (s.gate.check code).safe = true
        · by_cases hbudget : 1 ≤ asked.getD s.config.retry.defaultMaxAttempts ∧
            asked.getD s.config.retry.defaultMaxAttempts ≤ s.config.retry.maxAttemptsLimit
          · refine .inr ⟨?_, language, rfl, ?_, if_pos hbudget⟩
            · simp [hblank, hlong, hsafe, hbudget]
            · simp [hblank, hlong, hsafe]
          · refine .inl ⟨.invalidMaxAttempts (asked.getD s.config.retry.defaultMaxAttempts)
              s.config.retry.maxAttemptsLimit, ?_, .inr ⟨⟨language, ?_⟩, if_neg hbudget⟩⟩
            · simp [hblank, hlong, hsafe, hbudget]
            · simp [hblank, hlong, hsafe]
        · refine .inl ⟨.unsafeCode ((s.gate.check code).reason.getD ""), ?_, .inl ?_⟩
          · simp [hblank, hlong, hsafe]
          · simp [hblank, hlong, hsafe]
            rfl

theorem resolveMaxAttempts_eq_ok {max : Nat} (hr : s.resolveMaxAttempts asked = .ok max) :
    1 ≤ max ∧ max ≤ s.config.retry.maxAttemptsLimit := by
  simp only [resolveMaxAttempts] at hr
  split at hr
  next hwithin =>
    cases hr
    exact hwithin
  next => cases hr

theorem limit_le_ceiling (hs : s.config.validate = .ok ()) : s.config.retry.maxAttemptsLimit ≤ maxAttemptsCeiling := by
  have hnone : s.config.faults = [] := by
    unfold Config.validate at hs
    split at hs
    next h => exact h
    · cases hs
  simp only [Config.faults, Config.retryFaults, List.append_eq_nil_iff] at hnone
  have hlimit := hnone.1.1.1.2.1.1.1.1
  unfold faultIf at hlimit
  split at hlimit
  · cases hlimit
  next hwithin => omega

end Settings

namespace Course

variable {s : Settings} {now : Time.Stamp} {x y : Course}

theorem Step.terms (hs : Course.Step s now x y) :
    y.session.id = x.session.id ∧ y.session.maxAttempts = x.session.maxAttempts := by
  refine ⟨?_, hs.maxAttempts⟩
  cases hs with
  | giveUp => exact Session.finish_id _ _ _
  | land => exact Session.extend_id _ _ _ _
  | _ => rfl

theorem Leads.terms (hl : Leads s x y) :
    y.session.id = x.session.id ∧ y.session.maxAttempts = x.session.maxAttempts := by
  induction hl with
  | refl => exact ⟨rfl, rfl⟩
  | step _ hs ih => exact ⟨hs.terms.1.trans ih.1, hs.terms.2.trans ih.2⟩

theorem Sound.runs_le (hx : x.Sound s) : x.calls.countP Call.isRun ≤ x.session.maxAttempts := by
  rw [hx.calls, List.countP_append, Session.countP_runs]
  cases hf : x.flight with
  | none => simpa using hx.session.log.length_le
  | some f =>
    have hone : (f.calls x.session).countP Call.isRun = 1 := by cases f <;> rfl
    have hlt := (hx.session.unfinished (.inl (hx.flight f hf).1)).1
    rw [Option.map_some, Option.getD_some, hone]
    exact hlt

end Course

theorem Registry.Filed.evicted {r : Registry} {h : Handle} {place : Nat} {key : String} (hf : r.Filed)
    (hh : r.handles[place]? = some h) (hkey : h.id = key) :
    (r.evict key).lookup key = .error (.notFound key) ∧ ∀ e ∈ (r.evict key).entries, e.2 ≠ place := by
  subst hkey
  have hn := (hf.named place h hh).1
  obtain ⟨hf', -, hreg⟩ := hf.evict hn
  have hnone (h' : Handle) (hmem : h' ∈ (r.evict h.id).registered) : h'.id ≠ h.id := by
    rw [hreg] at hmem
    simpa using (List.mem_filter.1 hmem).2
  constructor
  · rcases hf'.lookup_cases h.id with ⟨e, hn', -⟩ | ⟨key, hn', -, hl, -⟩ | ⟨h', q, r', hn', hmem, -⟩
    · rw [hn] at hn'; cases hn'
    · rw [hn] at hn'; cases hn'
      exact hl
    · rw [hn] at hn'
      exact absurd (Except.ok.inj hn').symm (hnone h' hmem)
  · rintro e he rfl
    obtain ⟨h', hh', hid⟩ := hf'.entries e he
    have hsame : h'.id = h.id := by
      rcases (Registry.keepsAt_evict r h.id e.2).of_some hh with hk | hk
      · rw [hh'] at hk; cases hk; rfl
      · rw [hh'] at hk; cases hk; rfl
    exact hnone h' (Registry.mem_registered.2 ⟨e, he, hh'⟩) hsame

namespace Machine

variable {s : Settings} {m m' : Machine} {now : Time.Stamp} {place job : Nat} {h : Handle} {x : Course}
  {action : Action}

theorem entries_step (s : Settings) (m : Machine) (now : Time.Stamp) (action : Action) :
    ∀ e ∈ (m.step s now action).registry.entries, e ∈ m.registry.entries ∨ e.2 = m.registry.handles.length := by
  have hs := step_transition s m now action
  have evicted (r : Registry) (id : String) (e : String × Nat) (he : e ∈ (r.evict id).entries) : e ∈ r.entries := by
    unfold Registry.evict at he
    split at he
    next hr =>
      obtain ⟨key, -, -, rfl⟩ := Registry.remove_eq_ok hr
      exact (List.mem_filter.1 he).1
    · exact he
  generalize m.step s now action = m' at hs ⊢
  intro e he
  cases hs with
  | ignored | callerCancelled => exact .inl he
  | arrived ha =>
    cases ha with
    | replied | launched | queued => exact .inl he
    | opened _ _ _ hi =>
      obtain ⟨key, -, -, rfl, rfl⟩ := Registry.insert_eq_ok hi
      rcases List.mem_append.1 he with he | he
      · exact .inl (List.mem_filter.1 he).1
      · exact .inr (by rw [List.mem_singleton.1 he])
    | removed hr _ =>
      obtain ⟨key, -, -, rfl⟩ := Registry.remove_eq_ok hr
      exact .inl (List.mem_filter.1 he).1
  | moved _ hp =>
    refine .inl ?_
    cases hp with
    | summedUp => exact evicted _ _ e he
    | @ended q h => exact evicted (m.left now q _) h.id e he
    | _ => exact he

theorem Kept.evicted_step (hm : m.Kept s) (hh : m.registry.handles[place]? = some h) (hd : m.Drives place job)
    (hnot : ¬ (m.step s now action).Drives place job) :
    (m.step s now action).registry.lookup h.id = .error (.notFound h.id) ∧
      ∀ e ∈ (m.step s now action).registry.entries, e.2 ≠ place := by
  obtain ⟨phase, hj, hplace⟩ := hd
  rcases job_step hj s now action with ⟨-, hj'⟩ | ⟨phase', r, calls, hp, hj', he⟩
  · exact absurd ⟨phase, hj', hplace⟩ hnot
  · have goesOn (hsame : phase'.place? = phase.place?) : (m.step s now action).Drives place job :=
      ⟨phase', hj', hsame.trans hplace⟩
    rw [he]
    cases hp with
    | queued | entered | askedPrimary | askedFallback | concluded => exact absurd (goesOn rfl) hnot
    | settled hs hf _ =>
      refine absurd (goesOn ?_) hnot
      cases hs <;> simp [recordedPhase, hf]
    | summedUp hq =>
      cases hplace
      rw [hh] at hq; cases hq
      exact hm.filed.evicted hh rfl
    | ended hq =>
      cases hplace
      rw [hh] at hq; cases hq
      have hleft : (m.left now place job).handles[place]? =
          some { h with session := h.session.finish .cancelled now, turns := h.turns.erase job } :=
        Registry.modify_self _ hh
      exact (hm.left now place job).evicted hleft rfl
    | executed | passed => cases hplace
    | debugged hs hf =>
      have hnone : phase.place? = none := by cases hs <;> simp [hf]
      rw [hnone] at hplace; cases hplace

/-- What is certain of a batch job from the moment when its session is registered at a place. -/
structure Completes (s : Settings) (m : Machine) (place job : Nat) (id : String) (max : Nat) : Prop where
  answer : ∀ events, (m.run s events).Drives place job ∨ ∃ sum,
    (m.run s events).jobs[job]? = some ⟨.batch, .answered (.ok (.summary sum))⟩ ∧ sum.sessionId = id ∧
      sum.state ≠ .running ∧ sum.isComplete = true
  runs : ∀ events, ((m.run s events).callsAt place).countP Call.isRun ≤ max
  evicted : ∀ events e, (m.run s events).Drives place job → ¬ (m.run s (events ++ [e])).Drives place job →
    (m.run s (events ++ [e])).registry.lookup id = .error (.notFound id)
  gone : ∀ events, ¬ (m.run s events).Drives place job → ∀ e ∈ (m.run s events).registry.entries, e.2 ≠ place
  ends : ∀ σ, Fair s m place σ → ∃ n sum, (m.after s σ n).jobs[job]? = some ⟨.batch, .answered (.ok (.summary sum))⟩

theorem Kept.run (hm : m.Kept s) (events : List (Time.Stamp × Action)) : (m.run s events).Kept s :=
  run_invariant events hm fun _ hm' e _ ↦ hm'.step e.1 e.2

theorem Driving.completes (hdr : Driving s m place job h x) (hm : m.Kept s) :
    Completes s m place job x.session.id x.session.maxAttempts where
  answer events := by
    obtain ⟨h', y, ht', hl⟩ := hdr.toTraces.run hdr.sound events
    rcases drives_run hdr.toTraces hdr.sound hdr.drives events ht'.handle with hd | ⟨hover, when, hj⟩
    · exact .inl hd
    · refine .inr ⟨_, hj, ?_, hover, (Session.isComplete_iff _).2 hover⟩
      exact (congrArg Session.id ht'.session).trans hl.terms.1
  runs events := by
    obtain ⟨h', y, ht', hl⟩ := hdr.toTraces.run hdr.sound events
    rw [ht'.calls, ← hl.terms.2]
    exact (hdr.sound.leads hl).runs_le
  evicted events e hd hnot := by
    obtain ⟨h', y, ht', hl⟩ := hdr.toTraces.run hdr.sound events
    rw [run_append] at hnot ⊢
    have hk := hm.run events
    have hid : h'.id = x.session.id := by
      rw [← (hk.filed.named place h' ht'.handle).2, ht'.session]
      exact hl.terms.1
    rw [← hid]
    exact (hk.evicted_step ht'.handle hd hnot).1
  gone events := by
    induction events using List.reverseRecOn with
    | nil => exact fun hnot ↦ absurd hdr.drives hnot
    | append_singleton events e ih =>
      intro hnot
      obtain ⟨h', y, ht', -⟩ := hdr.toTraces.run hdr.sound events
      rw [run_append] at hnot ⊢
      by_cases hd : (m.run s events).Drives place job
      · exact ((hm.run events).evicted_step ht'.handle hd hnot).2
      · intro entry hentry
        have hlt := (List.getElem?_eq_some_iff.1 ht'.handle).1
        rcases entries_step s (m.run s events) e.1 e.2 entry hentry with hold | hnew
        · exact ih hd entry hold
        · omega
  ends σ hf := by
    obtain ⟨j, a, b, hdue, -⟩ := hdr.toTraces.exists_due hdr.drives
    obtain ⟨n, x', -, when, hj⟩ := Driving.ends (n := 0) hf hdr hdue
    exact ⟨n, _, hj⟩

theorem completes_of_opened {before : List (Time.Stamp × Action)} {action : Action} {caller : Option Nat}
    {language : Language} {code id : String} {max : Nat} {opened : Time.Stamp} {r : Registry}
    {calls : List (Option Nat × Call)} (hm : (start s).run s before = m)
    (hstep : m.step s now action = m.arrived .batch (.between place) r calls)
    (hh : r.handles[place]? = some ⟨id, .batch, .start id language code max opened, false, caller, []⟩) :
    Completes s (m.step s now action) place m.jobs.length id max := by
  have hrun : (start s).run s (before ++ [(now, action)]) = m.step s now action := by
    rw [run_append, hm]
    rfl
  have hd : (m.step s now action).Drives place m.jobs.length := by
    refine ⟨.between place, ?_, rfl⟩
    rw [hstep]
    simp [arrived]
  have hh' : (m.step s now action).registry.handles[place]? =
      some ⟨id, .batch, .start id language code max opened, false, caller, []⟩ := by
    rw [hstep]
    exact hh
  have hkept := kept s (before ++ [(now, action)])
  obtain ⟨x, hx, ht⟩ := (tracked s (before ++ [(now, action)])).courses place _ (hrun ▸ hh')
  rw [hrun] at ht hkept
  have hsession : x.session = .start id language code max opened := ht.session.symm
  have hall := Driving.completes ⟨ht, hx.sound, hd⟩ hkept
  rw [hsession] at hall
  exact hall

/-- A request for a session is refused at once, for the first thing that stands against it, or it is admitted. Then a
paced one fails only for want of room, and a batch one never: its job is answered with the summary of its session,
which is over and no longer registered. -/
theorem admission_all_or_nothing (s : Settings) (hs : s.config.validate = .ok ())
    (before : List (Time.Stamp × Action)) (now : Time.Stamp) (bits : Nat) (name code : String) (asked : Option Nat) :
    let m := (start s).run s before
    let place := m.registry.handles.length
    let max := asked.getD s.config.retry.defaultMaxAttempts
    (∀ e, (s.objections name code asked).head? = some e →
        (∀ caller, m.step s now (.arrive (.run name code asked caller) bits) =
            m.replied .batch (.error (.request e))) ∧
          m.step s now (.arrive (.start name code asked) bits) = m.replied .paced (.error (.request e))) ∧
      (s.objections name code asked = [] → ∃ language, Language.parse name = .ok language ∧
        let session : Session := .start (SessionKey.ofBits bits) language code max now
        (∀ caller, ∃ r,
            m.step s now (.arrive (.run name code asked caller) bits) = m.arrived .batch (.between place) r m.calls ∧
              r.handles[place]? = some ⟨SessionKey.ofBits bits, .batch, session, false, caller, []⟩ ∧
              Completes s (m.step s now (.arrive (.run name code asked caller) bits)) place m.jobs.length
                (SessionKey.ofBits bits) max) ∧
          (m.registry.pacedCount = s.config.retry.maxSessions →
            m.step s now (.arrive (.start name code asked) bits) =
              m.replied .paced (.error (.capacityReached s.config.retry.maxSessions))) ∧
          (m.registry.pacedCount ≠ s.config.retry.maxSessions → ∃ r,
            m.step s now (.arrive (.start name code asked) bits) =
                m.arrived .paced (.answered (.ok (.summary (session.summary now)))) r m.calls ∧
              r.handles[place]? = some ⟨SessionKey.ofBits bits, .paced, session, false, none, []⟩)) := by
  intro m place max
  have hk := kept s before
  rcases s.refused_or_admitted name code asked with ⟨e, he, hrefused⟩ | ⟨hnone, language, hp, hv, hr⟩
  · refine ⟨fun e' he' ↦ ?_, fun hnone ↦ ?_⟩
    · rw [he] at he'; cases he'
      exact ⟨fun caller ↦ step_run_refused hrefused m now bits caller, step_start_refused hrefused m now bits⟩
    · rw [hnone] at he; cases he
  · refine ⟨fun e he ↦ ?_, fun _ ↦ ⟨language, hp, ?_⟩⟩
    · rw [hnone] at he; cases he
    · intro session
      have hbudget := Settings.resolveMaxAttempts_eq_ok hr
      have hmax : max ≤ maxAttemptsCeiling := Nat.le_trans hbudget.2 (Settings.limit_le_ceiling hs)
      have hnew (mode : Mode) (caller : Option Nat) : (m.registry.filed session mode caller).handles[place]? =
          some ⟨SessionKey.ofBits bits, mode, session, false, caller, []⟩ := List.getElem?_concat_length
      have hstart : Opens s (.start name code asked) .paced none language code max := .start hv hr
      refine ⟨fun caller ↦ ?_, fun hfull ↦ ?_, fun hroom ↦ ?_⟩
      · have hrun : Opens s (.run name code asked caller) .batch caller language code max := .run hv hr
        have hstep := hk.step_filed hbudget.1 hmax hrun (by simp) now bits
        exact ⟨_, hstep, hnew .batch caller, completes_of_opened rfl hstep (hnew .batch caller)⟩
      · exact hk.step_full hbudget.1 hmax hstart hfull now bits
      · exact ⟨_, hk.step_filed hbudget.1 hmax hstart (fun _ ↦ hroom) now bits, hnew .paced none⟩

def mended (n : Nat) : Time.Stamp × Action := mending.tail.getD n (⟨9, 0⟩, .cancelCaller 0)

theorem admission_all_or_nothing_mending :
    let opened := (start .plain).step .plain ⟨0, 0⟩ (.arrive (.run "python" "print(1" none none) 7)
    Settings.plain.config.validate = .ok () ∧ Settings.plain.objections "python" "print(1" none = [] ∧
      Fair .plain opened 0 mended ∧
      ∃ n sum, (opened.after .plain mended n).jobs[0]? = some ⟨.batch, .answered (.ok (.summary sum))⟩ := by
  intro opened
  have hs : Settings.plain.config.validate = .ok () := by decide +kernel
  have hnone : Settings.plain.objections "python" "print(1" none = [] := by decide +kernel
  have hfair : Fair .plain opened 0 mended := by
    have hdone : ((opened.after .plain mended 8).jobs.all fun j ↦ j.phase.summary?.isSome) = true := by
      decide +kernel
    have hstill (k : Nat) (hk : 8 ≤ k) : (opened.after .plain mended k).jobs = (opened.after .plain mended 8).jobs := by
      induction k, hk using Nat.le_induction with
      | base => rfl
      | succ k hk ih =>
        have hlast : mended k = (⟨9, 0⟩, .cancelCaller 0) := by
          rw [mended, List.getD_eq_getElem?_getD, List.getElem?_eq_none hk]
          rfl
        rw [after, hlast]
        exact ih
    intro job n
    refine ⟨max n 8, Nat.le_max_left n 8, fun phase hphase hplace ↦ ?_⟩
    obtain ⟨mode, hj⟩ := phase?_eq_some.1 hphase
    rw [hstill _ (Nat.le_max_right n 8)] at hj
    obtain ⟨sum, hsum⟩ := Option.isSome_iff_exists.1 (List.all_eq_true.1 hdone _ (List.mem_of_getElem? hj))
    obtain rfl : phase = _ := Phase.summary?_eq_some.1 hsum
    cases hplace
  obtain ⟨-, hadmitted⟩ := admission_all_or_nothing .plain hs [] ⟨0, 0⟩ 7 "python" "print(1" none
  obtain ⟨language, -, hbatch, -⟩ := hadmitted hnone
  obtain ⟨r, -, -, hcompletes⟩ := hbatch none
  exact ⟨hs, hnone, hfair, hcompletes.ends mended hfair⟩

end Machine

end CodeRepair
