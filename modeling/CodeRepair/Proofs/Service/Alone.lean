import CodeRepair.Proofs.Service.Determinacy
import CodeRepair.Proofs.Service.Isolation
import CodeRepair.Proofs.Service.Turns

/-!
A session among others and the same session by itself. Whatever a service does, there is a service that has done the
same for one of its sessions and nothing else: the requests and the jobs of the others are left out, and the jobs that
are left are renumbered.
-/
namespace CodeRepair

def Purpose.placed (q : Nat) : Purpose → Purpose
  | .attempt _ index max since => .attempt q index max since
  | purpose => purpose

def Failure.placed (q : Nat) (f : Failure) : Failure := { f with purpose := f.purpose.placed q }

/-- Where a job stands when its session stands at another place. -/
def Phase.placed (q : Nat) : Phase → Phase
  | .between _ => .between q
  | .waiting _ => .waiting q
  | .running purpose language code => .running (purpose.placed q) language code
  | .askingPrimary f => .askingPrimary (f.placed q)
  | .askingFallback f problem => .askingFallback (f.placed q) problem
  | .answered answer => .answered answer

theorem Phase.call?_placed (q : Nat) (phase : Phase) : (phase.placed q).call? = phase.call? := by
  cases phase <;> rfl

def Action.forJob (i : Nat) : Action → Action
  | .proceed _ => .proceed i
  | .ran _ result => .ran i result
  | .answered _ answer => .answered i answer
  | action => action

/-- A session whose jobs are numbered by their places in a list. -/
def Handle.renumbered (own : List Nat) (h : Handle) : Handle := { h with turns := h.turns.map own.idxOf }

namespace Registry

variable {r r' : Registry} {place : Nat} {h : Handle} {own : List Nat}

/-- The session at a place, and one that stands alone in another register. -/
structure Copies (r r' : Registry) (place : Nat) (h : Handle) (own : List Nat) : Prop where
  handle : r.handles[place]? = some h
  copy : r'.handles = [h.renumbered own]
  entries : (h.id, 0) ∈ r'.entries ↔ (h.id, place) ∈ r.entries

theorem Copies.handle' (hc : r.Copies r' place h own) : r'.handles[0]? = some (h.renumbered own) := by
  rw [hc.copy]
  rfl

theorem Copies.modify (hc : r.Copies r' place h own) {f g : Handle → Handle} (hid : (f h).id = h.id)
    (hg : g (h.renumbered own) = (f h).renumbered own) :
    (r.modify place f).Copies (r'.modify 0 g) place (f h) own where
  handle := modify_self f hc.handle
  copy := by
    rw [Registry.modify, hc.copy, ← hg]
    rfl
  entries := by
    rw [hid]
    exact hc.entries

theorem Filed.evict_cases (hf : r.Filed) (hids : (r.handles.map Handle.id).Nodup)
    (hh : r.handles[place]? = some h) :
    ((h.id, place) ∈ r.entries ∧
        r.evict h.id = { r with entries := r.entries.filter (·.1 ≠ h.id) }.modify place
          fun h ↦ { h with cancelled := true }) ∨
      (h.id, place) ∉ r.entries ∧ r.evict h.id = r := by
  unfold Registry.evict
  split
  next q r' hr =>
    obtain ⟨key, hn, hfind, rfl⟩ := remove_eq_ok hr
    rw [(hf.named place h hh).1] at hn; cases hn
    have hmem := hf.find?_eq_some_iff.1 hfind
    obtain ⟨h', hh', hid⟩ := hf.entries _ hmem
    obtain rfl : place = q := place_unique hids hh hh' hid.symm
    exact .inl ⟨hmem, rfl⟩
  next e hr =>
    refine .inr ⟨fun hmem ↦ ?_, rfl⟩
    have hfind := hf.find?_eq_some_iff.2 hmem
    simp only [Registry.remove, (hf.named place h hh).1, mapError_ok, bind, Except.bind, hfind] at hr
    cases hr

theorem Copies.cancel (hc : r.Copies r' place h own) :
    ({ r with entries := r.entries.filter (·.1 ≠ h.id) }.modify place fun h ↦ { h with cancelled := true }).Copies
      ({ r' with entries := r'.entries.filter (·.1 ≠ h.id) }.modify 0 fun h ↦ { h with cancelled := true }) place
      { h with cancelled := true } own where
  handle := modify_self _ hc.handle
  copy := by
    rw [Registry.modify, hc.copy]
    rfl
  entries := by
    have hout (q : Nat) (entries : List (String × Nat)) : (h.id, q) ∉ entries.filter (·.1 ≠ h.id) := by simp
    exact iff_of_false (hout 0 r'.entries) (hout place r.entries)

theorem Copies.evict (hc : r.Copies r' place h own) (hf : r.Filed) (hf' : r'.Filed)
    (hids : (r.handles.map Handle.id).Nodup) :
    ∃ h', (r.evict h.id).Copies (r'.evict h.id) place h' own ∧ h'.turns = h.turns := by
  have hids' : (r'.handles.map Handle.id).Nodup := by simp [hc.copy]
  have hcases' := hf'.evict_cases hids' hc.handle'
  rcases hf.evict_cases hids hc.handle with ⟨hin, he⟩ | ⟨hnot, he⟩
  · rcases hcases' with ⟨-, he'⟩ | ⟨hnot', -⟩
    · have he' : r'.evict h.id = _ := he'
      rw [he, he']
      exact ⟨_, hc.cancel, rfl⟩
    · exact absurd (hc.entries.2 hin) hnot'
  · rcases hcases' with ⟨hin', -⟩ | ⟨-, he'⟩
    · exact absurd (hc.entries.1 hin') hnot
    · have he' : r'.evict h.id = _ := he'
      rw [he, he']
      exact ⟨h, hc, rfl⟩

theorem Filed.entry_of_find? (hf : r.Filed) {key : String} (hh : r.handles[place]? = some h)
    (hfind : r.find? key = some place) : h.id = key ∧ (key, place) ∈ r.entries := by
  have hmem := hf.find?_eq_some_iff.1 hfind
  exact ⟨hf.id_of_entry hh hmem, hmem⟩

theorem Copies.find? (hc : r.Copies r' place h own) (hf : r.Filed) (hf' : r'.Filed) {key : String}
    (hfind : r.find? key = some place) : h.id = key ∧ r'.find? key = some 0 := by
  obtain ⟨rfl, hmem⟩ := hf.entry_of_find? hc.handle hfind
  exact ⟨rfl, hf'.find?_eq_some_iff.2 (hc.entries.2 hmem)⟩

theorem Copies.lookup (hc : r.Copies r' place h own) (hf : r.Filed) (hf' : r'.Filed) {text : String}
    (hl : r.lookup text = .ok place) : r'.lookup text = .ok 0 := by
  obtain ⟨key, hn, hfind⟩ := lookup_eq_ok hl
  simp only [Registry.lookup, hn, mapError_ok, bind, Except.bind, (hc.find? hf hf' hfind).2]
  rfl

theorem Copies.remove (hc : r.Copies r' place h own) (hf : r.Filed) (hf' : r'.Filed) {text : String} {r₁ : Registry}
    (hr : r.remove text = .ok (place, r₁)) :
    ∃ r₁', r'.remove text = .ok (0, r₁') ∧ r₁.Copies r₁' place { h with cancelled := true } own := by
  obtain ⟨key, hn, hfind, rfl⟩ := remove_eq_ok hr
  obtain ⟨rfl, hfind'⟩ := hc.find? hf hf' hfind
  refine ⟨{ r' with entries := r'.entries.filter (·.1 ≠ h.id) }.modify 0 fun h ↦ { h with cancelled := true }, ?_, ?_⟩
  · simp only [Registry.remove, hn, mapError_ok, bind, Except.bind, hfind']
    rfl
  · exact hc.cancel

end Registry

namespace Machine

variable {ρ : Reactions} {s : Settings} {m n : Machine} {now : Time.Stamp} {place job i bits : Nat} {h h' : Handle}
  {own : List Nat} {mode : Mode} {phase phase' : Phase} {r r' : Registry} {calls calls' : List (Option Nat × Call)}
  {action : Action}

/-- A job has to do with the session at a place: it drives it, or it is answered. -/
def Concerns (place : Nat) (phase : Phase) : Prop := phase.place? = some place ∨ ∃ answer, phase = .answered answer

/-- A service that has the session at a place and nothing else, with the numbers of the jobs that have to do with it. -/
structure Mirrors (m n : Machine) (place : Nat) (h : Handle) (own : List Nat) : Prop where
  registry : m.registry.Copies n.registry place h own
  callers : n.cancelledCallers = m.cancelledCallers
  jobs : ∀ (i j : Nat), own[i]? = some j → ∃ mode phase, m.jobs[j]? = some ⟨mode, phase⟩ ∧
    n.jobs[i]? = some ⟨mode, phase.placed 0⟩ ∧ Concerns place phase
  length : n.jobs.length = own.length
  nodup : own.Nodup
  drivers : ∀ j phase, m.phase? j = some phase → phase.place? = some place → j ∈ own
  turns : ∀ j ∈ h.turns, j ∈ own

namespace Mirrors

theorem isCancelled (hm : m.Mirrors n place h own) : n.isCancelled (h.renumbered own) = m.isCancelled h := by
  simp only [Machine.isCancelled, Handle.renumbered, hm.callers]

theorem over? {m' n' : Machine} {own' : List Nat} (hm : m.Mirrors n place h own)
    (hm' : m'.Mirrors n' place h' own') : n.over? n' 0 = m.over? m' place := by
  simp only [Machine.over?, hm.registry.handle', hm'.registry.handle', hm.registry.handle, hm'.registry.handle,
    hm.isCancelled]
  simp only [Handle.renumbered, List.length_map]
  rfl

/-- What leaves the session and its jobs alone has no counterpart. -/
theorem pass {m' : Machine} (hm : m.Mirrors n place h own) (hr : m.registry.Spares m'.registry place)
    (hcallers : m'.cancelledCallers = m.cancelledCallers) (hjobs : ∀ j ∈ own, m'.jobs[j]? = m.jobs[j]?)
    (hdrivers : ∀ j phase, m'.phase? j = some phase → phase.place? = some place → j ∈ own) :
    m'.Mirrors n place h own where
  registry := ⟨hr.handle.trans hm.registry.handle, hm.registry.copy, hm.registry.entries.trans (hr.entries h.id).symm⟩
  callers := hm.callers.trans hcallers.symm
  jobs i j hi := by
    obtain ⟨mode, phase, hj, hrest⟩ := hm.jobs i j hi
    exact ⟨mode, phase, (hjobs j (List.mem_of_getElem? hi)).trans hj, hrest⟩
  length := hm.length
  nodup := hm.nodup
  drivers := hdrivers
  turns := hm.turns

theorem lt_length (hm : m.Mirrors n place h own) {j : Nat} (hj : j ∈ own) : j < m.jobs.length := by
  obtain ⟨i, hi⟩ := List.mem_iff_getElem?.1 hj
  obtain ⟨mode, phase, hj, -⟩ := hm.jobs i j hi
  exact (List.getElem?_eq_some_iff.1 hj).1

theorem renumbered_concat (hm : m.Mirrors n place h own) (j : Nat) :
    h.renumbered (own ++ [j]) = h.renumbered own := by
  have hturns : h.turns.map (own ++ [j]).idxOf = h.turns.map own.idxOf :=
    List.map_congr_left fun k hk ↦ List.idxOf_append_of_mem (hm.turns k hk)
  simp only [Handle.renumbered, hturns]

theorem copies_concat (hm : m.Mirrors n place h own) (j : Nat) :
    m.registry.Copies n.registry place h (own ++ [j]) where
  handle := hm.registry.handle
  copy := by rw [hm.renumbered_concat, hm.registry.copy]
  entries := hm.registry.entries

theorem arrived (hm : m.Mirrors n place h own) (hr : r.Copies r' place h' (own ++ [m.jobs.length]))
    (hphase : Concerns place phase) (hturns : ∀ j ∈ h'.turns, j ∈ own ++ [m.jobs.length]) (mode : Mode) :
    (m.arrived mode phase r calls).Mirrors (n.arrived mode (phase.placed 0) r' calls') place h'
      (own ++ [m.jobs.length]) where
  registry := hr
  callers := hm.callers
  jobs i j hi := by
    rcases Places.concat_eq_some hi with hi | ⟨rfl, rfl⟩
    · obtain ⟨mode', phase', hj, hi', hc⟩ := hm.jobs i j hi
      exact ⟨mode', phase', Places.concat_of_some _ hj, Places.concat_of_some _ hi', hc⟩
    · refine ⟨mode, phase, by simp [Machine.arrived], ?_, hphase⟩
      rw [← hm.length]
      simp [Machine.arrived]
  length := by simp [Machine.arrived, hm.length]
  nodup := by
    refine List.nodup_append.2 ⟨hm.nodup, by simp, fun a ha b hb ↦ ?_⟩
    have hlt := hm.lt_length ha
    rw [List.mem_singleton.1 hb]
    omega
  drivers j phase' hj hp := by
    by_cases he : j = m.jobs.length
    · simp [he]
    · rw [phase?_arrived_ne m _ _ _ _ he] at hj
      exact List.mem_append_left _ (hm.drivers j phase' hj hp)
  turns := hturns

theorem moved (hm : m.Mirrors n place h own) (hj : m.jobs[job]? = some ⟨mode, phase⟩) (hi : own[i]? = some job)
    (hr : r.Copies r' place h' own) (hphase : Concerns place phase') (hturns : ∀ j ∈ h'.turns, j ∈ own) :
    (m.moved job phase' r calls).Mirrors (n.moved i (phase'.placed 0) r' calls') place h' own where
  registry := hr
  callers := hm.callers
  jobs k j hk := by
    obtain ⟨mode', phase'', hj', hk', hc⟩ := hm.jobs k j hk
    by_cases he : k = i
    · subst he
      rw [hi] at hk; cases hk
      rw [hj] at hj'; cases hj'
      exact ⟨mode, phase', by simp [Machine.moved, setPhase, hj], by simp [Machine.moved, setPhase, hk'], hphase⟩
    · have hne : j ≠ job := by
        rintro rfl
        have hlt : k < own.length := (List.getElem?_eq_some_iff.1 hk).1
        exact he ((List.getElem?_inj hlt hm.nodup).1 (hk.trans hi.symm))
      refine ⟨mode', phase'', ?_, ?_, hc⟩
      · simp [Machine.moved, setPhase, List.getElem?_modify_ne _ _ (Ne.symm hne), hj']
      · simp [Machine.moved, setPhase, List.getElem?_modify_ne _ _ (Ne.symm he), hk']
  length := by simp [Machine.moved, setPhase, hm.length]
  nodup := hm.nodup
  drivers j phase'' hj' hp := by
    by_cases he : j = job
    · subst he
      exact List.mem_of_getElem? hi
    · rw [phase?_moved_ne m _ _ _ he] at hj'
      exact hm.drivers j phase'' hj' hp
  turns := hturns

theorem idxOf_eq (hm : m.Mirrors n place h own) (hi : own[i]? = some job) : own.idxOf job = i := by
  obtain ⟨hlt, rfl⟩ := List.getElem?_eq_some_iff.1 hi
  exact hm.nodup.idxOf_getElem i hlt

theorem head?_renumbered (hm : m.Mirrors n place h own) (hi : own[i]? = some job) (hhead : h.turns.head? = some job) :
    (h.renumbered own).turns.head? = some i := by
  simp [Handle.renumbered, hhead, hm.idxOf_eq hi]

theorem renumbered_leave (hm : m.Mirrors n place h own) (hi : own[i]? = some job)
    (hhead : h.turns.head? = some job) (x : Session) :
    { h.renumbered own with session := x, turns := (h.renumbered own).turns.erase i } =
      ({ h with session := x, turns := h.turns.erase job } : Handle).renumbered own := by
  have hturns : (h.turns.map own.idxOf).erase i = (h.turns.erase job).map own.idxOf := by
    have hhead' := hm.head?_renumbered hi hhead
    rw [erase_head hhead, List.map_tail]
    exact erase_head hhead'
  simp only [Handle.renumbered, hturns]

theorem enqueued (hm : m.Mirrors n place h own) (hi : own[i]? = some job) :
    (m.enqueue place job).registry.Copies (n.enqueue 0 i).registry place { h with turns := h.turns ++ [job] } own := by
  refine hm.registry.modify rfl ?_
  simp [Handle.renumbered, hm.idxOf_eq hi]

theorem left (hm : m.Mirrors n place h own) (hi : own[i]? = some job) (hhead : h.turns.head? = some job)
    (now : Time.Stamp) :
    (m.left now place job).Copies (n.left now 0 i) place
      { h with session := h.session.finish .cancelled now, turns := h.turns.erase job } own :=
  hm.registry.modify rfl (hm.renumbered_leave hi hhead _)

theorem recorded (hm : m.Mirrors n place h own) (hi : own[i]? = some job) (hhead : h.turns.head? = some job)
    (s : Settings) (now : Time.Stamp) (a : Attempt) :
    (m.recorded s now place job a).Copies (n.recorded s now 0 i a) place
      { h with session := h.session.extend s.config.retry.onNoFix a now, turns := h.turns.erase job } own :=
  hm.registry.modify rfl (hm.renumbered_leave hi hhead _)

theorem mem_of_concat (hm : m.Mirrors n place h own) (hi : own[i]? = some job) : ∀ j ∈ h.turns ++ [job], j ∈ own := by
  intro j hj
  rcases List.mem_append.1 hj with hj | hj
  · exact hm.turns j hj
  · rw [List.mem_singleton.1 hj]
    exact List.mem_of_getElem? hi

theorem mem_of_erase (hm : m.Mirrors n place h own) (job : Nat) : ∀ j ∈ h.turns.erase job, j ∈ own :=
  fun j hj ↦ hm.turns j (List.mem_of_mem_erase hj)

theorem handle_unique (hm : m.Mirrors n place h own) {q : Nat} (hq : some q = some place)
    (hh : m.registry.handles[q]? = some h') : place = q ∧ h = h' := by
  cases hq
  rw [hm.registry.handle] at hh
  exact ⟨rfl, Option.some.inj hh⟩

end Mirrors

theorem Settles.placed {answer : Answered} {f : Failure} {fix : Fix} (hs : Settles s answer phase f fix) (q : Nat) :
    Settles s answer (phase.placed q) (f.placed q) fix := by
  cases hs with
  | byPrimary ha => exact .byPrimary ha
  | byFallback => exact .byFallback _ _

theorem openedPhase_placed (place q : Nat) (sum : Summary) (mode : Mode) :
    (openedPhase place sum mode).placed q = openedPhase q sum mode := by
  cases mode <;> rfl

theorem concerns_openedPhase (place : Nat) (sum : Summary) (mode : Mode) :
    Concerns place (openedPhase place sum mode) := by
  cases mode with
  | batch => exact .inl rfl
  | paced => exact .inr ⟨_, rfl⟩

theorem recordedPhase_placed (place q : Nat) (a : Attempt) (mode : Mode) :
    (recordedPhase place a mode).placed q = recordedPhase q a mode := by
  cases mode <;> rfl

theorem concerns_recordedPhase (place : Nat) (a : Attempt) (mode : Mode) :
    Concerns place (recordedPhase place a mode) := by
  cases mode with
  | batch => exact .inl rfl
  | paced => exact .inr ⟨_, rfl⟩

theorem Purpose.eq_attempt {purpose : Purpose} (hp : purpose.place? = some place) :
    ∃ index max since, purpose = .attempt place index max since := by
  cases purpose with
  | attempt => cases hp; exact ⟨_, _, _, rfl⟩
  | _ => cases hp

/-- A job that drives the session moves as it would if the session were alone. -/
theorem Mirrors.progress (hm : m.Mirrors n place h own) (hkept : m.Kept s) (hkept' : n.Kept s)
    (hids : (known m.registry).Nodup) (hi : own[i]? = some job) (hplace : phase.place? = some place)
    (hturn : phase.underWay? = some place → h.turns.head? = some job)
    (hp : Progress s m now job action mode phase phase' r calls) :
    ∃ r' calls' h', Progress s n now i (action.forJob i) mode (phase.placed 0) (phase'.placed 0) r' calls' ∧
      r.Copies r' place h' own ∧ Concerns place phase' ∧ ∀ j ∈ h'.turns, j ∈ own := by
  have hh' := hm.registry.handle'
  cases hp with
  | summedUp hh hc =>
    obtain ⟨rfl, rfl⟩ := hm.handle_unique hplace hh
    obtain ⟨h', hr, hturns⟩ := hm.registry.evict hkept.filed hkept'.filed hids
    exact ⟨_, _, h', @Progress.summedUp s n now i mode 0 (h.renumbered own) hh' hc, hr, .inr ⟨_, rfl⟩,
      hturns ▸ hm.turns⟩
  | queued hh hc =>
    obtain ⟨rfl, rfl⟩ := hm.handle_unique hplace hh
    exact ⟨_, _, _, @Progress.queued s n now i mode 0 (h.renumbered own) hh' hc, hm.enqueued hi, .inl rfl,
      hm.mem_of_concat hi⟩
  | refused hh hhead ho =>
    obtain ⟨rfl, rfl⟩ := hm.handle_unique hplace hh
    have hhead' := hm.head?_renumbered hi hhead
    exact ⟨_, _, _, @Progress.refused s n now i 0 (h.renumbered own) hh' hhead' (hm.isCancelled ▸ ho),
      hm.left hi hhead now, .inr ⟨_, rfl⟩, hm.mem_of_erase job⟩
  | ended hh hhead ho =>
    obtain ⟨rfl, rfl⟩ := hm.handle_unique hplace hh
    have hhead' := hm.head?_renumbered hi hhead
    have hids' : (known (m.left now place job)).Nodup := by
      rw [known_left]
      exact hids
    obtain ⟨h', hr, hturns⟩ := (hm.left hi hhead now).evict (hkept.left now place job) (hkept'.left now 0 i) hids'
    refine ⟨_, _, h', @Progress.ended s n now i 0 (h.renumbered own) hh' hhead' (hm.isCancelled ▸ ho), hr,
      .inr ⟨_, rfl⟩, ?_⟩
    rw [hturns]
    exact hm.mem_of_erase job
  | entered hh hhead hc hn =>
    obtain ⟨rfl, rfl⟩ := hm.handle_unique hplace hh
    have hhead' := hm.head?_renumbered hi hhead
    exact ⟨_, _, _, @Progress.entered s n now i mode 0 (h.renumbered own) hh' hhead' hc (hm.isCancelled ▸ hn),
      hm.registry, .inl rfl, hm.turns⟩
  | executed | passed => cases hplace
  | debugged hs hf =>
    have hnone : phase.place? = none := by cases hs <;> exact hf
    rw [hnone] at hplace; cases hplace
  | askedPrimary hr hne hlt =>
    obtain ⟨index, max, since, rfl⟩ := Purpose.eq_attempt hplace
    refine ⟨_, _, _, .askedPrimary hr (by simp [Purpose.placed]) fun q index' max' since' hq ↦ ?_, hm.registry,
      .inl rfl, hm.turns⟩
    cases hq
    exact hlt _ _ _ _ rfl
  | askedFallback ha => exact ⟨_, _, _, .askedFallback ha, hm.registry, .inl hplace, hm.turns⟩
  | concluded ho ha =>
    cases hplace
    refine ⟨_, n.calls, _, ?_, hm.recorded hi (hturn rfl) s now _, concerns_recordedPhase .., hm.mem_of_erase job⟩
    rw [recordedPhase_placed]
    exact .concluded ho ha
  | @settled _ answer _ f fix q _ _ _ a hs hpurpose ha =>
    have hu : phase.underWay? = some q := by rw [hs.underWay?, hpurpose]; rfl
    have hq : some q = some place := by
      rw [← hplace, Phase.place?_of_turn? (Phase.turn?_of_underWay? hu)]
    cases hq
    refine ⟨_, n.calls, _, ?_, hm.recorded hi (hturn hu) s now a, concerns_recordedPhase .., hm.mem_of_erase job⟩
    rw [recordedPhase_placed]
    have hpurpose' : (f.placed 0).purpose = .attempt 0 _ _ _ := congrArg (Purpose.placed 0) hpurpose
    exact .settled (hs.placed 0) hpurpose' ha

theorem gives_forJob (hj : m.phase? job = some phase) (hi : n.phase? i = some (phase.placed 0))
    (ha : action.job? = some job) (hg : ρ.Gives m action) : ρ.Gives n (action.forJob i) := by
  have hcall : (n.phase? i).bind Phase.call? = (m.phase? job).bind Phase.call? := by
    rw [hj, hi]
    exact Phase.call?_placed 0 phase
  cases action with
  | ran | answered =>
    cases ha
    simp only [Action.forJob, Reactions.Gives, hcall]
    exact hg
  | proceed => trivial
  | arrive | cancelCaller => cases ha

/-- Some actions do for the session alone what an action that leads from one machine to another does for it. -/
def Mirrored (ρ : Reactions) (s : Settings) (m m' n : Machine) (place : Nat) : Prop :=
  ∃ events h own, m'.Mirrors (n.run s events) place h own ∧ ρ.Answers s n events ∧
    turnsOver s 0 n events = (m.over? m' place).toList

namespace Mirrors

variable {m' : Machine} {own' : List Nat} {request : Request}

theorem leftOut (hm : m.Mirrors n place h own) (hm' : m'.Mirrors n place h own) : Mirrored ρ s m m' n place := by
  refine ⟨[], h, own, hm', trivial, ?_⟩
  rw [over?_eq_none hm.registry.handle hm'.registry.handle (Nat.le_refl _)]
  rfl

theorem followed (hm : m.Mirrors n place h own) (now : Time.Stamp) (action : Action) (hg : ρ.Gives n action)
    (hm' : m'.Mirrors (n.step s now action) place h' own') : Mirrored ρ s m m' n place := by
  refine ⟨[(now, action)], h', own', hm', ⟨hg, trivial⟩, ?_⟩
  rw [turnsOver_singleton, hm.over? hm']

theorem callerCancelled (hm : m.Mirrors n place h own) (now : Time.Stamp) (caller : Nat) :
    Mirrored ρ s m { m with cancelledCallers := caller :: m.cancelledCallers } n place := by
  exact hm.followed now (.cancelCaller caller) trivial { hm with callers := congrArg (caller :: ·) hm.callers }

theorem idxOf_new (hm : m.Mirrors n place h own) : (own ++ [m.jobs.length]).idxOf m.jobs.length = n.jobs.length := by
  have hnot : m.jobs.length ∉ own := fun hmem ↦ Nat.lt_irrefl _ (hm.lt_length hmem)
  rw [List.idxOf_append_of_notMem hnot, hm.length]
  simp

theorem queued (hm : m.Mirrors n place h own) (hkept : m.Kept s) (hkept' : n.Kept s) {text : String}
    (hl : m.registry.lookup text = .ok place) (now : Time.Stamp) (bits : Nat) :
    Mirrored ρ s m (m.arrived .paced (.waiting place) (m.enqueue place m.jobs.length).registry m.calls) n place := by
  have hstep := step_step (hm.registry.lookup hkept.filed hkept'.filed hl) s now bits
  have hr : (m.enqueue place m.jobs.length).registry.Copies (n.enqueue 0 n.jobs.length).registry place
      { h with turns := h.turns ++ [m.jobs.length] } (own ++ [m.jobs.length]) := by
    refine (hm.copies_concat m.jobs.length).modify rfl ?_
    simp [Handle.renumbered, hm.idxOf_new]
  have hturns (j : Nat) (hj : j ∈ h.turns ++ [m.jobs.length]) : j ∈ own ++ [m.jobs.length] := by
    rcases List.mem_append.1 hj with hj | hj
    · exact List.mem_append_left _ (hm.turns j hj)
    · exact List.mem_append_right _ hj
  have hm' : (m.arrived .paced (.waiting place) (m.enqueue place m.jobs.length).registry m.calls).Mirrors
      (n.arrived .paced (.waiting 0) (n.enqueue 0 n.jobs.length).registry n.calls) place _ _ :=
    hm.arrived hr (.inl rfl) hturns .paced
  exact hm.followed now (.arrive (.step text) bits) trivial (hstep ▸ hm')

theorem removed (hm : m.Mirrors n place h own) (hkept : m.Kept s) (hkept' : n.Kept s) {text : String}
    (hr : m.registry.remove text = .ok (place, r)) (now : Time.Stamp) (bits : Nat) :
    Mirrored ρ s m (m.arrived .paced (.answered (.ok (.summary (h.session.summary now)))) r m.calls) n place := by
  obtain ⟨r', hr', hc⟩ := (hm.copies_concat m.jobs.length).remove hkept.filed hkept'.filed hr
  have hstep := step_delete hr' hm.registry.handle' s now bits
  have hm' : (m.arrived .paced (.answered (.ok (.summary (h.session.summary now)))) r m.calls).Mirrors
      (n.arrived .paced (.answered (.ok (.summary (h.session.summary now)))) r' n.calls) place _ _ :=
    hm.arrived hc (.inr ⟨_, rfl⟩) (fun j hj ↦ List.mem_append_left _ (hm.turns j hj)) .paced
  exact hm.followed now (.arrive (.delete text) bits) trivial (hstep ▸ hm')

theorem leftOut_arrived (hm : m.Mirrors n place h own) (hr : m.registry.Spares r place)
    (hplace : phase.place? ≠ some place) (mode : Mode) (calls : List (Option Nat × Call)) :
    Mirrored ρ s m (m.arrived mode phase r calls) n place := by
  refine hm.leftOut (hm.pass hr rfl (fun j hj ↦ ?_) fun j phase' hj hp ↦ ?_)
  · exact List.getElem?_append_left (hm.lt_length hj)
  · by_cases he : j = m.jobs.length
    · subst he
      rw [phase?_arrived_self] at hj; cases hj
      exact absurd hp hplace
    · rw [phase?_arrived_ne m _ _ _ _ he] at hj
      exact hm.drivers j phase' hj hp

theorem leftOut_moved (hm : m.Mirrors n place h own) (hj : m.jobs[job]? = some ⟨mode, phase⟩)
    (hp : Progress s m now job action mode phase phase' r calls) (hr : m.registry.Spares r place)
    (hplace : phase.place? ≠ some place) : Mirrored ρ s m (m.moved job phase' r calls) n place := by
  have hnot : job ∉ own := by
    intro hmem
    obtain ⟨i, hi⟩ := List.mem_iff_getElem?.1 hmem
    obtain ⟨mode', phase', hj', -, hc⟩ := hm.jobs i job hi
    rw [hj] at hj'; cases hj'
    rcases hc with hc | ⟨answer, rfl⟩
    · exact hplace hc
    · exact Progress.not_answered hp
  refine hm.leftOut (hm.pass hr rfl (fun j hmem ↦ ?_) fun j phase'' hj' hp' ↦ ?_)
  · have hne : job ≠ j := fun he ↦ hnot (he ▸ hmem)
    simp [Machine.moved, setPhase, List.getElem?_modify_ne _ _ hne]
  · by_cases he : j = job
    · subst he
      rw [phase?_moved_self hj] at hj'; cases hj'
      rcases hp.place? with hnone | hsame
      · rw [hnone] at hp'; cases hp'
      · exact absurd (hsame ▸ hp') hplace
    · rw [phase?_moved_ne m _ _ _ he] at hj'
      exact hm.drivers j phase'' hj' hp'

theorem driven (hm : m.Mirrors n place h own) (hkept : m.Kept s) (hkept' : n.Kept s)
    (hids : (known m.registry).Nodup) {x : Course} (ht : m.Traces place h x) (hg : ρ.Gives m action)
    (hj : m.jobs[job]? = some ⟨mode, phase⟩) (hp : Progress s m now job action mode phase phase' r calls)
    (hplace : phase.place? = some place) : Mirrored ρ s m (m.moved job phase' r calls) n place := by
  have hphase := phase?_of_job hj
  obtain ⟨i, hi⟩ := List.mem_iff_getElem?.1 (hm.drivers job phase hphase hplace)
  obtain ⟨mode', phase'', hj', hi', -⟩ := hm.jobs i job hi
  rw [hj] at hj'; cases hj'
  have hturn (hu : phase.underWay? = some place) : h.turns.head? = some job := by
    obtain ⟨-, -, -, hhead⟩ := ht.flight_of_underWay hphase hu
    exact hhead
  obtain ⟨r', calls', h', hp', hc, hconcerns, hturns⟩ := hm.progress hkept hkept' hids hi hplace hturn hp
  have hm' : (m.moved job phase' r calls).Mirrors (n.step s now (action.forJob i)) place h' own := by
    rw [hp'.step_eq hi']
    exact hm.moved hj hi hc hconcerns hturns
  exact hm.followed now _ (gives_forJob hphase (phase?_of_job hi') hp.job? hg) hm'

theorem step (hm : m.Mirrors n place h own) (htracked : m.Tracked s) (hkept : m.Kept s) (hkept' : n.Kept s)
    (hids : (known m.registry).Nodup) (hnew : ∀ id, s.drawn? action = some id → id ≠ h.id) (hg : ρ.Gives m action)
    (now : Time.Stamp) : Mirrored ρ s m (m.step s now action) n place := by
  have hh := hm.registry.handle
  obtain ⟨x, -, ht⟩ := htracked.courses place h hh
  have hs := step_transition s m now action
  generalize m.step s now action = m' at hs ⊢
  cases hs with
  | ignored => exact hm.leftOut hm
  | callerCancelled caller => exact hm.callerCancelled now caller
  | @moved _ job mode phase _ _ _ hj hp =>
    by_cases hplace : phase.place? = some place
    · exact hm.driven hkept hkept' hids ht hg hj hp hplace
    · exact hm.leftOut_moved hj hp (hp.spares hkept hids hplace) hplace
  | @arrived request bits _ _ _ ha =>
    cases ha with
    | replied => exact hm.leftOut_arrived (.refl _ place) (by simp) _ _
    | launched hl => exact hm.leftOut_arrived (.refl _ place) (by cases hl <;> simp) _ _
    | opened ho hmin hmax hi =>
      have haim : m.aim? (.arrive request bits) ≠ some place := by cases ho <;> simp [aim?]
      have ha : Arrival s m now bits request _ _ _ := .opened ho hmin hmax hi
      exact hm.leftOut_arrived (ha.spares hkept hh haim hnew) (ha.place?_ne hh haim) _ _
    | @queued id q hl =>
      by_cases hq : q = place
      · subst hq
        exact hm.queued hkept hkept' hl now bits
      · have hplace : (Phase.waiting q).place? ≠ some place := fun he ↦ hq (Option.some.inj he)
        exact hm.leftOut_arrived (Registry.spares_modify _ _ hq) hplace _ _
    | @removed id q r h' hr hh' =>
      by_cases hq : q = place
      · subst hq
        rw [hh] at hh'; cases hh'
        exact hm.removed hkept hkept' hr now bits
      · exact hm.leftOut_arrived (hkept.filed.remove_spares hr hq) (by simp) _ _

end Mirrors

/-- A service that has done for the session at a place what another has done for it, and nothing else. -/
inductive Alone (s : Settings) (m n : Machine) (place : Nat) : Prop
  | before : m.registry.handles[place]? = none → n.registry = .empty s.config.retry.maxSessions → n.jobs = [] →
      n.cancelledCallers = m.cancelledCallers → Alone s m n place
  | since {h : Handle} {own : List Nat} : m.Mirrors n place h own → Alone s m n place

theorem mirrors_opened (hm : m.InRange) (hkept : m.Kept s) (hkept' : n.Kept s)
    (hnone : m.registry.handles[place]? = none) (hr : n.registry = .empty s.config.retry.maxSessions)
    (hjobs : n.jobs = []) (hcallers : n.cancelledCallers = m.cancelledCallers)
    (hh : (m.step s now action).registry.handles[place]? = some h) :
    (m.step s now action).Mirrors (n.step s now action) place h [m.jobs.length] ∧ ρ.Gives n action := by
  obtain ⟨request, bits, mode, caller, language, code, max, r, rfl, ho, hmin, hmax, hi, rfl⟩ :=
    opened_by hm hnone hh
  let x : Session := .start (SessionKey.ofBits bits) language code max now
  have hn := normalize_start bits language code max now
  obtain ⟨rfl, rfl, hroom⟩ := Registry.insert_eq_filed hn hi
  have hroom' (hpaced : mode = .paced) : n.registry.pacedCount ≠ s.config.retry.maxSessions := by
    have hlt := hroom hpaced
    have hzero : n.registry.pacedCount = 0 := by rw [hr]; rfl
    rw [hzero, ← hkept.capacity]
    omega
  have hstep' := hkept'.step_filed hmin hmax ho hroom' now bits
  have hlen : n.registry.handles.length = 0 := by rw [hr]; rfl
  rw [step_opened ho hmin hmax hi] at hh ⊢
  rw [hstep', hlen]
  refine ⟨⟨⟨hh, ?_, ?_⟩, hcallers, fun i j hi' ↦ ?_, ?_, by simp, fun j phase hj hp ↦ ?_, by simp⟩, trivial⟩
  · rw [hr]
    rfl
  · refine iff_of_true ?_ ?_
    · rw [hr]
      exact List.mem_append_right _ (List.mem_singleton.2 rfl)
    · exact List.mem_append_right _ (List.mem_singleton.2 rfl)
  · obtain ⟨rfl, rfl⟩ : i = 0 ∧ m.jobs.length = j := by simpa [List.getElem?_singleton] using hi'
    refine ⟨mode, _, List.getElem?_concat_length, ?_, concerns_openedPhase ..⟩
    rw [openedPhase_placed]
    simp [Machine.arrived, hjobs]
  · simp [Machine.arrived, hjobs]
  · by_cases he : j = m.jobs.length
    · simp [he]
    · rw [phase?_arrived_ne m _ _ _ _ he] at hj
      exact absurd (hm.phases j phase _ hj hp) (Nat.lt_irrefl _)

theorem Alone.step (ha : Alone s m n place) (hm : m.Tracked s) (hkept : m.Kept s) (hkept' : n.Kept s)
    (hids : (known m.registry).Nodup) (hnew : ∀ id, s.drawn? action = some id → id ∉ known m.registry)
    (hg : ρ.Gives m action) (now : Time.Stamp) :
    ∃ events, Alone s (m.step s now action) (n.run s events) place ∧ ρ.Answers s n events ∧
      turnsOver s 0 n events = (m.over? (m.step s now action) place).toList := by
  cases ha with
  | @since h _ hmirrors =>
    have hnew' (id : String) (hid : s.drawn? action = some id) : id ≠ h.id := by
      rintro rfl
      exact hnew _ hid (List.mem_map_of_mem (List.mem_of_getElem? hmirrors.registry.handle))
    obtain ⟨events, h', own', hmirrors', hrest⟩ := hmirrors.step hm hkept hkept' hids hnew' hg now
    exact ⟨events, .since hmirrors', hrest⟩
  | before hnone hr hjobs hcallers =>
    have hover : m.over? (m.step s now action) place = none := by simp [over?, hnone]
    have hover' : n.over? (n.step s now action) 0 = none := by simp [over?, hr, Registry.empty]
    rw [hover]
    cases hh : (m.step s now action).registry.handles[place]? with
    | some h =>
      obtain ⟨hmirrors, hg'⟩ := mirrors_opened (ρ := ρ) hm.inRange hkept hkept' hnone hr hjobs hcallers hh
      refine ⟨[(now, action)], .since hmirrors, ⟨hg', trivial⟩, ?_⟩
      rw [turnsOver_singleton, hover']
    | none =>
      rcases cancelledCallers_step s m now action with hsame | ⟨caller, rfl, hadd⟩
      · exact ⟨[], .before hh hr hjobs (hcallers.trans hsame.symm), trivial, rfl⟩
      · refine ⟨[(now, .cancelCaller caller)], .before hh hr hjobs ?_, ⟨trivial, trivial⟩, ?_⟩
        · rw [hadd]
          exact congrArg (caller :: ·) hcallers
        · rw [turnsOver_singleton, hover']

/-- For every run there is one that does the same for one of its sessions, and nothing else. -/
theorem exists_alone (events : List (Time.Stamp × Action)) (ha : ρ.Answers s (start s) events)
    (hids : (drawn s events).Nodup) (place : Nat) :
    ∃ alone, Alone s ((start s).run s events) ((start s).run s alone) place ∧ ρ.Answers s (start s) alone ∧
      turnsOver s 0 (start s) alone = turnsOver s place (start s) events := by
  -- The run grows at its end, as what is drawn later must differ from all that is known by then.
  induction events using List.reverseRecOn with
  | nil => exact ⟨[], .before rfl rfl rfl rfl, trivial, rfl⟩
  | append_singleton events e ih =>
    obtain ⟨ha, hg, -⟩ := (Reactions.answers_append _ _ _).1 ha
    rw [drawn, List.filterMap_append, List.nodup_append] at hids
    obtain ⟨hbefore, -, hapart⟩ := hids
    obtain ⟨alone, halone, hanswers, hturns⟩ := ih ha hbefore
    have hknown := known_sublist s events
    have hnew (id : String) (hid : s.drawn? e.2 = some id) : id ∉ known ((start s).run s events).registry :=
      fun hmem ↦ hapart id (hknown.subset hmem) id (by simp [hid]) rfl
    obtain ⟨more, halone', hanswers', hturns'⟩ :=
      halone.step (tracked s events) (kept s events) (kept s alone) (hknown.nodup hbefore) hnew hg e.1
    refine ⟨alone ++ more, ?_, (Reactions.answers_append _ _ _).2 ⟨hanswers, hanswers'⟩, ?_⟩
    · rw [run_append, run_append]
      exact halone'
    · rw [turnsOver_append, turnsOver_append, turnsOver_singleton, hturns, hturns']

/-- Two runs in which sessions were opened alike and had their turns alike leave them with the same record. -/
theorem untimed_eq_of_turnsOver {events events' : List (Time.Stamp × Action)} {place' : Nat}
    (ha : ρ.Answers s (start s) events) (ha' : ρ.Answers s (start s) events')
    (hh : ((start s).run s events).registry.handles[place]? = some h)
    (hh' : ((start s).run s events').registry.handles[place']? = some h')
    (hopening : h'.session.opening = h.session.opening)
    (hturns : turnsOver s place' (start s) events' = turnsOver s place (start s) events) :
    h'.session.untimed = h.session.untimed := by
  have ho := outcome_of_turns events ha place
  have ho' := outcome_of_turns events' ha' place'
  unfold Outcome at ho ho'
  rw [hh] at ho
  rw [hh', hturns] at ho'
  have ho' : h'.session.untimed = (ρ.turns s h'.session.opening (turnsOver s place (start s) events)).untimed := ho'
  rw [ho', hopening]
  exact ho.symm

theorem isCancelled_step (s : Settings) (now : Time.Stamp) (h : Handle)
    (hcaller : ∀ caller, h.caller = some caller → action ≠ .cancelCaller caller) :
    (m.step s now action).isCancelled h = m.isCancelled h := by
  unfold Machine.isCancelled
  rcases cancelledCallers_step s m now action with hsame | ⟨caller, rfl, hadd⟩
  · rw [hsame]
  · rw [hadd]
    cases hc : h.caller with
    | none => rfl
    | some c =>
      have hne : c ≠ caller := fun he ↦ hcaller c hc (he ▸ rfl)
      simp [hne]

/-- Sessions do not interfere: each is left with the record that it has by itself, and what is done for one neither
changes nor cancels another. -/
theorem sessions_do_not_interfere (ρ : Reactions) (s : Settings) (events : List (Time.Stamp × Action))
    (ha : ρ.Answers s (start s) events) (hids : (drawn s events).Nodup) (place : Nat) (h : Handle)
    (hh : ((start s).run s events).registry.handles[place]? = some h) :
    let m := (start s).run s events
    (∃ alone h', ρ.Answers s (start s) alone ∧ ((start s).run s alone).registry.handles = [h'] ∧
      h'.session = h.session ∧ h'.mode = h.mode ∧
      ((start s).run s alone).isCancelled h' = m.isCancelled h ∧
      turnsOver s 0 (start s) alone = turnsOver s place (start s) events) ∧
    (∀ events' place' h', ρ.Answers s (start s) events' →
      ((start s).run s events').registry.handles[place']? = some h' →
      h'.session.language = h.session.language → h'.session.initialCode = h.session.initialCode →
      h'.session.maxAttempts = h.session.maxAttempts →
      turnsOver s place' (start s) events' = turnsOver s place (start s) events →
      h'.session.untimed = h.session.untimed) ∧
    (∀ now action, (∀ id, s.drawn? action = some id → id ∉ drawn s events) → m.aim? action ≠ some place →
      m.registry.Spares (m.step s now action).registry place ∧
      ((∀ caller, h.caller = some caller → action ≠ .cancelCaller caller) →
        (m.step s now action).isCancelled h = m.isCancelled h)) ∧
    ∀ now action, (m.step s now action).cancelledCallers = m.cancelledCallers ∨
      ∃ caller, action = .cancelCaller caller ∧
        (m.step s now action).cancelledCallers = caller :: m.cancelledCallers := by
  intro m
  have hknown := known_sublist s events
  refine ⟨?_, fun events' place' h' ha' hh' hlanguage hcode hmax hturns ↦ ?_, fun now action hnew haim ↦ ⟨?_, ?_⟩,
    cancelledCallers_step s m⟩
  · obtain ⟨alone, halone, hanswers, hturns⟩ := exists_alone events ha hids place
    cases halone with
    | before hnone => rw [hh] at hnone; cases hnone
    | @since h₀ own hm =>
      have hsame := hm.registry.handle
      rw [hh] at hsame; cases hsame
      exact ⟨alone, h.renumbered own, hanswers, hm.registry.copy, rfl, rfl, hm.isCancelled, hturns⟩
  · have hopening : h'.session.opening = h.session.opening := by
      rw [Session.opening, hlanguage, hcode, hmax]
      rfl
    exact untimed_eq_of_turnsOver ha ha' hh hh' hopening hturns
  · have hnew' (id : String) (hid : s.drawn? action = some id) : id ≠ h.id := by
      rintro rfl
      exact hnew _ hid (hknown.subset (List.mem_map_of_mem (List.mem_of_getElem? hh)))
    exact (kept s events).spares_step (hknown.nodup hids) hh haim hnew' now
  · exact isCancelled_step s now h

def bracketing : Reactions where
  run _ code :=
    if code = "print(1" then .runtimeFailure "" "SyntaxError: '(' was never closed" (some 1) else .success "1" ""
  ask _ _ _ _ := .proposal ⟨"The bracket was open.", "print(1)", none⟩

/-- Two batch sessions under the token of one caller, of which the second is removed before its first attempt. -/
def rivalry : List (Time.Stamp × Action) :=
  [(⟨0, 0⟩, .arrive (.run "python" "print(1" none (some 5)) 7),
   (⟨0, 0⟩, .arrive (.run "python" "print(2)" none (some 5)) 8), (⟨1, 0⟩, .proceed 0), (⟨1, 0⟩, .proceed 1),
   (⟨1, 0⟩, .proceed 0), (⟨2, 0⟩, .ran 0 (.runtimeFailure "" "SyntaxError: '(' was never closed" (some 1))),
   (⟨2, 0⟩, .arrive (.delete "retry_00000000000000000000000000000008") 0), (⟨3, 0⟩, .proceed 1),
   (⟨3, 0⟩, .answered 0 (.proposal ⟨"The bracket was open.", "print(1)", none⟩)), (⟨3, 0⟩, .proceed 0),
   (⟨3, 0⟩, .proceed 0), (⟨4, 0⟩, .ran 0 (.success "1" "")), (⟨4, 0⟩, .proceed 0)]

theorem gives_ran {language : Language} {code : String} {result : ExecutionResult}
    (hc : (m.phase? job).bind Phase.call? = some (.run language code)) (hr : result = ρ.run language code) :
    ρ.Gives m (.ran job result) := by
  intro language' code' hc'
  rw [hc] at hc'; cases hc'
  exact hr

theorem gives_answered {role : Role} {language : Language} {code error : String} {answer : Answered}
    (hc : (m.phase? job).bind Phase.call? = some (.ask role language code error))
    (ha : answer = ρ.ask role language code error) : ρ.Gives m (.answered job answer) := by
  intro role' language' code' error' hc'
  rw [hc] at hc'; cases hc'
  exact ha

theorem sessions_do_not_interfere_rivalry :
    bracketing.Answers .plain (start .plain) rivalry ∧ (drawn .plain rivalry).Nodup ∧
      ∃ h, ((start .plain).run .plain rivalry).registry.handles[0]? = some h ∧ h.session.state = .succeeded ∧
        ∃ alone h', bracketing.Answers .plain (start .plain) alone ∧
          ((start .plain).run .plain alone).registry.handles = [h'] ∧ h'.session = h.session := by
  have ha : bracketing.Answers .plain (start .plain) rivalry := by
    have hfirst : (((start .plain).run .plain (rivalry.take 5)).phase? 0).bind Phase.call? =
        some (.run .python "print(1") := by decide +kernel
    have hasked : (((start .plain).run .plain (rivalry.take 8)).phase? 0).bind Phase.call? =
        some (.ask .primary .python "print(1" "SyntaxError: '(' was never closed") := by decide +kernel
    have hsecond : (((start .plain).run .plain (rivalry.take 11)).phase? 0).bind Phase.call? =
        some (.run .python "print(1)") := by decide +kernel
    exact ⟨trivial, trivial, trivial, trivial, trivial, gives_ran hfirst rfl, trivial, trivial,
      gives_answered hasked rfl, trivial, trivial, gives_ran hsecond rfl, trivial, trivial⟩
  have hids : (drawn .plain rivalry).Nodup := by decide +kernel
  have hstate : (((start .plain).run .plain rivalry).registry.handles[0]?.map fun h ↦ h.session.state) =
      some .succeeded := by decide +kernel
  obtain ⟨h, hh, hstate⟩ := Option.map_eq_some_iff.1 hstate
  obtain ⟨⟨alone, h', hanswers, hsole, hsession, -⟩, -⟩ :=
    sessions_do_not_interfere bracketing .plain rivalry ha hids 0 h hh
  exact ⟨ha, hids, h, hh, hstate, alone, h', hanswers, hsole, hsession⟩

end Machine

end CodeRepair
