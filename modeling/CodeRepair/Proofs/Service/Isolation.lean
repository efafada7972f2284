import CodeRepair.Proofs.Service.Cancellation
import CodeRepair.Proofs.Service.Enrolment

/-!
What is done for one session leaves the others alone. An action is aimed at one session or at none, and while no id
is made twice, every other session keeps its record, its token, its line and its place in the register.
-/
namespace CodeRepair

namespace Registry

variable {r r' r'' : Registry} {place q : Nat} {h h' : Handle} {text key : String}

/-- The session at a place is as it was, and is registered if it was. -/
structure Spares (r r' : Registry) (place : Nat) : Prop where
  handle : r'.handles[place]? = r.handles[place]?
  entries : ∀ key, (key, place) ∈ r'.entries ↔ (key, place) ∈ r.entries

theorem Spares.refl (r : Registry) (place : Nat) : r.Spares r place := ⟨rfl, fun _ ↦ .rfl⟩

theorem Spares.trans (hr : r.Spares r' place) (hr' : r'.Spares r'' place) : r.Spares r'' place where
  handle := hr'.handle.trans hr.handle
  entries key := (hr'.entries key).trans (hr.entries key)

theorem spares_modify (r : Registry) (f : Handle → Handle) (hne : q ≠ place) : r.Spares (r.modify q f) place where
  handle := modify_ne r f hne
  entries _ := .rfl

theorem place_unique (hids : (r.handles.map Handle.id).Nodup) (hh : r.handles[place]? = some h)
    (hh' : r.handles[q]? = some h') (hid : h.id = h'.id) : place = q := by
  have hlt : place < (r.handles.map Handle.id).length := by
    rw [List.length_map]
    exact (List.getElem?_eq_some_iff.1 hh).1
  refine (List.getElem?_inj hlt hids).1 ?_
  simp only [List.getElem?_map, hh, hh', Option.map_some, hid]

theorem Filed.id_of_entry (hf : r.Filed) (hh : r.handles[place]? = some h) (hmem : (key, place) ∈ r.entries) :
    h.id = key := by
  obtain ⟨h', hh', hid⟩ := hf.entries _ hmem
  rw [hh] at hh'; cases hh'
  exact hid

theorem Filed.remove_spares (hf : r.Filed) (hr : r.remove text = .ok (q, r')) (hne : q ≠ place) :
    r.Spares r' place := by
  obtain ⟨key, -, hfind, rfl⟩ := remove_eq_ok hr
  refine ⟨modify_ne _ _ hne, fun key' ↦ ?_⟩
  have hmem := hf.find?_eq_some_iff.1 hfind
  change (key', place) ∈ r.entries.filter (·.1 ≠ key) ↔ (key', place) ∈ r.entries
  rw [List.mem_filter]
  refine ⟨fun hboth ↦ hboth.1, fun hin ↦ ⟨hin, ?_⟩⟩
  have hkey : key' ≠ key := by
    rintro rfl
    have hplace := List.inj_on_of_nodup_map hf.nodup hin hmem rfl
    exact hne (Prod.mk.inj hplace).2.symm
  simpa using hkey

theorem Filed.evict_spares (hf : r.Filed) (hids : (r.handles.map Handle.id).Nodup) (hh : r.handles[q]? = some h)
    (hne : q ≠ place) : r.Spares (r.evict h.id) place := by
  unfold Registry.evict
  split
  next p r' hr =>
    obtain ⟨h', hh', hn, -⟩ := hf.remove hr
    rw [(hf.named q h hh).1] at hn
    have hp : q = p := place_unique hids hh hh' (Except.ok.inj hn)
    exact hf.remove_spares hr (hp ▸ hne)
  · exact .refl r place

theorem filed_spares {session : Session} {mode : Mode} {caller : Option Nat} (hf : r.Filed)
    (hh : r.handles[place]? = some h) (hnew : session.id ≠ h.id) :
    r.Spares (r.filed session mode caller) place := by
  have hlt : place < r.handles.length := (List.getElem?_eq_some_iff.1 hh).1
  refine ⟨(Places.concat_of_some _ hh).trans hh.symm, fun key ↦ ?_⟩
  rw [filed, List.mem_append, List.mem_filter, List.mem_singleton]
  constructor
  · rintro (⟨hin, -⟩ | heq)
    · exact hin
    · have hplace := (Prod.mk.inj heq).2
      omega
  · intro hin
    have hid := hf.id_of_entry hh hin
    exact .inl ⟨hin, by simpa [← hid] using Ne.symm hnew⟩

end Registry

namespace Machine

variable {s : Settings} {m : Machine} {now : Time.Stamp} {place job bits : Nat} {h : Handle} {mode : Mode}
  {phase phase' : Phase} {r : Registry} {calls : List (Option Nat × Call)} {action : Action} {request : Request}

/-- The place of the session that an action is aimed at. -/
def aim? (m : Machine) : Action → Option Nat
  | .arrive (.step text) _ | .arrive (.delete text) _ => (m.registry.lookup text).toOption
  | .proceed job | .ran job _ | .answered job _ => (m.phase? job).bind Phase.place?
  | _ => none

theorem aim?_of_job? (hj : m.phase? job = some phase) (ha : action.job? = some job) :
    m.aim? action = phase.place? := by
  cases action with
  | proceed | ran | answered =>
    cases ha
    simp [aim?, hj]
  | _ => cases ha

theorem lookup_of_remove (hr : m.registry.remove text = .ok (place, r)) : m.registry.lookup text = .ok place := by
  obtain ⟨key, hn, hfind, -⟩ := Registry.remove_eq_ok hr
  simp only [Registry.lookup, hn, Registry.mapError_ok, bind, Except.bind, hfind]
  rfl

theorem known_left (m : Machine) (now : Time.Stamp) (place job : Nat) :
    known (m.left now place job) = known m.registry := known_modify _ _ fun _ ↦ rfl

section Others

variable (hm : m.Kept s) (hids : (known m.registry).Nodup)
include hm hids

theorem Progress.spares (hp : Progress s m now job action mode phase phase' r calls)
    (hne : phase.place? ≠ some place) : m.registry.Spares r place := by
  have other {q : Nat} (hq : phase.place? = some q) : q ≠ place := fun he ↦ hne (he ▸ hq)
  cases hp with
  | @summedUp _ q h hh => exact hm.filed.evict_spares hids hh (other rfl)
  | queued | refused | concluded => exact Registry.spares_modify _ _ (other rfl)
  | @ended q h hh =>
    let h' : Handle := { h with session := h.session.finish .cancelled now, turns := h.turns.erase job }
    have hh' : (m.left now q job).handles[q]? = some h' := Registry.modify_self _ hh
    have hids' : (known (m.left now q job)).Nodup := by
      rw [known_left]
      exact hids
    have hevict : (m.left now q job).Spares ((m.left now q job).evict h'.id) place :=
      (hm.left now q job).evict_spares hids' hh' (other rfl)
    exact (Registry.spares_modify _ _ (other rfl)).trans hevict
  | @settled _ _ _ _ _ q _ _ _ _ hs hf =>
    exact Registry.spares_modify _ _ (other (by cases hs <;> simp [hf]))
  | _ => exact .refl _ place

omit hids in
theorem Arrival.spares (ha : Arrival s m now bits request phase r calls) (hh : m.registry.handles[place]? = some h)
    (hne : m.aim? (.arrive request bits) ≠ some place)
    (hnew : ∀ id, s.drawn? (.arrive request bits) = some id → id ≠ h.id) : m.registry.Spares r place := by
  cases ha with
  | replied | launched => exact .refl _ place
  | @opened _ _ _ language code max _ _ ho hmin hmax hi =>
    have hn := normalize_start bits language code max now
    obtain ⟨-, rfl, -⟩ := Registry.insert_eq_filed hn hi
    exact Registry.filed_spares hm.filed hh (hnew _ (ho.drawn? hmin hmax bits))
  | queued hl =>
    refine Registry.spares_modify _ _ fun hq ↦ hne ?_
    rw [aim?, hl, hq]
    rfl
  | removed hr _ =>
    refine hm.filed.remove_spares hr fun hq ↦ hne ?_
    rw [aim?, lookup_of_remove hr, hq]
    rfl

omit hm hids in
theorem Arrival.place?_ne (ha : Arrival s m now bits request phase r calls)
    (hh : m.registry.handles[place]? = some h) (hne : m.aim? (.arrive request bits) ≠ some place) :
    phase.place? ≠ some place := by
  intro hplace
  cases ha with
  | replied | removed => cases hplace
  | launched hl => cases hl <;> cases hplace
  | @opened _ mode _ _ _ _ _ _ _ _ _ hi =>
    obtain ⟨-, -, -, rfl, -⟩ := Registry.insert_eq_ok hi
    cases mode with
    | batch =>
      rw [← Option.some.inj hplace] at hh
      simp at hh
    | paced => cases hplace
  | queued hl =>
    refine hne ?_
    rw [aim?, hl]
    exact hplace

/-- An action leaves every session alone but the one that it is aimed at. -/
theorem Kept.spares_step (hh : m.registry.handles[place]? = some h) (hne : m.aim? action ≠ some place)
    (hnew : ∀ id, s.drawn? action = some id → id ≠ h.id) (now : Time.Stamp) :
    m.registry.Spares (m.step s now action).registry place := by
  have hs := step_transition s m now action
  generalize m.step s now action = m' at hs ⊢
  cases hs with
  | ignored | callerCancelled => exact .refl _ place
  | arrived ha => exact ha.spares hm hh hne hnew
  | moved hj hp =>
    rw [aim?_of_job? (phase?_of_job hj) hp.job?] at hne
    exact hp.spares hm hids hne

end Others

theorem nodup_of_added {ids ids' : List String} {made : Option String}
    (hadded : ids' = ids ∨ ∃ id, made = some id ∧ ids' = ids ++ [id]) (hids : ids.Nodup)
    (hnew : ∀ id, made = some id → id ∉ ids) : ids'.Nodup := by
  rcases hadded with rfl | ⟨id, hid, rfl⟩
  · exact hids
  · exact List.nodup_append.2 ⟨hids, List.nodup_singleton id, fun _ hk _ hmem he ↦
      hnew id hid (List.mem_singleton.1 hmem ▸ he ▸ hk)⟩

theorem nodup_known_step (hids : (known m.registry).Nodup)
    (hnew : ∀ id, s.drawn? action = some id → id ∉ known m.registry) (now : Time.Stamp) :
    (known (m.step s now action).registry).Nodup := nodup_of_added (known_step s m now action) hids hnew

theorem cancelledCallers_step (s : Settings) (m : Machine) (now : Time.Stamp) (action : Action) :
    (m.step s now action).cancelledCallers = m.cancelledCallers ∨
      ∃ caller, action = .cancelCaller caller ∧
        (m.step s now action).cancelledCallers = caller :: m.cancelledCallers := by
  have hs := step_transition s m now action
  generalize m.step s now action = m' at hs ⊢
  cases hs with
  | callerCancelled caller => exact .inr ⟨caller, rfl, rfl⟩
  | _ => exact .inl rfl

end Machine

end CodeRepair
