import CodeRepair.Proofs.Session.Key
import CodeRepair.Proofs.Session.Registry
import Mathlib.Data.List.Nodup

/-!
The register as a map from keys to sessions: under each key stands the session whose id it is, and no key stands
twice. So a text finds, or removes, the one session whose id it spells.
-/
namespace CodeRepair.Registry

variable {r r' : Registry} {place : Nat} {h : Handle} {text key : String} {session : Session} {mode : Mode}

/-- Under each key stands the session whose id it is, and the paced sessions fit in. -/
structure Filed (r : Registry) : Prop where
  named : ∀ (place : Nat) h, r.handles[place]? = some h →
    SessionKey.normalize h.id = .ok h.id ∧ h.session.id = h.id
  entries : ∀ e ∈ r.entries, ∃ h, r.handles[e.2]? = some h ∧ h.id = e.1
  nodup : (r.entries.map (·.1)).Nodup
  room : r.pacedCount ≤ r.capacity

theorem mem_registered : h ∈ r.registered ↔ ∃ e ∈ r.entries, r.handles[e.2]? = some h := List.mem_filterMap

theorem pacedCount_eq (r : Registry) : r.pacedCount = (r.registered.map Handle.mode).count .paced := by
  rw [pacedCount, List.count, List.countP_map, List.countP_eq_length_filter]
  congr 1

theorem registered_modify {α : Type} (r : Registry) (place : Nat) {f : Handle → Handle} (g : Handle → α)
    (hg : ∀ h, g (f h) = g h) : (r.modify place f).registered.map g = r.registered.map g := by
  simp only [registered, List.map_filterMap]
  refine List.filterMap_congr fun e _ ↦ ?_
  simp only [modify, List.getElem?_modify]
  cases r.handles[e.2]? with
  | none => rfl
  | some h =>
    by_cases hp : place = e.2
    · simp [hp, hg]
    · simp [hp]

theorem pacedCount_modify (r : Registry) (place : Nat) {f : Handle → Handle} (hf : ∀ h, (f h).mode = h.mode) :
    (r.modify place f).pacedCount = r.pacedCount := by
  rw [pacedCount_eq, pacedCount_eq, registered_modify r place Handle.mode hf]

theorem registered_of_agree (he : ∀ e ∈ r.entries, ∃ h, r.handles[e.2]? = some h ∧ h.id = e.1) {handles : List Handle}
    (hsame : ∀ e ∈ r.entries, e.1 ≠ key → handles[e.2]? = r.handles[e.2]?) :
    ((r.entries.filter (·.1 ≠ key)).filterMap fun e ↦ handles[e.2]?) = r.registered.filter (·.id ≠ key) := by
  rw [registered, List.filter_filterMap, List.filterMap_filter]
  refine List.filterMap_congr fun e hmem ↦ ?_
  obtain ⟨h, hh, hid⟩ := he e hmem
  by_cases hk : e.1 = key
  · simp [hh, hid, hk, Option.filter]
  · simp [hsame e hmem hk, hh, hid, hk, Option.filter]

theorem insertNewest_perm (h : Handle) (sorted : List Handle) : (insertNewest h sorted).Perm (h :: sorted) := by
  induction sorted with
  | nil => exact .refl _
  | cons x rest ih =>
    rw [insertNewest]
    split
    · exact .refl _
    · exact (ih.cons x).trans (.swap h x rest)

theorem newestFirst_perm (r : Registry) : r.newestFirst.Perm r.registered := by
  have hfold (hs sorted : List Handle) :
      (hs.foldl (fun sorted h ↦ insertNewest h sorted) sorted).Perm (hs ++ sorted) := by
    induction hs generalizing sorted with
    | nil => exact .refl _
    | cons h rest ih =>
      refine (ih _).trans ?_
      refine ((insertNewest_perm h sorted).append_left rest).trans ?_
      exact List.perm_middle
  simpa [newestFirst] using hfold r.registered []

def NewestFirst (hs : List Handle) : Prop :=
  hs.Pairwise fun a b ↦ a.session.startedAt.isBefore b.session.startedAt = false

theorem insertNewest_ordered {hs : List Handle} (hs' : NewestFirst hs) (h : Handle) :
    NewestFirst (insertNewest h hs) := by
  have hafter {a b c : Time.Stamp} (hab : a.isBefore b = true) (hac : a.isBefore c = false) :
      b.isBefore c = false := by
    simp [Time.Stamp.isBefore] at hab hac ⊢
    omega
  have hasymm {a b : Time.Stamp} (hab : a.isBefore b = true) : b.isBefore a = false := by
    simp [Time.Stamp.isBefore] at hab ⊢
    omega
  induction hs with
  | nil => exact List.pairwise_singleton _ _
  | cons x rest ih =>
    obtain ⟨hx, hrest⟩ := List.pairwise_cons.1 hs'
    rw [insertNewest]
    split
    next hlt =>
      refine List.pairwise_cons.2 ⟨fun y hy ↦ ?_, hs'⟩
      rcases List.mem_cons.1 hy with rfl | hy
      · exact hasymm hlt
      · exact hafter hlt (hx y hy)
    next hnot =>
      refine List.pairwise_cons.2 ⟨fun y hy ↦ ?_, ih hrest⟩
      rcases List.mem_cons.1 ((insertNewest_perm h rest).mem_iff.1 hy) with rfl | hy
      · simpa using hnot
      · exact hx y hy

theorem newestFirst_ordered (r : Registry) : NewestFirst r.newestFirst := by
  have hfold (hs sorted : List Handle) (ho : NewestFirst sorted) :
      NewestFirst (hs.foldl (fun sorted h ↦ insertNewest h sorted) sorted) := by
    induction hs generalizing sorted with
    | nil => exact ho
    | cons h rest ih => exact ih _ (insertNewest_ordered ho h)
  exact hfold r.registered [] .nil

namespace Filed

theorem map_id (hf : r.Filed) : r.registered.map Handle.id = r.entries.map (·.1) := by
  have hid (e : String × Nat) (he : e ∈ r.entries) : (r.handles[e.2]?).map Handle.id = some e.1 := by
    obtain ⟨h, hh, hid⟩ := hf.entries e he
    rw [hh, Option.map_some, hid]
  rw [registered, List.map_filterMap, List.filterMap_congr hid]
  exact congrFun List.filterMap_eq_map' _

theorem empty (capacity : Nat) : (Registry.empty capacity).Filed where
  named place h hh := by simp [Registry.empty] at hh
  entries e he := by simp [Registry.empty] at he
  nodup := .nil
  room := by simp [pacedCount, registered, Registry.empty]

theorem find?_eq_some_iff (hf : r.Filed) : r.find? key = some place ↔ (key, place) ∈ r.entries := by
  constructor
  · intro hfind
    obtain ⟨e, he, rfl⟩ := Option.map_eq_some_iff.1 hfind
    have hkey : e.1 = key := by simpa using List.find?_some he
    exact hkey ▸ List.mem_of_find?_eq_some he
  · intro hmem
    obtain ⟨e, he⟩ := Option.isSome_iff_exists.1
      (List.find?_isSome.2 ⟨(key, place), hmem, by simp⟩ : (r.entries.find? (·.1 = key)).isSome)
    have hkey : e.1 = key := by simpa using List.find?_some he
    have hsame : e = (key, place) :=
      List.inj_on_of_nodup_map hf.nodup (List.mem_of_find?_eq_some he) hmem hkey
    rw [find?, he, hsame]
    rfl

theorem lookup_cases (hf : r.Filed) (text : String) :
    (∃ e, SessionKey.normalize text = .error e ∧ r.lookup text = .error (.invalidId e) ∧
        r.remove text = .error (.invalidId e)) ∨
      (∃ key, SessionKey.normalize text = .ok key ∧ (∀ h ∈ r.registered, h.id ≠ key) ∧
        r.lookup text = .error (.notFound key) ∧ r.remove text = .error (.notFound key)) ∨
      ∃ h place r', SessionKey.normalize text = .ok h.id ∧ h ∈ r.registered ∧ r.handles[place]? = some h ∧
        r.lookup text = .ok place ∧ r.remove text = .ok (place, r') := by
  cases hn : SessionKey.normalize text with
  | error e =>
    refine .inl ⟨e, rfl, ?_, ?_⟩
    · simp only [lookup, hn]; rfl
    · simp only [remove, hn]; rfl
  | ok key =>
    cases hfind : r.find? key with
    | none =>
      refine .inr (.inl ⟨key, rfl, fun h hmem hid ↦ ?_, ?_, ?_⟩)
      · obtain ⟨e, he, hh⟩ := mem_registered.1 hmem
        obtain ⟨h', hh', hid'⟩ := hf.entries e he
        rw [hh] at hh'; cases hh'
        have hin : (key, e.2) ∈ r.entries := by rw [← hid, hid']; exact he
        rw [hf.find?_eq_some_iff.2 hin] at hfind
        cases hfind
      · simp only [lookup, hn, mapError_ok, bind, Except.bind, hfind]; rfl
      · simp only [remove, hn, mapError_ok, bind, Except.bind, hfind]; rfl
    | some place =>
      have hmem := hf.find?_eq_some_iff.1 hfind
      obtain ⟨h, hh, hid⟩ := hf.entries _ hmem
      have hid : h.id = key := hid
      have hl : r.lookup text = .ok place := by
        simp only [lookup, hn, mapError_ok, bind, Except.bind, hfind]; rfl
      obtain ⟨entries, hr⟩ := remove_of_lookup hl
      exact .inr (.inr ⟨h, place, _, by rw [hid], mem_registered.2 ⟨_, hmem, hh⟩, hh, hl, hr⟩)

theorem modify (hf : r.Filed) (place : Nat) {f : Handle → Handle} (hid : ∀ h, (f h).id = h.id)
    (hmode : ∀ h, (f h).mode = h.mode) (hsession : ∀ h, (f h).session.id = h.session.id) :
    (r.modify place f).Filed where
  named q h' hh' := by
    rw [Registry.modify, List.getElem?_modify] at hh'
    obtain ⟨h, hh, rfl⟩ := Option.map_eq_some_iff.1 hh'
    have hnamed := hf.named q h hh
    split
    · rw [hid, hsession]; exact hnamed
    · exact hnamed
  entries e he := by
    obtain ⟨h, hh, hkey⟩ := hf.entries e he
    by_cases hp : place = e.2
    · subst hp
      exact ⟨f h, modify_self f hh, (hid h).trans hkey⟩
    · exact ⟨h, (modify_ne r f hp).trans hh, hkey⟩
  nodup := hf.nodup
  room := by
    rw [pacedCount_modify r place hmode]
    exact hf.room

theorem remove (hf : r.Filed) (hr : r.remove text = .ok (place, r')) :
    ∃ h, r.handles[place]? = some h ∧ SessionKey.normalize text = .ok h.id ∧ r'.Filed ∧ r'.capacity = r.capacity ∧
      r'.registered = r.registered.filter (·.id ≠ h.id) := by
  obtain ⟨key, hn, hfind, rfl⟩ := remove_eq_ok hr
  obtain ⟨h, hh, hid⟩ := hf.entries _ (hf.find?_eq_some_iff.1 hfind)
  have hid : h.id = key := hid
  subst hid
  let r₁ : Registry := { r with entries := r.entries.filter (·.1 ≠ h.id) }
  have hagree (e : String × Nat) (he : e ∈ r.entries) (hne : e.1 ≠ h.id) :
      (r₁.modify place fun h ↦ { h with cancelled := true }).handles[e.2]? = r.handles[e.2]? := by
    refine modify_ne r₁ _ fun hp ↦ hne ?_
    obtain ⟨h', hh', hid'⟩ := hf.entries e he
    rw [← hp, hh] at hh'; cases hh'
    exact hid'.symm
  have hregistered : (r₁.modify place fun h ↦ { h with cancelled := true }).registered =
      r.registered.filter (·.id ≠ h.id) := registered_of_agree hf.entries hagree
  have hr₁ : r₁.registered = r.registered.filter (·.id ≠ h.id) :=
    registered_of_agree hf.entries fun _ _ _ ↦ rfl
  have hf₁ : r₁.Filed := {
    named := hf.named
    entries := fun e he ↦ hf.entries e (List.mem_filter.1 he).1
    nodup := (List.filter_sublist.map _).nodup hf.nodup
    room := by
      rw [pacedCount_eq, hr₁]
      refine Nat.le_trans ?_ hf.room
      rw [pacedCount_eq]
      exact (List.filter_sublist.map _).count_le _ }
  exact ⟨h, hh, hn, hf₁.modify place (fun _ ↦ rfl) (fun _ ↦ rfl) (fun _ ↦ rfl), rfl, hregistered⟩

theorem evict (hf : r.Filed) (hn : SessionKey.normalize key = .ok key) :
    (r.evict key).Filed ∧ (r.evict key).capacity = r.capacity ∧
      (r.evict key).registered = r.registered.filter (·.id ≠ key) := by
  unfold Registry.evict
  split
  next place r' hr =>
    obtain ⟨h, -, hn', hf', hc, hreg⟩ := hf.remove hr
    rw [hn] at hn'; cases hn'
    exact ⟨hf', hc, hreg⟩
  next e hr =>
    refine ⟨hf, rfl, (List.filter_eq_self.2 fun h hmem ↦ ?_).symm⟩
    rcases hf.lookup_cases key with ⟨e', hn', -⟩ | ⟨key', hn', hnone, -⟩ | ⟨h', place, r', -, -, -, -, hr'⟩
    · rw [hn] at hn'; cases hn'
    · rw [hn] at hn'; cases hn'
      simpa using hnone h hmem
    · rw [hr] at hr'; cases hr'

end Filed

def filed (r : Registry) (session : Session) (mode : Mode) (caller : Option Nat) : Registry :=
  { r with
    handles := r.handles ++ [⟨session.id, mode, session, false, caller, []⟩]
    entries := r.entries.filter (·.1 ≠ session.id) ++ [(session.id, r.handles.length)] }

theorem insert_filed (hn : SessionKey.normalize session.id = .ok session.id) (caller : Option Nat)
    (hroom : mode = .paced → r.pacedCount < r.capacity) :
    r.insert session mode caller = .ok (r.handles.length, r.filed session mode caller) := by
  have hnot : ¬ (mode = .paced ∧ r.capacity ≤ r.pacedCount) := fun hboth ↦
    absurd (hroom hboth.1) (Nat.not_lt.2 hboth.2)
  simp only [insert, hn, mapError_ok, bind, Except.bind, if_neg hnot]
  rfl

theorem insert_full (hn : SessionKey.normalize session.id = .ok session.id) (caller : Option Nat)
    (hfull : r.capacity ≤ r.pacedCount) : r.insert session .paced caller = .error (.capacityReached r.capacity) := by
  simp only [insert, hn, mapError_ok, bind, Except.bind, true_and, if_pos hfull]
  rfl

theorem insert_eq_filed {caller : Option Nat} (hn : SessionKey.normalize session.id = .ok session.id)
    (hi : r.insert session mode caller = .ok (place, r')) :
    place = r.handles.length ∧ r' = r.filed session mode caller ∧ (mode = .paced → r.pacedCount < r.capacity) := by
  obtain ⟨key, hn', hroom, rfl, rfl⟩ := insert_eq_ok hi
  rw [hn] at hn'; cases hn'
  exact ⟨rfl, rfl, hroom⟩

theorem Filed.registered_filed (hf : r.Filed) (session : Session) (mode : Mode) (caller : Option Nat) :
    (r.filed session mode caller).registered =
      r.registered.filter (·.id ≠ session.id) ++ [⟨session.id, mode, session, false, caller, []⟩] := by
  rw [filed, registered, List.filterMap_append]
  congr 1
  · refine registered_of_agree hf.entries fun e he _ ↦ ?_
    obtain ⟨h, hh, -⟩ := hf.entries e he
    rw [hh]
    exact Places.concat_of_some _ hh
  · simp

theorem Filed.filed (hf : r.Filed) (hn : SessionKey.normalize session.id = .ok session.id) (caller : Option Nat)
    (hroom : mode = .paced → r.pacedCount < r.capacity) : (r.filed session mode caller).Filed where
  named place h hh := by
    rcases Places.concat_eq_some hh with hh | ⟨-, rfl⟩
    · exact hf.named place h hh
    · exact ⟨hn, rfl⟩
  entries e he := by
    rcases List.mem_append.1 he with he | he
    · obtain ⟨h, hh, hid⟩ := hf.entries e (List.mem_filter.1 he).1
      exact ⟨h, Places.concat_of_some _ hh, hid⟩
    · rw [List.mem_singleton.1 he]
      have hnew : (r.filed session mode caller).handles[r.handles.length]? =
          some ⟨session.id, mode, session, false, caller, []⟩ := by simp [Registry.filed]
      exact ⟨_, hnew, rfl⟩
  nodup := by
    rw [Registry.filed, List.map_append, List.nodup_append]
    refine ⟨(List.filter_sublist.map _).nodup hf.nodup, by simp, ?_⟩
    intro a ha b hb
    obtain ⟨e, he, rfl⟩ := List.mem_map.1 ha
    have hne := (List.mem_filter.1 he).2
    simp at hne hb
    rw [hb]
    exact hne
  room := by
    have hle : ((r.registered.filter (·.id ≠ session.id)).map Handle.mode).count .paced ≤ r.pacedCount := by
      rw [pacedCount_eq]
      exact (List.filter_sublist.map _).count_le _
    rw [pacedCount_eq, hf.registered_filed, List.map_append, List.count_append]
    cases mode with
    | batch => exact Nat.le_trans hle hf.room
    | paced =>
      have hlt := hroom rfl
      have hone : (List.map Handle.mode [⟨session.id, .paced, session, false, caller, []⟩]).count Mode.paced = 1 := rfl
      rw [hone]
      exact Nat.lt_of_le_of_lt hle hlt

/-- The register has one session more, under its id; one that was registered under this id is not any more. -/
structure Adds (r₀ r : Registry) (h : Handle) : Prop where
  handle : r.handles[r₀.handles.length]? = some h
  others : ∀ place, place ≠ r₀.handles.length → r.handles[place]? = r₀.handles[place]?
  entries : r.entries = r₀.entries.filter (·.1 ≠ h.id) ++ [(h.id, r₀.handles.length)]

theorem adds_filed (r : Registry) (session : Session) (mode : Mode) (caller : Option Nat) :
    r.Adds (r.filed session mode caller) ⟨session.id, mode, session, false, caller, []⟩ where
  handle := by simp [filed]
  others place hne := by
    rw [filed]
    rcases Nat.lt_or_gt_of_ne hne with hlt | hgt
    · rw [List.getElem?_append_left hlt]
    · rw [List.getElem?_eq_none (by simp; omega), List.getElem?_eq_none (by omega)]
  entries := rfl

namespace Adds

variable {r₀ : Registry}

theorem modify (ha : r₀.Adds r h) {f : Handle → Handle} {h' : Handle} (hf : f h = h') (hid : h'.id = h.id) :
    r₀.Adds (r.modify r₀.handles.length f) h' where
  handle := hf ▸ modify_self f ha.handle
  others place hne := (modify_ne r f (Ne.symm hne)).trans (ha.others place hne)
  entries := by
    rw [hid]
    exact ha.entries

theorem lookup (ha : r₀.Adds r h) (hn : SessionKey.normalize h.id = .ok h.id) :
    r.lookup h.id = .ok r₀.handles.length := by
  have hfind : r.find? h.id = some r₀.handles.length := by
    rw [find?, ha.entries, List.find?_append, List.find?_eq_none.2 (by simp)]
    simp
  simp only [Registry.lookup, hn, mapError_ok, bind, Except.bind, hfind]
  rfl

theorem others_registered (ha : r₀.Adds r h) (hf : r₀.Filed) :
    ((r₀.entries.filter (·.1 ≠ h.id)).filterMap fun e ↦ r.handles[e.2]?) = r₀.registered.filter (·.id ≠ h.id) := by
  refine registered_of_agree hf.entries fun e he _ ↦ ha.others e.2 fun hplace ↦ ?_
  obtain ⟨h', hh', -⟩ := hf.entries e he
  rw [hplace] at hh'
  simp at hh'

theorem registered (ha : r₀.Adds r h) (hf : r₀.Filed) :
    r.registered = r₀.registered.filter (·.id ≠ h.id) ++ [h] := by
  rw [Registry.registered, ha.entries, List.filterMap_append, ha.others_registered hf]
  simp [ha.handle]

theorem remove (ha : r₀.Adds r h) (hf : r₀.Filed) (hn : SessionKey.normalize h.id = .ok h.id) :
    ∃ r', r.remove h.id = .ok (r₀.handles.length, r') ∧ r'.registered = r₀.registered.filter (·.id ≠ h.id) := by
  obtain ⟨key, hn', hfind⟩ := lookup_eq_ok (ha.lookup hn)
  rw [hn] at hn'; cases hn'
  have hentries : r.entries.filter (·.1 ≠ h.id) = r₀.entries.filter (·.1 ≠ h.id) := by
    rw [ha.entries, List.filter_append, List.filter_filter]
    simp
  refine ⟨{ r with entries := r.entries.filter (·.1 ≠ h.id) }.modify r₀.handles.length
    fun h ↦ { h with cancelled := true }, ?_, ?_⟩
  · simp only [Registry.remove, hn, mapError_ok, bind, Except.bind, hfind]
    rfl
  · rw [hentries]
    exact (ha.modify (f := fun h ↦ { h with cancelled := true }) rfl rfl).others_registered hf

theorem evict (ha : r₀.Adds r h) (hf : r₀.Filed) (hn : SessionKey.normalize h.id = .ok h.id) :
    (r.evict h.id).registered = r₀.registered.filter (·.id ≠ h.id) := by
  obtain ⟨r', hr, hreg⟩ := ha.remove hf hn
  rw [Registry.evict, hr]
  exact hreg

end Adds

end CodeRepair.Registry
