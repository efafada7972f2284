import CodeRepair.Proofs.Places
import CodeRepair.Session.Registry

/-!
What the operations of the register do to the sessions in it. A session stands at its place for ever; an operation
adds one at the next place, changes one, or cancels the token of one.
-/
namespace CodeRepair.Registry

variable {r r' : Registry} {place : Nat} {h h' : Handle} {id : String}

/-- The register without the session that an id spells, whose token is cancelled, if there is one. -/
def evict (r : Registry) (id : String) : Registry :=
  match r.remove id with
  | .ok (_, r') => r'
  | .error _ => r

/-- The session at a place is as it was, and its token may have been cancelled. -/
def KeepsAt (r r' : Registry) (place : Nat) : Prop :=
  r'.handles[place]? = r.handles[place]? ∨
    ∃ h, r.handles[place]? = some h ∧ r'.handles[place]? = some { h with cancelled := true }

theorem KeepsAt.trans {r'' : Registry} (hk : r.KeepsAt r' place) (hk' : r'.KeepsAt r'' place) :
    r.KeepsAt r'' place := by
  rcases hk' with he' | ⟨h', hh', he'⟩
  · rcases hk with he | ⟨h, hh, he⟩
    · exact .inl (he'.trans he)
    · exact .inr ⟨h, hh, he'.trans he⟩
  · rcases hk with he | ⟨h, hh, he⟩
    · exact .inr ⟨h', he ▸ hh', he'⟩
    · rw [hh'] at he; cases he
      exact .inr ⟨h, hh, he'⟩

theorem KeepsAt.of_some (hk : r.KeepsAt r' place) (hh : r.handles[place]? = some h) :
    r'.handles[place]? = some h ∨ r'.handles[place]? = some { h with cancelled := true } := by
  rcases hk with he | ⟨h', hh', he⟩
  · exact .inl (he.trans hh)
  · rw [hh] at hh'; cases hh'
    exact .inr he

theorem KeepsAt.session (hk : r.KeepsAt r' place) (hh : r.handles[place]? = some h)
    (hh' : r'.handles[place]? = some h') : h'.session = h.session := by
  rcases hk.of_some hh with he | he
  · rw [hh'] at he; cases he; rfl
  · rw [hh'] at he; cases he; rfl

theorem modify_modify (r : Registry) (place : Nat) (f g : Handle → Handle) :
    (r.modify place f).modify place g = r.modify place fun h ↦ g (f h) := by
  simp only [modify, List.modify_modify_eq]
  rfl

theorem modify_self (f : Handle → Handle) (hh : r.handles[place]? = some h) :
    (r.modify place f).handles[place]? = some (f h) := by
  simp [modify, hh]

theorem modify_ne (r : Registry) {place place' : Nat} (f : Handle → Handle) (hne : place ≠ place') :
    (r.modify place f).handles[place']? = r.handles[place']? := by
  simp [modify, List.getElem?_modify_ne _ _ hne]

theorem modify_of_fixed {f : Handle → Handle} (hh : r.handles[place]? = some h) (hf : f h = h) :
    r.modify place f = r := by
  have : r.handles.modify place f = r.handles := by
    refine List.ext_getElem? fun i ↦ ?_
    rw [List.getElem?_modify]
    by_cases hi : place = i
    · subst hi; simp [hh, hf]
    · simp [hi]
  simp [modify, this]

theorem keepsAt_cancel (r : Registry) (place q : Nat) (entries : List (String × Nat)) :
    r.KeepsAt ({ r with entries := entries }.modify place fun h ↦ { h with cancelled := true }) q := by
  by_cases hq : place = q
  · subst hq
    cases hh : r.handles[place]? with
    | none => exact .inl (by simp [modify, hh])
    | some h => exact .inr ⟨h, hh, by simp [modify, hh]⟩
  · exact .inl (modify_ne { r with entries := entries } _ hq)

theorem mapError_ok {ε ε' α : Type} (f : ε → ε') (a : α) : (Except.ok a).mapError f = .ok a := rfl

theorem mapError_eq_ok {ε ε' α : Type} {f : ε → ε'} {x : Except ε α} {a : α} (h : x.mapError f = .ok a) : x = .ok a := by
  cases x with
  | error => cases h
  | ok b =>
    cases h
    rfl

theorem bind_eq_ok {ε α β : Type} {x : Except ε α} {f : α → Except ε β} {b : β} (h : x >>= f = .ok b) :
    ∃ a, x = .ok a ∧ f a = .ok b := by
  cases x with
  | error => cases h
  | ok a => exact ⟨a, rfl, h⟩

theorem lookup_eq_ok (hl : r.lookup id = .ok place) :
    ∃ key, SessionKey.normalize id = .ok key ∧ r.find? key = some place := by
  unfold lookup at hl
  cases hn : SessionKey.normalize id with
  | error e => rw [hn] at hl; cases hl
  | ok key =>
    rw [hn] at hl
    simp only [mapError_ok, bind, Except.bind] at hl
    split at hl
    next q hf => cases hl; exact ⟨key, rfl, hf⟩
    · cases hl

theorem remove_eq_ok (hr : r.remove id = .ok (place, r')) :
    ∃ key, SessionKey.normalize id = .ok key ∧ r.find? key = some place ∧
      r' = { r with entries := r.entries.filter (·.1 ≠ key) }.modify place fun h ↦ { h with cancelled := true } := by
  unfold remove at hr
  cases hn : SessionKey.normalize id with
  | error e => rw [hn] at hr; cases hr
  | ok key =>
    rw [hn] at hr
    simp only [mapError_ok, bind, Except.bind] at hr
    split at hr
    next q hf => cases hr; exact ⟨key, rfl, hf, rfl⟩
    · cases hr

theorem remove_of_lookup (hl : r.lookup id = .ok place) :
    ∃ entries, r.remove id =
      .ok (place, { r with entries := entries }.modify place fun h ↦ { h with cancelled := true }) := by
  obtain ⟨key, hn, hf⟩ := lookup_eq_ok hl
  refine ⟨r.entries.filter (·.1 ≠ key), ?_⟩
  simp only [remove, hn, mapError_ok, bind, Except.bind, hf]
  rfl

theorem insert_eq_ok {session : Session} {mode : Mode} {caller : Option Nat}
    (hi : r.insert session mode caller = .ok (place, r')) :
    ∃ key, SessionKey.normalize session.id = .ok key ∧ (mode = .paced → r.pacedCount < r.capacity) ∧
      place = r.handles.length ∧
      r' = { r with
        handles := r.handles ++ [⟨session.id, mode, session, false, caller, []⟩]
        entries := r.entries.filter (·.1 ≠ key) ++ [(key, place)] } := by
  unfold insert at hi
  cases hn : SessionKey.normalize session.id with
  | error e => rw [hn] at hi; cases hi
  | ok key =>
    rw [hn] at hi
    simp only [mapError_ok, bind, Except.bind] at hi
    split at hi
    · cases hi
    next hc =>
      cases hi
      exact ⟨key, rfl, fun hm ↦ by simpa [hm] using hc, rfl, rfl⟩

theorem keepsAt_remove (hr : r.remove id = .ok (place, r')) (q : Nat) : r.KeepsAt r' q := by
  obtain ⟨key, -, -, rfl⟩ := remove_eq_ok hr
  exact keepsAt_cancel r place q _

theorem keepsAt_evict (r : Registry) (id : String) (q : Nat) : r.KeepsAt (r.evict id) q := by
  unfold evict
  split
  next place r' hr => exact keepsAt_remove hr q
  · exact .inl rfl

end CodeRepair.Registry
