/-!
Lists whose items are found by their place: what stands where after one was put at the end or changed.
-/
namespace CodeRepair.Places

variable {α : Type}

theorem concat_eq_some {xs : List α} {x y : α} {i : Nat} (h : (xs ++ [x])[i]? = some y) :
    xs[i]? = some y ∨ i = xs.length ∧ x = y := by
  rw [List.getElem?_append] at h
  split at h
  · exact .inl h
  · rw [List.getElem?_singleton] at h
    split at h
    · exact .inr ⟨by omega, Option.some.inj h⟩
    · cases h

theorem concat_of_some (x : α) {xs : List α} {y : α} {i : Nat} (h : xs[i]? = some y) :
    (xs ++ [x])[i]? = some y := by
  rw [List.getElem?_append_left (List.getElem?_eq_some_iff.1 h).1]
  exact h

theorem eq_none_of_length_eq {xs ys : List α} {i : Nat} (hl : xs.length = ys.length) (h : xs[i]? = none) :
    ys[i]? = none := by
  rw [List.getElem?_eq_none_iff] at h ⊢
  omega

theorem modify_concat (xs : List α) (x : α) (f : α → α) : (xs ++ [x]).modify xs.length f = xs ++ [f x] := by
  induction xs with
  | nil => rfl
  | cons y ys ih => simpa using ih

end CodeRepair.Places
