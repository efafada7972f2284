import CodeRepair.Toml.Reader
import Mathlib.Data.List.Nodup

/-!
The tree of a document that is being read. Members are only ever added after all others of their table, so reading is
described by which members are added to which table.
-/
namespace CodeRepair.Toml.Members

variable {f g : Origin → Members → Option Members} {origin : Origin} {ms ms' ms'' new more : Members}
  {path : List String} {key : String} {node node' : Node}

section Lookup

theorem find?_none_iff {α : Type} {ms : List (String × α)} : ms.find? (·.1 = key) = none ↔ key ∉ ms.map (·.1) := by
  rw [List.find?_eq_none, List.mem_map, not_exists]
  refine forall_congr' fun m ↦ ?_
  simp only [decide_eq_true_eq, not_and]

theorem get?_none_iff : ms.get? key = none ↔ key ∉ ms.map (·.1) := by
  rw [get?, Option.map_eq_none_iff, find?_none_iff]

theorem any_iff : ms.any (·.1 = key) = true ↔ key ∈ ms.map (·.1) := by
  simp

theorem get?_append_self (h : key ∉ ms.map (·.1)) : get? (ms ++ [(key, node)]) key = some node := by
  rw [get?, List.find?_append, find?_none_iff.2 h]
  simp

theorem set_new (h : key ∉ ms.map (·.1)) : ms.set key node = ms ++ [(key, node)] :=
  if_neg fun hany ↦ h (any_iff.1 hany)

theorem set_old (h : key ∈ ms.map (·.1)) : ms.set key node = ms.map fun m ↦ if m.1 = key then (key, node) else m :=
  if_pos (any_iff.2 h)

theorem map_of_not_mem (h : key ∉ ms.map (·.1)) : (ms.map fun m ↦ if m.1 = key then (key, node) else m) = ms := by
  have hsame (m : String × Node) (hm : m ∈ ms) : (if m.1 = key then (key, node) else m) = id m := by
    refine if_neg ?_
    rintro rfl
    exact h (List.mem_map_of_mem hm)
  rw [List.map_congr_left hsame, List.map_id]

theorem keys_set_old (h : key ∈ ms.map (·.1)) : key ∈ (ms.set key node).map (·.1) := by
  rw [set_old h]
  obtain ⟨m, hm, rfl⟩ := List.mem_map.1 h
  refine List.mem_map.2 ⟨_, List.mem_map_of_mem hm, ?_⟩
  simp

theorem get?_set (ms : Members) (key : String) (node : Node) : (ms.set key node).get? key = some node := by
  by_cases hkey : key ∈ ms.map (·.1)
  · rw [set_old hkey, get?, List.find?_map]
    have hsame : ((fun m : String × Node ↦ decide (m.1 = key)) ∘ fun m ↦ if m.1 = key then (key, node) else m) =
        fun m ↦ decide (m.1 = key) := by
      funext m
      by_cases hm : m.1 = key <;> simp [hm]
    rw [hsame]
    cases hfind : ms.find? (·.1 = key) with
    | none => exact absurd hkey (find?_none_iff.1 hfind)
    | some m =>
      have hm : m.1 = key := by simpa using List.find?_some hfind
      simp [hm]
  · rw [set_new hkey, get?_append_self hkey]

theorem set_set (ms : Members) (key : String) (node node' : Node) :
    (ms.set key node).set key node' = ms.set key node' := by
  by_cases hkey : key ∈ ms.map (·.1)
  · rw [set_old (keys_set_old hkey), set_old hkey, set_old hkey, List.map_map]
    refine List.map_congr_left fun m _ ↦ ?_
    by_cases hm : m.1 = key <;> simp [hm]
  · have hlast : key ∈ (ms ++ [(key, node)]).map (·.1) := by simp
    rw [set_new hkey, set_new hkey, set_old hlast, List.map_append, map_of_not_mem hkey]
    simp

end Lookup

section Update

/-- The table that a part of a path leads to, with what becomes of the member when it changes. -/
def enter? (ms : Members) (key : String) : Option (Origin × Members × (Members → Node)) :=
  match ms.get? key with
  | none => some (.header, [], .table .header)
  | some (.value _) => none
  | some (.table origin inner) => some (origin, inner, .table origin)
  | some (.tables items) => items.getLast?.map fun last ↦ (.named, last, fun ms ↦ .tables (items.dropLast ++ [ms]))

theorem update_cons (f : Origin → Members → Option Members) (origin : Origin) (ms : Members) (key : String)
    (path : List String) :
    update false f origin ms (key :: path) =
      (enter? ms key).bind fun (o, inner, close) ↦ (update false f o inner path).map fun m ↦ ms.set key (close m) := by
  rw [update, enter?]
  cases ms.get? key with
  | none =>
    simp only [Bool.false_eq_true, if_false, Option.bind_some]
    cases update false f .header [] path <;> rfl
  | some node =>
    cases node with
    | value v => rfl
    | table o inner =>
      simp only [Bool.false_eq_true, false_and, if_false, Option.bind_some]
      cases update false f o inner path <;> rfl
    | tables items =>
      dsimp only
      cases items.getLast? with
      | none => rfl
      | some last =>
        simp only [Option.bind_eq_bind, Option.bind_some, Option.map_some]
        cases update false f .named last path <;> rfl

theorem enter?_set {o : Origin} {inner : Members} {close : Members → Node} (h : enter? ms key = some (o, inner, close))
    (m : Members) : enter? (ms.set key (close m)) key = some (o, m, close) := by
  rw [enter?] at h
  rw [enter?, get?_set]
  cases hget : ms.get? key with
  | none =>
    rw [hget] at h
    cases h
    rfl
  | some node =>
    rw [hget] at h
    cases node with
    | value v => cases h
    | table o inner =>
      cases h
      rfl
    | tables items =>
      dsimp only at h
      cases hlast : items.getLast? with
      | none =>
        rw [hlast] at h
        cases h
      | some last =>
        rw [hlast] at h
        cases h
        simp

theorem update_mono (h : ∀ o ms ms', f o ms = some ms' → g o ms = some ms')
    (hf : update false f origin ms path = some ms') : update false g origin ms path = some ms' := by
  induction path generalizing origin ms ms' with
  | nil => exact h _ _ _ hf
  | cons key path ih =>
    rw [update_cons] at hf ⊢
    obtain ⟨⟨o, inner, close⟩, henter, hf⟩ := Option.bind_eq_some_iff.1 hf
    obtain ⟨m, hm, rfl⟩ := Option.map_eq_some_iff.1 hf
    simp only [henter, Option.bind_some, ih hm, Option.map_some]

theorem update_isSome (h : ∀ o ms ms', f o ms = some ms' → ∃ ms'', g o ms = some ms'')
    (hf : update false f origin ms path = some ms') : ∃ ms'', update false g origin ms path = some ms'' := by
  induction path generalizing origin ms ms' with
  | nil => exact h _ _ _ hf
  | cons key path ih =>
    rw [update_cons] at hf ⊢
    obtain ⟨⟨o, inner, close⟩, henter, hf⟩ := Option.bind_eq_some_iff.1 hf
    obtain ⟨m, hm, rfl⟩ := Option.map_eq_some_iff.1 hf
    obtain ⟨m', hm'⟩ := ih hm
    refine ⟨ms.set key (close m'), ?_⟩
    simp only [henter, Option.bind_some, hm', Option.map_some]

theorem update_update (hf : update false f origin ms path = some ms') :
    update false g origin ms' path = update false (fun o ms ↦ (f o ms).bind (g o)) origin ms path := by
  induction path generalizing origin ms ms' with
  | nil =>
    rw [update] at hf
    rw [update, update, hf, Option.bind_some]
  | cons key path ih =>
    rw [update_cons] at hf
    obtain ⟨⟨o, inner, close⟩, henter, hf⟩ := Option.bind_eq_some_iff.1 hf
    obtain ⟨m, hm, rfl⟩ := Option.map_eq_some_iff.1 hf
    rw [update_cons, update_cons]
    simp only [henter, enter?_set henter m, Option.bind_some, ih hm, set_set]

theorem update_append (f : Origin → Members → Option Members) (path : List String) (key : String) (origin : Origin)
    (ms : Members) :
    update false f origin ms (path ++ [key]) = update false (fun o ms ↦ update false f o ms [key]) origin ms path := by
  induction path generalizing origin ms with
  | nil => rfl
  | cons key' path ih =>
    rw [List.cons_append, update_cons, update_cons]
    simp only [ih]

end Update

section Adding

/-- Members added after all others, when no key is given twice; a table that a dotted key has made is left alone. -/
def grow (new : Members) (origin : Origin) (ms : Members) : Option Members :=
  if origin ≠ .dotted ∧ ((ms ++ new).map (·.1)).Nodup then some (ms ++ new) else none

/-- The tree with members added to the table under a path, which is made when there are any. -/
def Added (ms : Members) (path : List String) (new ms' : Members) : Prop :=
  match new with
  | [] => ms' = ms
  | _ => update false (grow new) .named ms path = some ms'

theorem grow_some (h : grow new origin ms = some ms') :
    origin ≠ .dotted ∧ ((ms ++ new).map (·.1)).Nodup ∧ ms' = ms ++ new := by
  unfold grow at h
  split at h
  next hgrow =>
    cases h
    exact ⟨hgrow.1, hgrow.2, rfl⟩
  · cases h

theorem grow_eq (ho : origin ≠ .dotted) (hkeys : ((ms ++ new).map (·.1)).Nodup) :
    grow new origin ms = some (ms ++ new) := if_pos ⟨ho, hkeys⟩

theorem nodup_left (h : ((ms ++ (new ++ more)).map (·.1)).Nodup) : ((ms ++ new).map (·.1)).Nodup := by
  rw [← List.append_assoc, List.map_append] at h
  exact h.of_append_left

theorem grow_grow (h : grow (new ++ more) origin ms = some ms') :
    ∃ ms₁, grow new origin ms = some ms₁ ∧ grow more origin ms₁ = some ms' := by
  obtain ⟨ho, hkeys, rfl⟩ := grow_some h
  refine ⟨ms ++ new, grow_eq ho (nodup_left hkeys), ?_⟩
  rw [← List.append_assoc] at hkeys ⊢
  exact grow_eq ho hkeys

theorem added_iff (hnew : new ≠ []) : Added ms path new ms' ↔ update false (grow new) .named ms path = some ms' := by
  cases new with
  | nil => exact absurd rfl hnew
  | cons m new => exact Iff.rfl

theorem Added.whole (h : (new.map (·.1)).Nodup) : Added [] [] new new := by
  cases new with
  | nil => rfl
  | cons m new => exact grow_eq (by decide) h

theorem Added.append (h : Added ms path (new ++ more) ms') :
    ∃ ms₁, Added ms path new ms₁ ∧ Added ms₁ path more ms' := by
  by_cases hnew : new = []
  · subst hnew
    exact ⟨ms, rfl, h⟩
  by_cases hmore : more = []
  · subst hmore
    rw [List.append_nil] at h
    exact ⟨ms', h, rfl⟩
  rw [added_iff (by simp [hnew])] at h
  obtain ⟨ms₁, hms₁⟩ := update_isSome (g := grow new) (fun o ms ms' hms ↦ by
    obtain ⟨ms₁, hms₁, -⟩ := grow_grow hms
    exact ⟨ms₁, hms₁⟩) h
  refine ⟨ms₁, (added_iff hnew).2 hms₁, (added_iff hmore).2 ?_⟩
  rw [update_update hms₁]
  refine update_mono (fun o ms ms' hms ↦ ?_) h
  obtain ⟨ms₁, hnew, hmore⟩ := grow_grow hms
  rw [hnew, Option.bind_some, hmore]

theorem key_fresh (h : ((ms ++ [(key, node)]).map (·.1)).Nodup) : key ∉ ms.map (·.1) := by
  rw [List.map_append] at h
  exact fun hkey ↦ List.disjoint_of_nodup_append h hkey (by simp)

/-- A table that has no header of its own comes about with its first member. -/
theorem Added.enter (h : Added ms path [(key, .table .header new)] ms') (hnew : new ≠ [])
    (hkeys : (new.map (·.1)).Nodup) : Added ms (path ++ [key]) new ms' := by
  rw [added_iff hnew, update_append]
  refine update_mono (fun o ms ms' hms ↦ ?_) h
  obtain ⟨-, hnodup, rfl⟩ := grow_some hms
  have hfresh := key_fresh hnodup
  have hgrow : grow new .header [] = some new := grow_eq (by decide) hkeys
  rw [update_cons, enter?, get?_none_iff.2 hfresh]
  simp only [Option.bind_some, update, hgrow, Option.map_some, set_new hfresh]

/-- A table with a header of its own is opened, and then its members are added. -/
theorem Added.open (h : Added ms path [(key, .table .named new)] ms') (hnew : new ≠ [])
    (hkeys : (new.map (·.1)).Nodup) :
    ∃ ms₁, openTable ms (path ++ [key]) = some ms₁ ∧ Added ms₁ (path ++ [key]) new ms' := by
  have hempty (o : Origin) (ms ms' : Members) (hms : grow [(key, .table .named new)] o ms = some ms') :
      grow [(key, .table .named [])] o ms = some (ms ++ [(key, .table .named [])]) := by
    obtain ⟨ho, hnodup, -⟩ := grow_some hms
    exact grow_eq ho (by simpa using hnodup)
  obtain ⟨ms₁, hms₁⟩ := update_isSome (fun o ms ms' hms ↦ ⟨_, hempty o ms ms' hms⟩) h
  refine ⟨ms₁, ?_, ?_⟩
  · rw [openTable, List.getLast?_concat, List.dropLast_concat]
    refine update_mono (fun o ms ms' hms ↦ ?_) hms₁
    obtain ⟨-, hnodup, rfl⟩ := grow_some hms
    rw [get?_none_iff.2 (key_fresh hnodup)]
  · rw [added_iff hnew, update_append, update_update hms₁]
    refine update_mono (fun o ms ms' hms ↦ ?_) h
    have hgrow : grow new .named [] = some new := grow_eq (by decide) hkeys
    obtain ⟨-, hnodup, rfl⟩ := grow_some hms
    have hfresh := key_fresh hnodup
    rw [hempty o ms _ hms, Option.bind_some, update_cons, enter?, get?_append_self hfresh]
    simp only [Option.bind_some, update, hgrow, Option.map_some]
    rw [← set_new hfresh, set_set, set_new hfresh]

theorem Added.addUnder {v : Value} (h : Added ms path [(key, .value v)] ms') : addUnder ms path [key] v = some ms' := by
  refine update_mono (fun o ms ms' hms ↦ ?_) h
  obtain ⟨ho, hnodup, rfl⟩ := grow_some hms
  have hfresh := get?_none_iff.2 (key_fresh hnodup)
  simp [addValue, update, ho, hfresh]

end Adding

end CodeRepair.Toml.Members
