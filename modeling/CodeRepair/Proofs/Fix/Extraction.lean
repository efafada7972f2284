import CodeRepair.Proofs.Fix.Decoding

/-!
Which object is taken out of a reply: the one that the first brace opens, and no other. A brace that nothing closes
before the object hides it.
-/
namespace CodeRepair.Reply

open Json Json.Access Json.Cursor Text Schema

variable {content front object rest before after tail : List Char} {c c' : Cursor} {x : Char}

section Objects

/-- The object opened by the first brace that opens one, with what comes before it. -/
def firstBalanced? : List Char → Option (List Char × List Char)
  | [] => none
  | x :: cs =>
    match if x = '\x7b' then balancedObject (x :: cs) else none with
    | some object => some ([], object)
    | none => (firstBalanced? cs).map fun (front, object) ↦ (x :: front, object)

theorem balancedFrom_closes {s : Scan} (h : balancedFrom s content = some object) : ∃ inner, object = inner ++ ['\x7d'] := by
  induction content generalizing s object with
  | nil => cases h
  | cons x cs ih =>
    obtain ⟨s', -, h⟩ := Option.bind_eq_some_iff.1 h
    split at h
    next hclose =>
      cases h
      exact ⟨[], by simp [hclose.1]⟩
    · obtain ⟨more, hmore, rfl⟩ := Option.map_eq_some_iff.1 h
      obtain ⟨inner, rfl⟩ := ih hmore
      exact ⟨x :: inner, rfl⟩

theorem balancedObject_eq_some (h : balancedObject ('\x7b' :: tail) = some object) :
    object <+: '\x7b' :: tail ∧ ∃ inner, object = '\x7b' :: (inner ++ ['\x7d']) := by
  refine ⟨balancedFrom_front h, ?_⟩
  rw [balancedObject, balancedFrom] at h
  obtain ⟨s', -, h⟩ := Option.bind_eq_some_iff.1 h
  rw [if_neg fun hclose ↦ by cases hclose.1] at h
  obtain ⟨more, hmore, rfl⟩ := Option.map_eq_some_iff.1 h
  obtain ⟨inner, rfl⟩ := balancedFrom_closes hmore
  exact ⟨inner, rfl⟩

theorem trim_object (inner : List Char) : trim ('\x7b' :: (inner ++ ['\x7d'])) = '\x7b' :: (inner ++ ['\x7d']) :=
  trim_between (by decide) (by decide) [] inner []

theorem firstBalanced?_eq_some (h : firstBalanced? content = some (front, object)) :
    (∃ inner rest, object = '\x7b' :: (inner ++ ['\x7d']) ∧ content = front ++ (object ++ rest) ∧
      balancedObject (object ++ rest) = some object) ∧
    ∀ before after, front = before ++ '\x7b' :: after → ∀ rest, content = front ++ rest →
      balancedObject ('\x7b' :: (after ++ rest)) = none := by
  induction content generalizing front with
  | nil => cases h
  | cons x cs ih =>
    rw [firstBalanced?] at h
    split at h
    next found hfound =>
      cases h
      split at hfound
      next hx =>
        subst hx
        obtain ⟨⟨rest, hrest⟩, inner, rfl⟩ := balancedObject_eq_some hfound
        refine ⟨⟨inner, rest, rfl, hrest.symm, hrest ▸ hfound⟩, fun before after hfront ↦ ?_⟩
        cases before <;> cases hfront
      · cases hfound
    next hnone =>
      obtain ⟨⟨front', object'⟩, hmore, hpair⟩ := Option.map_eq_some_iff.1 h
      cases hpair
      obtain ⟨⟨inner, rest, rfl, hcs, hobject⟩, hearlier⟩ := ih hmore
      refine ⟨⟨inner, rest, rfl, congrArg (x :: ·) hcs, hobject⟩, fun before after hfront rest' hrest' ↦ ?_⟩
      cases before with
      | nil =>
        cases hfront
        cases hrest'
        rwa [if_pos rfl] at hnone
      | cons y before =>
        cases hfront
        cases hrest'
        exact hearlier before after rfl rest' rfl

/-- The first balanced object is tried when no brace comes before it, and else only when a fence holds nothing but it. -/
theorem mem_candidates_firstBalanced (h : firstBalanced? content = some (front, object)) :
    object ∈ candidates content ↔ '\x7b' ∉ front ∨ (stripFences content).map trim = some object := by
  obtain ⟨⟨inner, rest, rfl, hcontent, hbalanced⟩, hearlier⟩ := firstBalanced?_eq_some h
  have htext : content = front ++ '\x7b' :: (inner ++ '\x7d' :: rest) := by simp [hcontent]
  rw [mem_candidates, and_iff_right (List.cons_ne_nil _ _)]
  by_cases hbrace : '\x7b' ∈ front
  · obtain ⟨before, after, rfl, hbefore⟩ := List.eq_append_cons_of_mem hbrace
    have hobject : object? content = none := by
      rw [hcontent, List.append_assoc]
      exact (object?_brace hbefore _).trans (hearlier before after rfl _ hcontent)
    have hwhole : trim content ≠ '\x7b' :: (inner ++ ['\x7d']) := by
      have htrim : trim content = trimStart (before ++ '\x7b' :: after) ++ '\x7b' :: (inner ++ '\x7d' :: trimEnd rest) := by
        rw [htext]
        exact trim_between (by decide) (by decide) _ inner rest
      rw [trimStart_append before (by decide)] at htrim
      intro heq
      have hlength := congrArg List.length (heq.symm.trans htrim)
      simp only [List.length_append, List.length_cons, List.length_nil] at hlength
      omega
    rw [hobject, or_iff_right hwhole]
    simp [hbrace]
  · have hobject : object? content = some ('\x7b' :: (inner ++ ['\x7d'])) := by
      rw [hcontent]
      exact (object?_brace hbrace _).trans hbalanced
    rw [hobject, Option.map_some, trim_object]
    exact iff_of_true (.inr (.inr rfl)) (.inl hbrace)

end Objects

section Bare

/-- The first opening brace still ahead, with `tail` after it and no quote before it. -/
def Bare (tail : List Char) (c : Cursor) : Prop :=
  ∃ front, c.rest = front ++ '\x7b' :: tail ∧ '\x7b' ∉ front ∧ '"' ∉ front

theorem Bare.skims (h : Bare tail c) (hs : c.Skims c') : Bare tail c' := by
  obtain ⟨front, hfront, hbrace, hquote⟩ := h
  obtain ⟨passed, hpassed, hnone⟩ := hs
  rcases List.append_eq_append_iff.1 (hpassed.symm.trans hfront) with ⟨left, rfl, hrest⟩ | ⟨extra, rfl, hextra⟩
  · exact ⟨left, hrest, fun hleft ↦ hbrace (by simp [hleft]), fun hleft ↦ hquote (by simp [hleft])⟩
  · cases extra with
    | nil => exact ⟨[], hextra.symm, by simp, by simp⟩
    | cons y extra =>
      cases hextra
      exact absurd (by simp) hnone

theorem Bare.peek?_ne (h : Bare tail c) : c.peek? ≠ some '"' := by
  obtain ⟨front, hfront, -, hquote⟩ := h
  rw [peek?, hfront]
  cases front with
  | nil => rintro ⟨⟩
  | cons y front =>
    rintro ⟨⟩
    exact hquote List.mem_cons_self

theorem Bare.rest_eq (h : Bare tail c) (hpeek : c.peek? = some '\x7b') : c.rest = '\x7b' :: tail := by
  obtain ⟨front, hfront, hbrace, -⟩ := h
  rw [peek?, hfront] at hpeek
  cases front with
  | nil => exact hfront
  | cons y front =>
    cases hpeek
    exact absurd List.mem_cons_self hbrace

theorem readString_bare {α : Type} {expected : String} {check : String → Except Mismatch α} (h : Bare tail c)
    (r : α × Cursor) : readString expected check c ≠ .ok r := by
  intro hread
  obtain ⟨⟨x, c₁⟩, hvalue, hread⟩ := Registry.bind_eq_ok hread
  obtain ⟨hskims, hpeek⟩ := atValue_skims hvalue
  dsimp only at hread
  split at hread
  next hx => exact (h.skims hskims).peek?_ne (hx ▸ hpeek)
  · exact wrongType_error _ _ _ _ hread

theorem optional_bare {depth : Nat} {d : Datum} (h : Bare tail c)
    (hread : (Shape.optional .text).reader depth c = .ok (d, c')) : Bare tail c' := by
  have hspace := h.skims (skipSpace_skims c)
  rw [Shape.reader] at hread
  dsimp only at hread
  split at hread
  next hpeek =>
    obtain ⟨c₁, hword, hread⟩ := Registry.bind_eq_ok hread
    cases hread
    exact (hspace.skims (advance_skims_of hpeek (by decide))).skims (word_skims (by decide) hword)
  · obtain ⟨r, htext, -⟩ := Registry.bind_eq_ok hread
    exact absurd htext (readString_bare hspace r)

theorem readPositional_string {expected : String} {rule : FieldRule} {depth index : Nat} {first : Bool}
    {fields : List (FieldRule × Reader)} (hrule : rule.absent = none) (h : Bare tail c) (r : List Datum × Cursor) :
    readPositional expected first index c ((rule, Shape.text.reader depth) :: fields) ≠ .ok r := by
  intro hread
  obtain ⟨next, hitem, hread⟩ := Registry.bind_eq_ok hread
  cases next with
  | none =>
    rw [hrule] at hread
    cases hread
  | some c₁ =>
    obtain ⟨r', htext, -⟩ := Registry.bind_eq_ok hread
    exact readString_bare (h.skims (item?_skims hitem)) r' (Registry.mapError_eq_ok htext)

theorem readPositional_bare {expected : String} {depth : Nat} (h : Bare tail c) (r : List Datum × Cursor) :
    readPositional expected true 0 c ((answerFields.readers depth).map (·.2)) ≠ .ok r := by
  intro hread
  obtain ⟨next, hitem, hread⟩ := Registry.bind_eq_ok hread
  cases next with
  | none =>
    obtain ⟨r', hcode, -⟩ := Registry.bind_eq_ok hread
    exact readPositional_string rfl h r' hcode
  | some c₁ =>
    obtain ⟨⟨d, c₂⟩, hexplanation, hread⟩ := Registry.bind_eq_ok hread
    obtain ⟨r', hcode, -⟩ := Registry.bind_eq_ok hread
    have hbare := optional_bare (h.skims (item?_skims hitem)) (Registry.mapError_eq_ok hexplanation)
    exact readPositional_string rfl hbare r' hcode

theorem key?_bare (h : c.rest = after ++ '\x7b' :: rest) (hquote : '"' ∉ after) (hclose : '\x7d' ∉ after)
    (r : Option (String × Cursor)) : key? true c ≠ .ok r := by
  have hhead : ∀ y, c.skipSpace.peek? = some y → y ∈ after ∨ y = '\x7b' := by
    intro y hpeek
    rw [peek?, rest_skipSpace, h, List.dropWhile_append] at hpeek
    split at hpeek
    · cases hpeek
      exact .inr rfl
    next hne =>
      cases hafter : after.dropWhile isSpace with
      | nil => exact absurd (by rw [hafter]; rfl) hne
      | cons z zs =>
        rw [hafter] at hpeek
        cases hpeek
        exact .inl ((List.dropWhile_suffix isSpace).subset (hafter ▸ List.mem_cons_self))
  intro hkey
  rw [key?] at hkey
  dsimp only at hkey
  split at hkey
  · cases hkey
  next y hpeek =>
    have hy := hhead y hpeek
    rw [if_neg (by rintro rfl; exact hy.elim hclose (by decide)), if_pos rfl,
      if_neg (by rintro rfl; exact hy.elim hquote (by decide))] at hkey
    cases hkey

theorem parse_bare (hbrace : '\x7b' ∈ front) (hquote : '"' ∉ front) (hclose : '\x7d' ∉ front) (rest : List Char)
    (raw : Raw) : Schema.parse Raw (String.ofList (front ++ '\x7b' :: rest)) ≠ .ok raw := by
  obtain ⟨before, after, rfl, hbefore⟩ := List.eq_append_cons_of_mem hbrace
  intro hparse
  obtain ⟨d, hd, -⟩ := Registry.bind_eq_ok hparse
  obtain ⟨⟨d', c'⟩, hread, -⟩ := Registry.bind_eq_ok hd
  rw [String.toList_ofList, shape_raw, Shape.reader, readRecord] at hread
  obtain ⟨⟨x, c₁⟩, hvalue, hread⟩ := Registry.bind_eq_ok hread
  obtain ⟨hskims, hpeek⟩ := atValue_skims hvalue
  have hbare : Bare (after ++ '\x7b' :: rest) (Cursor.ofChars (before ++ '\x7b' :: after ++ '\x7b' :: rest)) :=
    ⟨before, List.append_assoc _ _ _, hbefore, fun h ↦ hquote (by simp [h])⟩
  have hbare₁ := hbare.skims hskims
  dsimp only at hread
  split at hread
  next hx =>
    obtain ⟨r, hitems, -⟩ := Registry.bind_eq_ok hread
    exact readPositional_bare (hbare₁.skims (advance_skims_of hpeek (by rw [hx]; decide))) r hitems
  split at hread
  next hx =>
    subst hx
    obtain ⟨r, hmembers, -⟩ := Registry.bind_eq_ok hread
    have hrest := hbare₁.rest_eq hpeek
    have hfuel : c₁.rest.length = (after ++ '\x7b' :: rest).length + 1 := congrArg List.length hrest
    rw [hfuel, Schema.readMembers] at hmembers
    obtain ⟨next, hkey, -⟩ := Registry.bind_eq_ok hmembers
    exact key?_bare (rest_advance hrest) (fun h ↦ hquote (by simp [h])) (fun h ↦ hclose (by simp [h])) next hkey
  · exact wrongType_error _ _ _ _ hread

end Bare

section Chatter

/-- No piece of a reply is read when a brace that nothing closes comes before the object. -/
theorem candidates_bare (hbrace : '\x7b' ∈ front) (hquote : '"' ∉ front) (hclose : '\x7d' ∉ front)
    (hmark : Char.ofNat 0x60 ∉ front) (rest : List Char) :
    ∀ piece ∈ candidates (front ++ '\x7b' :: rest), ∀ raw, Schema.parse Raw (String.ofList piece) ≠ .ok raw := by
  obtain ⟨before, after, rfl, hbefore⟩ := List.eq_append_cons_of_mem hbrace
  have hopen : isBlank '\x7b' = false := by decide
  have htrim : trim (before ++ '\x7b' :: after ++ '\x7b' :: rest) =
      trimStart before ++ '\x7b' :: after ++ '\x7b' :: trimEnd rest := by
    have hend := trimEnd_append (trimStart before ++ '\x7b' :: after) hopen rest
    rw [trim, List.append_assoc, List.cons_append, trimStart_append before hopen, ← hend]
    simp
  have hsub {y : Char} (hy : y ∉ before ++ '\x7b' :: after) : y ∉ trimStart before ++ '\x7b' :: after := fun h ↦ by
    refine hy ((List.mem_append.1 h).elim (fun h ↦ ?_) fun h ↦ ?_)
    · exact List.mem_append_left _ ((trimStart_suffix before).subset h)
    · exact List.mem_append_right _ h
  intro piece hpiece raw
  obtain ⟨-, rfl | hinside | hobject⟩ := (mem_candidates _ _).1 hpiece
  · rw [htrim]
    exact parse_bare (by simp) (hsub hquote) (hsub hclose) _ raw
  · rw [stripFences_brace hmark] at hinside
    cases hinside
  · rw [List.append_assoc] at hobject
    obtain ⟨object, hopened, rfl⟩ := Option.map_eq_some_iff.1 hobject
    have hbalanced := (object?_brace hbefore _).symm.trans hopened
    obtain ⟨hbegins, inner, hinner⟩ := balancedObject_eq_some hbalanced
    have hlast : ¬ object <+: '\x7b' :: after := fun h ↦ by
      refine hclose (List.mem_append_right _ (h.subset ?_))
      simp [hinner]
    rcases List.prefix_or_prefix_of_prefix hbegins (List.prefix_append ('\x7b' :: after) ('\x7b' :: rest)) with
      hshort | ⟨more, rfl⟩
    · exact absurd hshort hlast
    · have hmore : more <+: '\x7b' :: rest := (List.prefix_append_right_inj ('\x7b' :: after)).1 hbegins
      cases more with
      | nil => exact absurd (by simp) hlast
      | cons y more =>
        cases (List.cons_prefix_cons.1 hmore).1
        rw [hinner, trim_object, ← hinner]
        exact parse_bare (by simp) (fun h ↦ hquote (List.mem_append_right _ h))
          (fun h ↦ hclose (List.mem_append_right _ h)) _ raw

/-- The first balanced object of a reply is tried when no brace comes before it, and otherwise only when a fence holds
it. So a brace that nothing closes hides every object after it. -/
theorem first_object_tried (provider content : String) :
    (∀ front object, firstBalanced? content.toList = some (front, object) →
      (object ∈ candidates content.toList ↔ '\x7b' ∉ front ∨ (stripFences content.toList).map trim = some object)) ∧
    ∀ before rest : String, '\x7b' ∈ before.toList → '"' ∉ before.toList → '\x7d' ∉ before.toList →
      Char.ofNat 0x60 ∉ before.toList → content = before ++ "\x7b" ++ rest →
      (parse provider content).fixedCode = "" ∧ (parse provider content).confidence = none := by
  refine ⟨fun front object h ↦ mem_candidates_firstBalanced h, ?_⟩
  rintro before rest hbrace hquote hclose hmark rfl
  have htext : (before ++ "\x7b" ++ rest).toList = before.toList ++ '\x7b' :: rest.toList := by
    simp [String.toList_append]
  have hnone := candidates_bare hbrace hquote hclose hmark rest.toList
  rw [← htext] at hnone
  rcases parse_unread provider hnone with ⟨-, hparse⟩ | ⟨-, _, _, -, -, hparse⟩
  all_goals
    rw [hparse]
    exact ⟨rfl, rfl⟩

theorem first_object_tried_block :
    "\x7b\"fixed_code\": \"x\"\x7d".toList ∉ candidates "use \x7b to open a block: \x7b\"fixed_code\": \"x\"\x7d".toList ∧
    (parse "local" "use \x7b to open a block: \x7b\"fixed_code\": \"x\"\x7d").fixedCode = "" := by
  obtain ⟨hmem, hlost⟩ := first_object_tried "local" "use \x7b to open a block: \x7b\"fixed_code\": \"x\"\x7d"
  have hfirst : firstBalanced? "use \x7b to open a block: \x7b\"fixed_code\": \"x\"\x7d".toList =
      some ("use \x7b to open a block: ".toList, "\x7b\"fixed_code\": \"x\"\x7d".toList) := by decide +kernel
  refine ⟨fun h ↦ ?_, (hlost "use \x7b to open a block: " "\"fixed_code\": \"x\"\x7d" (by decide) (by decide) (by decide)
    (by decide) (by decide)).1⟩
  rcases (hmem _ _ hfirst).1 h with hbrace | hfence
  · exact hbrace (by decide)
  · exact absurd hfence (by decide)

end Chatter

end CodeRepair.Reply
