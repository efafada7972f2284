import CodeRepair.Proofs.Json.Placed
import CodeRepair.Proofs.Schema.Readers

/-!
What comes of reading along a shape: a datum of that shape, or a failure with its place in the text.
-/
namespace CodeRepair.Schema

open Json Json.Access Json.Cursor

mutual

/-- A datum of a shape, where the default of a field counts as one of the field. -/
inductive Shape.Has : Shape → Datum → Prop
  | bool (b : Bool) : Shape.Has .bool (.bool b)
  | text (s : String) : Shape.Has .text (.text s)
  | path (s : String) : Shape.Has .path (.text s)
  | integer {range : IntRange} {n : Int} (h : range.low ≤ n ∧ n ≤ range.high) : Shape.Has (.integer range) (.int n)
  | real (x : Float) : Shape.Has .real (.real x)
  | single (x : Float32) : Shape.Has .single (.single x)
  | time (t : Time.Stamp) : Shape.Has .time (.time t)
  | absent (of : Shape) : Shape.Has (.optional of) .none
  | present {of : Shape} {d : Datum} (h : Shape.Has of d) : Shape.Has (.optional of) (.some d)
  | list {of : Shape} {ds : List Datum} (h : ∀ d ∈ ds, Shape.Has of d) : Shape.Has (.list of) (.list ds)
  | choice {options : List String} {i : Nat} (h : i < options.length) : Shape.Has (.choice options) (.choice i)
  | tagged {name : String} {variants : List (String × Bool)} {i : Nat} {detail : Option String} (hlt : i < variants.length)
      (hdetail : (variants.getD i ("", false)).2 = detail.isSome) : Shape.Has (.tagged name variants) (.tagged i detail)
  | record {name : String} {fields : Fields} {ds : List Datum} (h : Fields.Has fields ds) :
      Shape.Has (.record name fields) (.record ds)

inductive Fields.Has : Fields → List Datum → Prop
  | nil : Fields.Has .nil []
  | cons {name : String} {rule : FieldRule} {shape : Shape} {rest : Fields} {d : Datum} {ds : List Datum}
      (h : Shape.Has shape d) (hrest : Fields.Has rest ds) : Fields.Has (.cons name rule shape rest) (d :: ds)
  | default {name : String} {rule : FieldRule} {shape : Shape} {rest : Fields} {d : Datum} {ds : List Datum}
      (h : rule.absent = some d) (hrest : Fields.Has rest ds) : Fields.Has (.cons name rule shape rest) (d :: ds)

end

/-- A reader of what has a property. -/
def Keeps {α : Type} (P : α → Prop) (read : Cursor → Except Fault (α × Cursor)) : Prop :=
  ∀ c, Gives (fun r ↦ P r.1) (read c)

section Single

variable {α : Type} {P : α → Prop} {expected : String}

theorem wrongType_gives (x : Char) (c : Cursor) : Gives P (wrongType x c expected) := by
  unfold wrongType
  split
  · exact (word_placed _ _).bind fun _ ↦ gives_error _ _ _
  split
  · exact (word_placed _ _).bind fun _ ↦ gives_error _ _ _
  split
  · exact (word_placed _ _).bind fun _ ↦ gives_error _ _ _
  split
  · exact (Lexeme.number_placed _ _).bind fun _ ↦ gives_error _ _ _
  split
  · exact (Lexeme.number_placed _ _).bind fun _ ↦ gives_error _ _ _
  split
  · exact (Lexeme.string_placed _).bind fun _ ↦ gives_error _ _ _
  split
  · exact gives_error _ _ _
  split
  · exact gives_error _ _ _
  · exact gives_failNext _ _

theorem checked_gives {result : Except Mismatch α} (h : ∀ a, result = .ok a → P a) (c : Cursor) :
    Gives (fun r ↦ P r.1) (checked c result) := by
  cases result with
  | ok a => exact h a rfl
  | error m => exact gives_error _ _ _

theorem readString_keeps {check : String → Except Mismatch α} (h : ∀ s a, check s = .ok a → P a) :
    Keeps P (readString expected check) := by
  intro c
  refine (atValue_placed c).bind fun r ↦ ?_
  obtain ⟨x, c⟩ := r
  dsimp only
  split
  · exact (Lexeme.string_placed _).bind fun r ↦ checked_gives (h r.1) r.2
  · exact wrongType_gives _ _

theorem readNumber_keeps {P : Datum → Prop} {check : Json.Number → Except Mismatch Datum}
    (h : ∀ n d, check n = .ok d → P d) : Keeps P (readNumber expected check) := by
  intro c
  refine (atValue_placed c).bind fun r ↦ ?_
  obtain ⟨x, c⟩ := r
  dsimp only
  split
  · exact (Lexeme.number_placed _ _).bind fun r ↦ checked_gives (h r.1) r.2
  split
  · exact (Lexeme.number_placed _ _).bind fun r ↦ checked_gives (h r.1) r.2
  · exact wrongType_gives _ _

theorem readBool_keeps : Keeps Shape.bool.Has readBool := by
  intro c
  refine (atValue_placed c).bind fun r ↦ ?_
  obtain ⟨x, c⟩ := r
  dsimp only
  split
  · exact (word_placed _ _).bind fun _ ↦ gives_ok (.bool true)
  split
  · exact (word_placed _ _).bind fun _ ↦ gives_ok (.bool false)
  · exact wrongType_gives _ _

theorem readNull_placed (c : Cursor) : Placed (readNull expected c) := by
  refine (atValue_placed c).bind fun r ↦ ?_
  obtain ⟨x, c⟩ := r
  dsimp only
  split
  · exact word_placed _ _
  · exact wrongType_gives _ _

theorem readName_keeps {check : String → Except Mismatch α} (h : ∀ s a, check s = .ok a → P a) :
    Keeps P (readName check) := by
  intro c
  refine (atValue_placed c).bind fun r ↦ ?_
  obtain ⟨x, c⟩ := r
  dsimp only
  split
  · exact (Lexeme.string_placed _).bind fun r ↦ checked_gives (h r.1) r.2
  split
  · split
    · refine (Lexeme.string_placed _).bind fun r ↦ (checked_gives (h r.1) r.2).bind fun a ha ↦ ?_
      refine (colon_placed _).bind fun _ ↦ (readNull_placed _).bind fun _ ↦ ?_
      split
      · exact gives_ok ha
      · exact gives_fail _ _
      · exact gives_fail _ _
    · exact gives_failNext _ _
    · exact gives_failNext _ _
    · exact gives_failNext _ _
  · exact gives_failNext _ _

theorem optional_keeps {of : Shape} {depth : Nat} (h : Keeps of.Has (of.reader depth)) :
    Keeps (Shape.optional of).Has ((Shape.optional of).reader depth) := by
  intro c
  rw [Shape.reader]
  dsimp only
  split
  · exact (word_placed _ _).bind fun _ ↦ gives_ok (.absent of)
  · exact (h _).bind fun r hr ↦ gives_ok (.present hr)

end Single

section Lists

variable {P : Datum → Prop} {read : Reader} {expected : String}

theorem readItems_gives (h : Keeps P read) {first : Bool} {done : List Datum} (hdone : ∀ d ∈ done, P d) (c : Cursor)
    (fuel : Nat) : Gives (fun r ↦ ∀ d ∈ r.1, P d) (readItems read first done c fuel) := by
  have hreverse (done : List Datum) (hdone : ∀ d ∈ done, P d) : ∀ d ∈ done.reverse, P d :=
    fun d hd ↦ hdone d (List.mem_reverse.1 hd)
  induction fuel generalizing first done c with
  | zero => exact hreverse done hdone
  | succ fuel ih =>
    refine (item?_placed first c).bind fun next ↦ ?_
    cases next with
    | none => exact gives_ok (hreverse done hdone)
    | some c =>
      refine ((h c).inside _).bind fun r hr ↦ ih (fun d hd ↦ ?_) _
      rcases List.mem_cons.1 hd with rfl | hd
      · exact hr
      · exact hdone d hd

theorem readList_keeps {of : Shape} (h : Keeps of.Has read) : Keeps (Shape.list of).Has (readList read expected) := by
  intro c
  refine (atValue_placed c).bind fun r ↦ ?_
  obtain ⟨x, c⟩ := r
  dsimp only
  split
  · refine (readItems_gives h (by simp) _ _).bind fun r hr ↦ ?_
    exact (closed_array_placed _).bind fun _ ↦ gives_ok (.list hr)
  · exact wrongType_gives _ _

end Lists

section Records

def Fields.law : Fields → Nat → Datum → Prop
  | .nil, _, _ => True
  | .cons _ _ shape _, 0, d => shape.Has d
  | .cons _ _ _ rest, i + 1, d => rest.law i d

variable {law : Nat → Datum → Prop} {readers : List (String × Reader)}

theorem find?_findIdx? {key : String} {i : Nat} {r : String × Reader} (hindex : readers.findIdx? (·.1 = key) = some i)
    (hfind : readers.find? (·.1 = key) = some r) : readers[i]? = some r := by
  induction readers generalizing i with
  | nil => cases hfind
  | cons r' readers ih =>
    rw [List.findIdx?_cons] at hindex
    rw [List.find?_cons] at hfind
    split at hfind
    next hkey =>
      rw [if_pos hkey] at hindex
      cases hindex
      exact hfind
    next hkey =>
      rw [if_neg (by simp [hkey])] at hindex
      obtain ⟨j, hj, rfl⟩ := Option.map_eq_some_iff.1 hindex
      exact ih hj hfind

theorem readMembers_gives (hread : ∀ i r, readers[i]? = some r → Keeps (law i) r.2) {slots : List (Option Datum)}
    (hslots : ∀ i d, slots[i]? = some (some d) → law i d) (first : Bool) (c : Cursor) (fuel : Nat) :
    Gives (fun r ↦ ∀ i d, r.1[i]? = some (some d) → law i d) (readMembers readers first slots c fuel) := by
  induction fuel generalizing first slots c with
  | zero => exact hslots
  | succ fuel ih =>
    rw [readMembers]
    refine (key?_placed first c).bind fun next ↦ ?_
    cases next with
    | none => exact gives_ok hslots
    | some member =>
      obtain ⟨key, c⟩ := member
      dsimp only
      split
      next i name read hindex hfind =>
        have hkeeps := hread i _ (find?_findIdx? hindex hfind)
        split
        · exact gives_failClosing _ _ _
        · refine (((colon_placed c).bind hkeeps).inside _).bind fun r hr ↦ ih (fun j d hj ↦ ?_) _ _
          rw [List.getElem?_set] at hj
          split at hj
          next hij =>
            split at hj
            · cases hj
              exact hij ▸ hr
            · cases hj
          · exact hslots j d hj
      · exact (((colon_placed c).bind skip_placed).inside _).bind fun _ _ ↦ ih hslots _ _

theorem Fields.complete_has : (fields : Fields) → (slots : List (Option Datum)) →
    (∀ i d, slots[i]? = some (some d) → fields.law i d) → (ds : List Datum) → fields.complete slots = .ok ds →
    fields.Has ds
  | .nil, _, _, _, h => by
    cases h
    exact .nil
  | .cons name rule shape rest, slots, hslots, ds, h => by
    rw [Fields.complete] at h
    have hmore {ds' : List Datum} (hrest : rest.complete slots.tail = .ok ds') : rest.Has ds' :=
      Fields.complete_has rest slots.tail (fun i d hi ↦ hslots (i + 1) d (by simpa using hi)) ds' hrest
    split at h
    next d hhead =>
      obtain ⟨_, hd, h⟩ := Registry.bind_eq_ok h
      obtain ⟨ds', hrest, h⟩ := Registry.bind_eq_ok h
      cases hd
      cases h
      refine .cons (hslots 0 d ?_) (hmore hrest)
      rwa [List.head?_eq_getElem?] at hhead
    · obtain ⟨d, hd, h⟩ := Registry.bind_eq_ok h
      obtain ⟨ds', hrest, h⟩ := Registry.bind_eq_ok h
      cases h
      unfold absentField at hd
      split at hd
      next habsent =>
        cases hd
        exact .default habsent (hmore hrest)
      · cases hd
        exact .cons (.absent _) (hmore hrest)
      · cases hd

theorem readPositional_gives : (fields : Fields) → (depth : Nat) →
    (∀ i r, (fields.readers depth)[i]? = some r → Keeps (fields.law i) r.2.2) → (expected : String) → (first : Bool) →
    (index : Nat) → (c : Cursor) →
    Gives (fun r ↦ fields.Has r.1) (readPositional expected first index c ((fields.readers depth).map (·.2)))
  | .nil, _, _, _, _, _, _ => gives_ok .nil
  | .cons name rule shape rest, depth, hread, expected, first, index, c => by
    have hmore (first : Bool) (c : Cursor) := readPositional_gives rest depth (fun i r hi ↦ hread (i + 1) r hi) expected
      first (index + 1) c
    have hhead : Keeps shape.Has (shape.reader depth) := hread 0 _ rfl
    rw [Fields.readers, List.map_cons, readPositional]
    refine (item?_placed first c).bind fun next ↦ ?_
    cases next with
    | none =>
      dsimp only
      split
      next habsent => exact (hmore _ _).bind fun r hr ↦ gives_ok (.default habsent hr)
      · exact gives_failClosing _ _ _
    | some c => exact ((hhead c).inside _).bind fun r hr ↦ (hmore _ _).bind fun r' hr' ↦ gives_ok (.cons hr hr')

theorem readRecord_keeps {name : String} {fields : Fields} {depth : Nat}
    (hread : ∀ i r, (fields.readers depth)[i]? = some r → Keeps (fields.law i) r.2.2) :
    Keeps (Shape.record name fields).Has (readRecord name fields (fields.readers depth)) := by
  intro c
  refine (atValue_placed c).bind fun r ↦ ?_
  obtain ⟨x, c⟩ := r
  dsimp only
  split
  · refine (readPositional_gives fields depth hread _ _ _ _).bind fun r hr ↦ ?_
    exact (closed_array_placed _).bind fun _ ↦ gives_ok (.record hr)
  split
  · have hnamed : ∀ i r, ((fields.readers depth).map fun r ↦ (r.1, r.2.2))[i]? = some r →
        Keeps (fields.law i) r.2 := by
      intro i r hi
      rw [List.getElem?_map] at hi
      obtain ⟨r', hr', rfl⟩ := Option.map_eq_some_iff.1 hi
      exact hread i r' hr'
    refine (readMembers_gives hnamed ?_ _ _ _).bind fun r hr ↦ ?_
    · intro i d hi
      rw [List.getElem?_map] at hi
      obtain ⟨_, -, hnone⟩ := Option.map_eq_some_iff.1 hi
      cases hnone
    · split
      next hcomplete =>
        exact (closed_object_placed _).bind fun _ ↦ gives_ok (.record (Fields.complete_has _ _ hr _ hcomplete))
      · exact gives_failClosing _ _ _
  · exact wrongType_gives _ _

end Records

section Tagged

variable {name variant : String} {variants : List (String × Bool)} {hasText : Bool} {depth i : Nat}

theorem findVariant_lt {tag : String} (h : findVariant variants tag = .ok i) : i < variants.length := by
  unfold findVariant at h
  split at h
  next hindex =>
    cases h
    exact (List.findIdx?_eq_some_iff_getElem.1 hindex).1
  · cases h

theorem detailOf_isSome {v : Json.Value} {detail : Option String} (h : detailOf name variant hasText v = .ok detail) :
    hasText = detail.isSome := by
  unfold detailOf at h
  split at h
  all_goals
    cases h
  · rfl
  · rfl

theorem readDetail_keeps :
    Keeps (fun detail : Option String ↦ hasText = detail.isSome) (readDetail name variant hasText depth) := by
  intro c
  refine (atValue_placed c).bind fun r ↦ ?_
  obtain ⟨x, c⟩ := r
  dsimp only
  cases hasText with
  | true =>
    rw [if_pos rfl]
    split
    · exact (Lexeme.string_placed _).bind fun _ ↦ gives_ok rfl
    · exact wrongType_gives _ _
  | false =>
    rw [if_neg (by decide)]
    split
    · exact (word_placed _ _).bind fun _ ↦ gives_ok rfl
    split
    · split
      · exact gives_failNext _ _
      · exact gives_failClosing _ _ _
    split
    · split
      · exact gives_failNext _ _
      · exact gives_failClosing _ _ _
    · exact wrongType_gives _ _

theorem nextTagKey_placed (first : Bool) (c : Cursor) (fuel : Nat) : Placed (nextTagKey first c fuel) := by
  induction fuel generalizing first c with
  | zero => exact placed_ok _
  | succ fuel ih =>
    rw [nextTagKey]
    refine (key?_placed first c).bind fun next ↦ ?_
    cases next with
    | none => exact placed_ok _
    | some member =>
      dsimp only
      split
      · exact placed_ok _
      split
      · exact placed_ok _
      · exact (colon_placed _).bind fun c ↦ (skip_placed c).bind fun c ↦ ih _ c

theorem lastKey_gives {P : Datum → Prop} {d : Datum} (hd : P d) (c : Cursor) (fuel : Nat) :
    Gives (fun r ↦ P r.1) (do
      match ← nextTagKey false c fuel with
      | (some (true, c), _) => failClosing closeObject c (.duplicateField "kind")
      | (some (false, c), _) => failClosing closeObject c (.duplicateField "detail")
      | (none, c) => return (d, ← closed closeObject c)) := by
  refine (nextTagKey_placed _ _ _).bind fun third ↦ ?_
  split
  · exact gives_failClosing _ _ _
  · exact gives_failClosing _ _ _
  · exact (closed_object_placed _).bind fun _ ↦ gives_ok hd

theorem readTagged_keeps : Keeps (Shape.tagged name variants).Has (readTagged name variants depth) := by
  intro c
  refine (atValue_placed c).bind fun r ↦ ?_
  obtain ⟨x, c⟩ := r
  dsimp only
  split
  · refine (item?_placed _ _).bind fun next ↦ ?_
    cases next with
    | none => exact gives_failClosing _ _ _
    | some c =>
      refine (readString_keeps (fun _ _ h ↦ findVariant_lt h) c).bind fun r hi ↦ ?_
      obtain ⟨i, c⟩ := r
      refine (item?_placed _ _).bind fun next ↦ ?_
      cases next with
      | none => exact gives_failClosing _ _ _
      | some c =>
        refine (readDetail_keeps c).bind fun r hr ↦ ?_
        exact (closed_array_placed _).bind fun _ ↦ gives_ok (.tagged hi hr)
  split
  · refine (nextTagKey_placed _ _ _).bind fun first ↦ ?_
    split
    · exact gives_failClosing _ _ _
    · refine (colon_placed _).bind fun c ↦ (readName_keeps (fun _ _ h ↦ findVariant_lt h) c).bind fun r hi ↦ ?_
      obtain ⟨i, c⟩ := r
      refine (nextTagKey_placed _ _ _).bind fun second ↦ ?_
      split
      · exact gives_failClosing _ _ _
      · refine (colon_placed _).bind fun c ↦ (readDetail_keeps c).bind fun r hr ↦ ?_
        exact lastKey_gives (.tagged hi hr) _ _
      · split
        · exact gives_failClosing _ _ _
        next hnone => exact (closed_object_placed _).bind fun _ ↦ gives_ok (.tagged hi (Bool.eq_false_iff.2 hnone))
    · refine (colon_placed _).bind fun c ↦ (readValue_placed _ _ c).bind fun v ↦ ?_
      refine (nextTagKey_placed _ _ _).bind fun second ↦ ?_
      split
      · exact gives_failClosing _ _ _
      · exact gives_failClosing _ _ _
      · refine (colon_placed _).bind fun c ↦ (readName_keeps (fun _ _ h ↦ findVariant_lt h) c).bind fun r hi ↦ ?_
        obtain ⟨i, c⟩ := r
        dsimp only
        split
        next hdetail => exact lastKey_gives (.tagged hi (detailOf_isSome hdetail)) _ _
        · exact gives_failClosing _ _ _
  · exact wrongType_gives _ _

end Tagged

theorem findOption_has {options : List String} {name : String} {d : Datum} (h : findOption options name = .ok d) :
    (Shape.choice options).Has d := by
  unfold findOption at h
  split at h
  next hindex =>
    cases h
    exact .choice (List.findIdx?_eq_some_iff_getElem.1 hindex).1
  · cases h

theorem check_has {range : IntRange} {n : Json.Number} {d : Datum} (h : range.check n = .ok d) :
    (Shape.integer range).Has d := by
  cases n with
  | real x => cases h
  | whole n =>
    rw [IntRange.check] at h
    split at h
    next hrange =>
      cases h
      exact .integer hrange
    · cases h

theorem timeOf_has {s : String} {d : Datum} (h : timeOf s = .ok d) : Shape.time.Has d := by
  unfold timeOf at h
  split at h <;> cases h
  exact .time _

mutual

/-- Reading along a shape gives a datum of the shape, or a failure with its place. -/
theorem Shape.reader_keeps : (shape : Shape) → (depth : Nat) → Keeps shape.Has (shape.reader depth)
  | .bool, _ => readBool_keeps
  | .text, _ => readString_keeps fun s _ h ↦ by
    cases h
    exact .text s
  | .path, _ => readString_keeps fun s _ h ↦ by
    cases h
    exact .path s
  | .integer _, _ => readNumber_keeps fun _ _ ↦ check_has
  | .real, _ => readNumber_keeps fun _ _ h ↦ by
    cases h
    exact .real _
  | .single, _ => readNumber_keeps fun _ _ h ↦ by
    cases h
    exact .single _
  | .time, _ => readString_keeps fun _ _ ↦ timeOf_has
  | .optional of, depth => optional_keeps (of.reader_keeps depth)
  | .list of, depth => readList_keeps (of.reader_keeps (depth - 1))
  | .choice _, _ => readName_keeps fun _ _ ↦ findOption_has
  | .tagged _ _, _ => readTagged_keeps
  | .record _ fields, depth => readRecord_keeps (fields.readers_keep (depth - 1))

theorem Fields.readers_keep : (fields : Fields) → (depth : Nat) → (i : Nat) → (r : String × FieldRule × Reader) →
    (fields.readers depth)[i]? = some r → Keeps (fields.law i) r.2.2
  | .nil, _, _, _, h => by cases h
  | .cons _ _ shape _, depth, 0, _, h => by
    cases h
    exact shape.reader_keeps depth
  | .cons _ _ _ rest, depth, i + 1, r, h => rest.readers_keep depth i r h

end

theorem Shape.parse_gives (shape : Shape) (text : String) : Gives shape.Has (shape.parse text) :=
  (shape.reader_keeps _ _).bind fun r hr ↦ (finish_placed r.2).bind fun _ ↦ gives_ok hr

section Types

/-- Every datum of the shape of a type stands for a value of the type. -/
def TakesBack (α : Type) [HasShape α] : Prop := ∀ d, (shape α).Has d → ∃ a : α, ofDatum? d = some a

theorem takesBack_string : TakesBack String := by
  rintro d ⟨⟩
  exact ⟨_, rfl⟩

theorem takesBack_float : TakesBack Float := by
  rintro d ⟨⟩
  exact ⟨_, rfl⟩

theorem takesBack_option {α : Type} [HasShape α] (h : TakesBack α) : TakesBack (Option α) := by
  rintro d ⟨⟩
  next => exact ⟨none, rfl⟩
  next d hd =>
    obtain ⟨a, ha⟩ := h d hd
    exact ⟨some a, congrArg (Option.map some) ha⟩

theorem Fields.has_cons {name : String} {rule : FieldRule} {shape : Shape} {rest : Fields} {ds : List Datum}
    (h : (Fields.cons name rule shape rest).Has ds) (hdefault : ∀ d, rule.absent = some d → shape.Has d) :
    ∃ d ds', ds = d :: ds' ∧ shape.Has d ∧ rest.Has ds' := by
  cases h with
  | cons h hrest => exact ⟨_, _, rfl, h, hrest⟩
  | default h hrest => exact ⟨_, _, rfl, hdefault _ h, hrest⟩

/-- A type that takes back every datum of its shape fails to be read only at a place of the text. -/
theorem parse_placed {α : Type} [HasShape α] (h : TakesBack α) (text : String) : Placed (Schema.parse α text) := by
  refine ((shape α).parse_gives text).bind fun d hd ↦ ?_
  obtain ⟨a, ha⟩ := h d hd
  rw [ha]
  exact placed_ok a

end Types

end CodeRepair.Schema
