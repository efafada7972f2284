import CodeRepair.Proofs.Json.Ahead
import CodeRepair.Proofs.Schema.Readers

/-!
Records in the midst of other text. An object of strings is read as a record whatever its white space is and whatever
follows it. A text in which something comes before the object is no record of strings and numbers, since nothing but
an object that is read as such has a place for its brace.
-/
namespace CodeRepair.Schema

open Json Json.Access

variable {c c' : Cursor} {w after rest : List Char} {d : Datum} {ds : List Datum} {first : Bool}
  {name expected : String} {fields : Fields} {depth : Nat}

section Objects

variable {s : String} {read : Reader} {readers : List (String × Reader)} {slots slots' : List (Option Datum)}
  {ms : List (String × String)}

def Takes (read : Reader) (s : String) (d : Datum) : Prop :=
  ∀ w c rest, Blank w → c.rest = w ++ (writeString s ++ rest) → ∃ c', read c = .ok (d, c') ∧ c'.rest = rest

theorem text_takes (depth : Nat) (s : String) : Takes (Shape.text.reader depth) s (.text s) := by
  intro w c rest hw h
  have hstart : c.skipSpace.rest = writeString s ++ rest := Cursor.skipSpace_over hw h rfl
  obtain ⟨c', hread, hrest⟩ := string_written hstart
  refine ⟨c', ?_, hrest⟩
  rw [Shape.reader, readString, ← atValue_skipSpace, atValue_eq hstart rfl]
  simp only [bind, Except.bind, if_true, hread, checked]

theorem optional_takes {of : Shape} (h : Takes (of.reader depth) s d) :
    Takes ((Shape.optional of).reader depth) s (.some d) := by
  intro w c rest hw hc
  have hstart : c.skipSpace.rest = writeString s ++ rest := Cursor.skipSpace_over hw hc rfl
  obtain ⟨c', hread, hrest⟩ := h [] c.skipSpace rest (by decide) hstart
  refine ⟨c', ?_, hrest⟩
  rw [Shape.reader]
  dsimp only
  rw [Cursor.peek?_eq hstart, if_neg (by decide), hread]
  rfl

/-- Members that fill slots of a record, each under a name of its own. -/
inductive Fills (readers : List (String × Reader)) :
    List (Option Datum) → List (String × String) → List (Option Datum) → Prop
  | nil (slots : List (Option Datum)) : Fills readers slots [] slots
  | cons {slots slots' : List (Option Datum)} {m : String × String} {ms : List (String × String)} {i : Nat}
      {read : Reader} {d : Datum} (hindex : readers.findIdx? (·.1 = m.1) = some i)
      (hfind : readers.find? (·.1 = m.1) = some (m.1, read)) (hempty : slots[i]? = some none)
      (hread : Takes read m.2 d) (hrest : Fills readers (slots.set i (some d)) ms slots') :
      Fills readers slots (m :: ms) slots'

theorem readMembers_fills (l : Layout) (hfills : Fills readers slots ms slots')
    (h : c.rest = l.members first ms ++ rest) {fuel : Nat} (hfuel : ms.length ≤ fuel) :
    ∃ c', readMembers readers first slots c fuel = .ok (slots', c') ∧ c'.rest = l.last ++ '\x7d' :: rest := by
  induction hfills generalizing first c fuel with
  | nil slots =>
    have hend : c.rest = l.last ++ '\x7d' :: rest := by simpa [Layout.members, listed] using h
    refine ⟨c, ?_, hend⟩
    cases fuel with
    | zero => rfl
    | succ fuel =>
      rw [readMembers, key?_over_end l.last_blank hend]
      rfl
  | @cons slots slots' m ms i read d hindex hfind hempty hread _ ih =>
    cases fuel with
    | zero => cases hfuel
    | succ fuel =>
      let value := ':' :: (l.value ++ (writeString m.2 ++ (l.members false ms ++ rest)))
      have hmember : c.rest =
          if first then l.line ++ (writeString m.1 ++ value) else ',' :: (l.line ++ (writeString m.1 ++ value)) := by
        rw [h]
        cases first <;> simp [value, Layout.members, listed, Layout.member]
      obtain ⟨c₁, hkey, hrest₁⟩ := key?_over l.line_blank hmember
      obtain ⟨c₂, hcolon, hrest₂⟩ := colon_eq hrest₁
      obtain ⟨c₃, hvalue, hrest₃⟩ := hread _ c₂ _ l.value_blank hrest₂
      obtain ⟨c₄, hmore, hrest₄⟩ := ih hrest₃ (Nat.le_of_succ_le_succ hfuel)
      refine ⟨c₄, ?_, hrest₄⟩
      rw [readMembers, hkey]
      simp only [bind, Except.bind, hindex, hfind, hempty, hcolon, hvalue, Registry.mapError_ok]
      exact hmore

theorem record_over (l : Layout) (hfills : Fills ((fields.readers (depth - 1)).map fun r ↦ (r.1, r.2.2))
      ((fields.readers (depth - 1)).map fun _ ↦ none) ms slots)
    (hcomplete : fields.complete slots = .ok ds) (h : c.rest = l.object ms ++ rest) :
    ∃ c', (Shape.record name fields).reader depth c = .ok (.record ds, c') ∧ c'.rest = rest := by
  have hlength : ms.length ≤ c.rest.length := by
    have hmembers : ∀ text ∈ ms.map l.member, text ≠ [] := by
      intro text htext
      obtain ⟨m, -, rfl⟩ := List.mem_map.1 htext
      simp [Layout.member]
    have hle := length_le_listed true hmembers
    rw [h, Layout.object, Layout.members]
    simp only [List.length_map, List.length_append, List.length_cons] at hle ⊢
    omega
  obtain ⟨c₁, hread, hrest₁⟩ := readMembers_fills l hfills (Cursor.rest_advance h) hlength
  obtain ⟨c₂, hclosed, hrest₂⟩ := closed_object_over l.last_blank hrest₁
  refine ⟨c₂, ?_, hrest₂⟩
  rw [Shape.reader, readRecord, atValue_eq h rfl]
  simp only [bind, Except.bind, List.map_map, Function.comp_def, hread, hcomplete, hclosed]
  rfl

end Objects

section Before

/-- Where readers that read no object come to a stand: before its brace, or after a string that took it in. -/
def Barred (w after : List Char) (c : Cursor) : Prop := c.Ahead (w ++ '"' :: after) ∨ c.rest = after

def StaysOut {α : Type} (w after : List Char) (read : Cursor → Except Fault (α × Cursor)) : Prop :=
  ∀ c a c', c.Ahead (w ++ '"' :: after) → read c = .ok (a, c') → Barred w after c'

theorem readString_staysOut {α : Type} (hw : Blank w) (check : String → Except Mismatch α) :
    StaysOut w after (readString expected check) := by
  intro c a c' hc h
  obtain ⟨⟨x, c₁⟩, hvalue, h⟩ := Registry.bind_eq_ok h
  obtain ⟨hskims, hpeek⟩ := atValue_skims hvalue
  dsimp only at h
  split at h
  next hx =>
    obtain ⟨⟨s, c₂⟩, hstring, h⟩ := Registry.bind_eq_ok h
    obtain ⟨-, rfl⟩ := checked_ok h
    have hadvance := Cursor.advance_skims_of hpeek (by rw [hx]; decide)
    exact Lexeme.string_ahead hw ((hc.skims hskims).skims hadvance) hstring
  · exact absurd h (wrongType_error _ _ _ _)

theorem readNumber_staysOut (w after : List Char) (check : Json.Number → Except Mismatch Datum) :
    StaysOut w after (readNumber expected check) := by
  intro c a c' hc h
  obtain ⟨⟨x, c₁⟩, hvalue, h⟩ := Registry.bind_eq_ok h
  obtain ⟨hskims, hpeek⟩ := atValue_skims hvalue
  have hahead := hc.skims hskims
  dsimp only at h
  split at h
  next hx =>
    obtain ⟨⟨n, c₂⟩, hnumber, h⟩ := Registry.bind_eq_ok h
    obtain ⟨-, rfl⟩ := checked_ok h
    have hadvance := Cursor.advance_skims_of hpeek (by rw [hx]; decide)
    exact .inl ((hahead.skims hadvance).skims (Lexeme.number_skims hnumber))
  split at h
  · obtain ⟨⟨n, c₂⟩, hnumber, h⟩ := Registry.bind_eq_ok h
    obtain ⟨-, rfl⟩ := checked_ok h
    exact .inl (hahead.skims (Lexeme.number_skims hnumber))
  · exact absurd h (wrongType_error _ _ _ _)

theorem optional_staysOut {of : Shape} (h : StaysOut w after (of.reader depth)) :
    StaysOut w after ((Shape.optional of).reader depth) := by
  intro c a c' hc hread
  have hahead := hc.skims (Cursor.skipSpace_skims c)
  rw [Shape.reader] at hread
  dsimp only at hread
  split at hread
  next hpeek =>
    obtain ⟨c₁, hword, hread⟩ := Registry.bind_eq_ok hread
    cases hread
    have hadvance := Cursor.advance_skims_of hpeek (by decide)
    exact .inl ((hahead.skims hadvance).skims (Cursor.word_skims (by decide) hword))
  · obtain ⟨⟨d, c₁⟩, hof, hread⟩ := Registry.bind_eq_ok hread
    cases hread
    exact h _ _ _ hahead hof

theorem readPositional_staysOut {fields : List (FieldRule × Reader)} {index : Nat} (hafter : Jams after)
    (hfields : ∀ f ∈ fields, StaysOut w after f.2) (hc : Barred w after c)
    (hfirst : first = true → c.Ahead (w ++ '"' :: after))
    (h : readPositional expected first index c fields = .ok (ds, c')) : Barred w after c' := by
  induction fields generalizing first index c ds with
  | nil =>
    cases h
    exact hc
  | cons f fields ih =>
    obtain ⟨rule, read⟩ := f
    obtain ⟨next, hitem, h⟩ := Registry.bind_eq_ok h
    have hmore : ∀ f ∈ fields, StaysOut w after f.2 := fun f hf ↦ hfields f (by simp [hf])
    have hahead : c.Ahead (w ++ '"' :: after) := by
      rcases hc with hahead | hjam
      · exact hahead
      · cases first with
        | true => exact hfirst rfl
        | false => exact absurd hitem (item?_jams hafter hjam _)
    cases next with
    | none =>
      dsimp only at h
      split at h
      · obtain ⟨⟨ds', c₁⟩, hread, h⟩ := Registry.bind_eq_ok h
        cases h
        exact ih hmore (.inl hahead) (fun _ ↦ hahead) hread
      · cases h
    | some c₁ =>
      obtain ⟨⟨d, c₂⟩, hvalue, h⟩ := Registry.bind_eq_ok h
      obtain ⟨⟨ds', c₃⟩, hread, h⟩ := Registry.bind_eq_ok h
      cases h
      have hbarred := hfields (rule, read) (by simp) c₁ d c₂ (hahead.skims (item?_skims hitem))
        (Registry.mapError_eq_ok hvalue)
      refine ih hmore hbarred ?_ hread
      rintro ⟨⟩

/-- A text in which something comes before an object is no record. -/
theorem record_before {x : Char} {front : List Char} (hafter : Jams after)
    (hfields : ∀ f ∈ fields.readers (depthLimit - 1), StaysOut w after f.2.2) (hx : Cursor.isSpace x = false)
    (hfront : '\x7b' ∉ x :: front) (d : Datum) :
    (Shape.record name fields).parse (String.ofList (x :: front ++ '\x7b' :: (w ++ '"' :: after))) ≠ .ok d := by
  intro h
  obtain ⟨⟨d', c'⟩, hread, h⟩ := Registry.bind_eq_ok h
  obtain ⟨_, hfinish, -⟩ := Registry.bind_eq_ok h
  rw [String.toList_ofList] at hread
  let c : Cursor := .ofChars (x :: front ++ '\x7b' :: (w ++ '"' :: after))
  have hc : c.Ahead (w ++ '"' :: after) := ⟨x :: front, rfl, hfront⟩
  rw [Shape.reader, readRecord, atValue_eq (c := c) rfl hx] at hread
  simp only [bind, Except.bind] at hread
  have hbrace : x ≠ '\x7b' := fun hx ↦ hfront (by simp [hx])
  split at hread
  next hopen =>
    obtain ⟨⟨ds, c₁⟩, hitems, hread⟩ := Registry.bind_eq_ok hread
    obtain ⟨c₂, hclosed, hread⟩ := Registry.bind_eq_ok hread
    cases hread
    have hadvance := hc.skims (Cursor.advance_skims_of (x := x) rfl hbrace)
    have hreaders : ∀ f ∈ (fields.readers (depthLimit - 1)).map (·.2), StaysOut w after f.2 := by
      intro f hf
      obtain ⟨r, hr, rfl⟩ := List.mem_map.1 hf
      exact hfields r hr
    rcases readPositional_staysOut hafter hreaders (.inl hadvance) (fun _ ↦ hadvance) hitems with hahead | hjam
    · exact finish_ahead (hahead.skims (closed_array_skims hclosed)) hfinish
    · exact closed_array_jams hafter hjam hclosed
  · exact wrongType_error _ _ _ _ hread

end Before

end CodeRepair.Schema
