import CodeRepair.Proofs.Json.Access

/-!
Objects whose values are strings, with white space between their parts as the compact and the pretty form put it, and
the steps of reading over white space.
-/
namespace CodeRepair.Json

variable {c : Cursor} {x : Char} {w xs rest : List Char} {key : String} {first : Bool}

def Blank (w : List Char) : Prop := ∀ x ∈ w, Cursor.isSpace x = true

instance : Decidable (Blank w) := decidable_of_iff (w.all Cursor.isSpace = true) List.all_eq_true

namespace Cursor

theorem rest_skipWhile (p : Char → Bool) (cs : List Char) (c : Cursor) : (skipWhile p cs c).rest = cs.dropWhile p := by
  induction cs generalizing c with
  | nil => rfl
  | cons x cs ih =>
    rw [skipWhile, List.dropWhile_cons]
    split
    · exact ih _
    · rfl

theorem rest_skipSpace (c : Cursor) : c.skipSpace.rest = c.rest.dropWhile isSpace := rest_skipWhile _ _ _

theorem skipSpace_over (hw : Blank w) (h : c.rest = w ++ x :: xs) (hx : isSpace x = false) :
    c.skipSpace.rest = x :: xs := by
  rw [rest_skipSpace, h, List.dropWhile_append_of_pos hw, List.dropWhile_cons_of_neg (by simp [hx])]

theorem skipSpace_skipSpace (c : Cursor) : c.skipSpace.skipSpace = c.skipSpace := by
  cases hrest : c.skipSpace.rest with
  | nil =>
    cases hc : c.skipSpace
    rw [hc] at hrest
    cases hrest
    rfl
  | cons x xs =>
    refine skipSpace_eq hrest ?_
    rw [rest_skipSpace] at hrest
    have hhead := List.head?_dropWhile_not isSpace c.rest
    simpa [hrest] using hhead

end Cursor

namespace Access

theorem atValue_skipSpace (c : Cursor) : atValue c.skipSpace = atValue c := by
  simp only [atValue, Cursor.skipSpace_skipSpace]

theorem key?_skipSpace (first : Bool) (c : Cursor) : key? first c.skipSpace = key? first c := by
  simp only [key?, Cursor.skipSpace_skipSpace]

theorem closeObject_skipSpace (c : Cursor) : closeObject c.skipSpace = closeObject c := by
  simp only [closeObject, Cursor.skipSpace_skipSpace]

theorem key?_over (hw : Blank w)
    (h : c.rest = if first then w ++ (writeString key ++ rest) else ',' :: (w ++ (writeString key ++ rest))) :
    ∃ c', key? first c = .ok (some (key, c')) ∧ c'.rest = rest := by
  cases first with
  | true =>
    rw [← key?_skipSpace]
    exact key?_first (Cursor.skipSpace_over hw h rfl)
  | false =>
    have hnext : c.advance.skipSpace.rest = writeString key ++ rest :=
      Cursor.skipSpace_over hw (Cursor.rest_advance h) rfl
    obtain ⟨c', hread, hrest⟩ := string_written hnext
    refine ⟨c', ?_, hrest⟩
    rw [key?, Cursor.skipSpace_eq h rfl, Cursor.peek?_eq h]
    simp only [Cursor.peek?_eq hnext, hread]
    rfl

theorem key?_over_end (hw : Blank w) (h : c.rest = w ++ '\x7d' :: rest) (first : Bool) : key? first c = .ok none := by
  rw [← key?_skipSpace]
  exact key?_end (Cursor.skipSpace_over hw h rfl) first

theorem closed_object_over (hw : Blank w) (h : c.rest = w ++ '\x7d' :: rest) :
    ∃ c', closed closeObject c = .ok c' ∧ c'.rest = rest := by
  rw [closed, ← closeObject_skipSpace]
  exact closed_object (Cursor.skipSpace_over hw h rfl)

end Access

def Value.ofStrings (ms : List (String × String)) : Value := .object (ms.map fun m ↦ (m.1, .string m.2))

/-- The white space in an object: before a key, before a value, and before the closing brace. -/
structure Layout where
  line : List Char
  value : List Char
  last : List Char
  line_blank : Blank line
  value_blank : Blank value
  last_blank : Blank last

namespace Layout

def compact : Layout := ⟨[], [], [], by decide, by decide, by decide⟩

def pretty : Layout := ⟨newLine 1, [' '], newLine 0, by decide, by decide, by decide⟩

def member (l : Layout) (m : String × String) : List Char :=
  l.line ++ (writeString m.1 ++ ':' :: (l.value ++ writeString m.2))

def members (l : Layout) (first : Bool) (ms : List (String × String)) : List Char :=
  listed first (ms.map l.member) ++ (l.last ++ ['\x7d'])

def object (l : Layout) (ms : List (String × String)) : List Char := '\x7b' :: l.members true ms

end Layout

theorem writeCompact_ofStrings (ms : List (String × String)) :
    writeCompact (.ofStrings ms) = Layout.compact.object ms := by
  rw [Value.ofStrings, writeCompact, writeCompactMembers_eq, List.map_map]
  have hentry : entry ∘ (fun m : String × String ↦ (m.1, Value.string m.2)) = Layout.compact.member := by
    funext m
    simp [entry, Layout.member, Layout.compact, writeCompact]
  rw [hentry]
  rfl

theorem writePrettyMembers_ofStrings (ms : List (String × String)) :
    writePrettyMembers 1 (ms.map fun m ↦ (m.1, .string m.2)) = listed true (ms.map Layout.pretty.member) := by
  induction ms with
  | nil => rfl
  | cons m ms ih =>
    cases ms with
    | nil => simp [writePrettyMembers, writePretty, listed, Layout.member, Layout.pretty]
    | cons m' ms =>
      rw [List.map_cons, writePrettyMembers, ih]
      · simp [listed, Layout.member, Layout.pretty, writePretty]
      · exact List.cons_ne_nil _ _

theorem writePretty_ofStrings (m : String × String) (ms : List (String × String)) :
    writePretty 0 (.ofStrings (m :: ms)) = Layout.pretty.object (m :: ms) := by
  rw [Value.ofStrings, writePretty, writePrettyMembers_ofStrings]
  · simp [Layout.object, Layout.members, Layout.pretty]
  · exact List.cons_ne_nil _ _

end CodeRepair.Json
