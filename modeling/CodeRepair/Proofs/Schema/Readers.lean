import CodeRepair.Proofs.Json.Access
import CodeRepair.Proofs.Session.Registry
import CodeRepair.Schema.HasShape

/-!
The readers of single values, arrays and variants, on a text that was written without white space.
-/
namespace CodeRepair.Schema

open Json Json.Access

variable {c : Cursor} {text rest : List Char} {s expected : String}

/-- A reader that reads a text as a value, wherever it stands in a larger text. -/
def ReadsAs {α : Type} (read : Cursor → Except Fault (α × Cursor)) (text : List Char) (a : α) : Prop :=
  ∀ c rest, c.rest = text ++ rest → Closes rest → ∃ c', read c = .ok (a, c') ∧ c'.rest = rest

/-- A text that starts as a value other than null does. -/
def Opens (text : List Char) : Prop :=
  ∃ x xs, text = x :: xs ∧ Cursor.isSpace x = false ∧ x ≠ ']' ∧ x ≠ 'n'

theorem Opens.begins (h : Opens text) : Begins text := by
  obtain ⟨x, xs, htext, hspace, hend, -⟩ := h
  exact ⟨x, xs, htext, hspace, hend⟩

theorem closes_listed {x : Char} (hx : x = ']' ∨ x = '\x7d') (texts : List (List Char)) (rest : List Char) :
    Closes (listed false texts ++ x :: rest) := by
  cases texts with
  | nil =>
    rintro y ⟨⟩
    exact .inr hx
  | cons text texts =>
    rintro y ⟨⟩
    exact .inl rfl

section Single

variable {α : Type} {a : α}

theorem readString_written {check : String → Except Mismatch α} (ha : check s = .ok a) :
    ReadsAs (readString expected check) (writeString s) a := by
  intro c rest h _
  obtain ⟨c', hread, hrest⟩ := string_written h
  refine ⟨c', ?_, hrest⟩
  rw [readString, atValue_eq h rfl]
  simp only [bind, Except.bind, if_true, hread, checked, ha]

theorem readName_written {check : String → Except Mismatch α} (ha : check s = .ok a) :
    ReadsAs (readName check) (writeString s) a := by
  intro c rest h _
  obtain ⟨c', hread, hrest⟩ := string_written h
  refine ⟨c', ?_, hrest⟩
  rw [readName, atValue_eq h rfl]
  simp only [bind, Except.bind, if_true, hread, checked, ha]

theorem readBool_written (b : Bool) : ReadsAs readBool (writeCompact (.bool b)) (.bool b) := by
  intro c rest h _
  cases b with
  | true =>
    obtain ⟨c', hword, hrest⟩ := Cursor.word_eq ['r', 'u', 'e'] (Cursor.rest_advance h)
    refine ⟨c', ?_, hrest⟩
    rw [readBool, atValue_eq h rfl]
    simp only [bind, Except.bind, if_true, hword]
    rfl
  | false =>
    obtain ⟨c', hword, hrest⟩ := Cursor.word_eq ['a', 'l', 's', 'e'] (Cursor.rest_advance h)
    refine ⟨c', ?_, hrest⟩
    rw [readBool, atValue_eq h rfl]
    simp only [bind, Except.bind, if_true, hword]
    rfl

end Single

section Numbers

variable {check : Json.Number → Except Mismatch Datum} {d : Datum} {n : Int} {x : Char} {xs : List Char}

theorem isSpace_of_isDigit (hx : x.isDigit = true) : Cursor.isSpace x = false := by
  simp only [Cursor.isSpace, Bool.or_eq_false_iff, decide_eq_false_iff_not]
  refine ⟨⟨⟨?_, ?_⟩, ?_⟩, ?_⟩ <;> (rintro rfl; cases hx)

def unsigned (check : Json.Number → Except Mismatch Datum) (negative : Bool) : Reader := fun c ↦ do
  let (n, c) ← Lexeme.number c negative
  checked c (check n)

theorem readNumber_negative (h : c.rest = '-' :: xs) :
    readNumber expected check c = unsigned check true c.advance := by
  rw [readNumber, atValue_eq h rfl]
  rfl

theorem readNumber_digit (h : c.rest = x :: xs) (hx : x.isDigit = true) :
    readNumber expected check c = unsigned check false c := by
  have hminus : x ≠ '-' := by
    rintro rfl
    cases hx
  rw [readNumber, atValue_eq h (isSpace_of_isDigit hx)]
  simp only [bind, Except.bind, if_neg hminus, if_pos hx]
  rfl

theorem readNumber_whole (hlow : -(Nat.pow 2 63) ≤ n) (hhigh : n < Nat.pow 2 64) (hd : check (.whole n) = .ok d) :
    ReadsAs (readNumber expected check) (writeCompact (.int n)) d := by
  intro c rest h hrest
  have hsigned : Nat.pow 2 63 = 9223372036854775808 := rfl
  have hunsigned : Nat.pow 2 64 = 18446744073709551616 := rfl
  have hmax : Lexeme.maxWhole = 18446744073709551615 := rfl
  rw [hsigned] at hlow
  rw [hunsigned] at hhigh
  have hn : n.natAbs ≤ Lexeme.maxWhole := by omega
  by_cases hneg : n < 0
  · have htext : c.rest = '-' :: (Number.decimalDigits n.natAbs ++ rest) := by
      rw [h, Value.int, writeCompact, writeNumber, if_pos hneg]
      rfl
    obtain ⟨c', hread, hrest'⟩ := Lexeme.number_decimalDigits hn (Cursor.rest_advance htext) hrest true
    refine ⟨c', ?_, hrest'⟩
    have hvalue : (-(n.natAbs : Int)) = n := by omega
    have hnumber : Lexeme.wholeNumber c' true n.natAbs 0 = .ok (.whole n, c') := by
      rw [Lexeme.wholeNumber, if_neg (by simp), if_neg (by simp), if_neg (by rw [hsigned]; omega), hvalue]
    rw [readNumber_negative htext, unsigned, hread, hnumber]
    simp only [bind, Except.bind, checked, hd]
  · have htext : c.rest = Number.decimalDigits n.natAbs ++ rest := by
      rw [h, Value.int, writeCompact, writeNumber, if_neg hneg]
    obtain ⟨c', hread, hrest'⟩ := Lexeme.number_decimalDigits hn htext hrest false
    refine ⟨c', ?_, hrest'⟩
    have hvalue : (n.natAbs : Int) = n := by omega
    have hnumber : Lexeme.wholeNumber c' false n.natAbs 0 = .ok (.whole n, c') := by
      rw [Lexeme.wholeNumber, if_neg (by simp), if_pos (by simp), hvalue]
    have hspells := Number.spells_decimalDigits n.natAbs
    cases hdigits : Number.decimalDigits n.natAbs with
    | nil => exact absurd hdigits hspells.nonempty
    | cons x xs =>
      rw [hdigits] at htext
      rw [readNumber_digit htext (hspells.isDigit x (by simp [hdigits])), unsigned, hread, hnumber]
      simp only [bind, Except.bind, checked, hd]

theorem wrongType_error {α : Type} (x : Char) (c : Cursor) (expected : String) (r : α) :
    wrongType x c expected ≠ .ok r := by
  intro h
  unfold wrongType at h
  simp only [bind, Except.bind, mismatchAt, Cursor.failNext] at h
  repeat' split at h
  all_goals cases h

theorem finish_inv (hspace : ∀ x ∈ c.rest, Cursor.isSpace x = false) (h : finish c = .ok ()) : c.rest = [] := by
  cases hrest : c.rest with
  | nil => rfl
  | cons x xs =>
    rw [finish, Cursor.skipSpace_eq hrest (hspace x (by simp [hrest])), Cursor.peek?_eq hrest] at h
    cases h

theorem checked_ok {α : Type} {result : Except Mismatch α} {a : α} {c' : Cursor} (h : checked c result = .ok (a, c')) :
    result = .ok a ∧ c' = c := by
  cases result with
  | ok b =>
    cases h
    exact ⟨rfl, rfl⟩
  | error m => cases h

/-- A number that a text is when nothing else follows it is read from that text wherever it stands. -/
theorem readNumber_alone {c₁ : Cursor} (hspace : ∀ x ∈ text, Cursor.isSpace x = false)
    (hread : readNumber expected check (Cursor.ofChars text) = .ok (d, c₁)) (hfinish : finish c₁ = .ok ()) :
    ReadsAs (readNumber expected check) text d := by
  intro c rest h hrest
  have within {negative : Bool} {c₀ c₂ : Cursor} (ht : c₀.rest <:+ text) (h₂ : c₂.rest = c₀.rest ++ rest)
      (hc : unsigned check negative c₀ = .ok (d, c₁)) :
      ∃ c', unsigned check negative c₂ = .ok (d, c') ∧ c'.rest = rest := by
    unfold unsigned at hc ⊢
    cases hnumber : Lexeme.number c₀ negative with
    | error fault =>
      rw [hnumber] at hc
      cases hc
    | ok r =>
      rw [hnumber] at hc
      obtain ⟨hd, rfl⟩ := checked_ok hc
      obtain ⟨hsuffix, c', hsame, hleft⟩ := Lexeme.number_agrees hrest ht h₂ _ _ hnumber
      have hnil := finish_inv (fun x hx ↦ hspace x (hsuffix.subset hx)) hfinish
      rw [hnil] at hleft
      refine ⟨c', ?_, hleft⟩
      rw [hsame]
      simp only [bind, Except.bind, checked, hd]
  cases text with
  | nil => cases hread
  | cons x xs =>
    have halone : (Cursor.ofChars (x :: xs)).rest = x :: xs := rfl
    by_cases hminus : x = '-'
    · subst hminus
      rw [readNumber_negative halone] at hread
      rw [readNumber_negative h]
      refine within ?_ ?_ hread
      · exact Cursor.advance_suffix halone
      · rw [Cursor.rest_advance h, Cursor.rest_advance halone]
        rfl
    · by_cases hx : x.isDigit = true
      · rw [readNumber_digit halone hx] at hread
        rw [readNumber_digit h hx]
        exact within List.suffix_rfl h hread
      · rw [readNumber, atValue_eq halone (hspace x (by simp))] at hread
        simp only [bind, Except.bind, if_neg hminus, if_neg hx] at hread
        exact absurd hread (wrongType_error _ _ _ _)

theorem isSpace_of_inDecimal (hx : Number.InDecimal x) : Cursor.isSpace x = false := by
  rcases hx with hx | rfl | rfl | rfl | rfl
  · exact isSpace_of_isDigit hx
  all_goals rfl

theorem opens_inDecimal (hne : text ≠ []) (htext : ∀ x ∈ text, Number.InDecimal x) : Opens text := by
  cases text with
  | nil => exact absurd rfl hne
  | cons x xs =>
    have hx := htext x (by simp)
    refine ⟨x, xs, rfl, isSpace_of_inDecimal hx, ?_, ?_⟩
    all_goals
      rintro rfl
      simp [Number.InDecimal, Char.isDigit] at hx

theorem opens_int (n : Int) : Opens (writeCompact (.int n)) := by
  have hspells := Number.spells_decimalDigits n.natAbs
  rw [Value.int, writeCompact, writeNumber]
  split
  · exact ⟨'-', _, rfl, rfl, by decide, by decide⟩
  · exact opens_inDecimal hspells.nonempty fun x hx ↦ .inl (hspells.isDigit x hx)

theorem readNumber_real {y : Float} {c₁ : Cursor}
    (hread : readNumber expected check (Cursor.ofChars (writeCompact (.number (.real y)))) = .ok (d, c₁))
    (hfinish : finish c₁ = .ok ()) :
    Opens (writeCompact (.number (.real y))) ∧
      ReadsAs (readNumber expected check) (writeCompact (.number (.real y))) d := by
  have htext : ∃ text, writeCompact (.number (.real y)) = text ∧ text ≠ [] ∧ ∀ x ∈ text, Number.InDecimal x := by
    rw [writeCompact, writeNumber] at hread ⊢
    cases hy : Number.Binary.ofFloat? y with
    | none =>
      simp only [hy] at hread
      rw [readNumber, atValue_eq rfl rfl] at hread
      simp only [bind, Except.bind] at hread
      rw [if_neg (by decide), if_neg (by decide)] at hread
      exact absurd hread (wrongType_error _ _ _ _)
    | some b => exact ⟨_, rfl, Number.format_ne_nil _ _, Number.format_inDecimal _ _⟩
  obtain ⟨text, heq, hne, hall⟩ := htext
  rw [heq] at hread ⊢
  exact ⟨opens_inDecimal hne hall, readNumber_alone (fun x hx ↦ isSpace_of_inDecimal (hall x hx)) hread hfinish⟩

end Numbers

section Items

variable {read : Reader} {write : Datum → List Char} {ds : List Datum} {first : Bool} {fuel : Nat}

theorem readItems_listed (hread : ∀ d ∈ ds, ReadsAs read (write d) d) (hbegins : ∀ d ∈ ds, Begins (write d))
    (done : List Datum) (h : c.rest = listed first (ds.map write) ++ ']' :: rest) (hfuel : ds.length ≤ fuel) :
    ∃ c', readItems read first done c fuel = .ok (done.reverse ++ ds, c') ∧ c'.rest = ']' :: rest := by
  induction ds generalizing first done c fuel with
  | nil =>
    refine ⟨c, ?_, h⟩
    rw [List.append_nil]
    cases fuel with
    | zero => rfl
    | succ fuel =>
      rw [readItems, item?_end h]
      rfl
  | cons d ds ih =>
    cases fuel with
    | zero => cases hfuel
    | succ fuel =>
      obtain ⟨c₁, hitem, hrest₁⟩ := item?_listed (hbegins d (by simp)) (h.trans (List.append_assoc _ _ _))
      obtain ⟨c₂, hd, hrest₂⟩ := hread d (by simp) c₁ _ hrest₁ (closes_listed (.inl rfl) _ _)
      obtain ⟨c₃, hds, hrest₃⟩ := ih (fun d hd ↦ hread d (by simp [hd])) (fun d hd ↦ hbegins d (by simp [hd]))
        (d :: done) hrest₂ (Nat.le_of_succ_le_succ hfuel)
      refine ⟨c₃, ?_, hrest₃⟩
      rw [readItems, hitem]
      simp only [bind, Except.bind, hd, Registry.mapError_ok, hds]
      simp

theorem readList_written (hread : ∀ d ∈ ds, ReadsAs read (write d) d) (hbegins : ∀ d ∈ ds, Begins (write d)) :
    ReadsAs (readList read expected) ('[' :: listed true (ds.map write) ++ [']']) (.list ds) := by
  intro c rest h _
  have hitems : c.advance.rest = listed true (ds.map write) ++ ']' :: rest := by
    rw [Cursor.rest_advance h]
    simp
  have hnonempty : ∀ text ∈ ds.map write, text ≠ [] := by
    intro text htext
    obtain ⟨d, hd, rfl⟩ := List.mem_map.1 htext
    obtain ⟨x, xs, htext, -⟩ := hbegins d hd
    rw [htext]
    exact List.cons_ne_nil _ _
  have hlength : ds.length ≤ c.rest.length := by
    have hle := length_le_listed true hnonempty
    rw [h]
    simp only [List.length_map, List.length_append, List.length_cons] at hle ⊢
    omega
  obtain ⟨c₁, hread, hrest₁⟩ := readItems_listed hread hbegins [] hitems hlength
  obtain ⟨c₂, hclosed, hrest₂⟩ := closed_array hrest₁
  refine ⟨c₂, ?_, hrest₂⟩
  rw [readList, atValue_eq h rfl]
  simp only [bind, Except.bind, if_true, hread, hclosed]
  rfl

end Items

section Tagged

variable {name : String} {variants : List (String × Bool)} {i fuel : Nat}

theorem nextTagKey_end (h : c.rest = '\x7d' :: rest) (first : Bool) (fuel : Nat) :
    nextTagKey first c fuel = .ok (none, c) := by
  cases fuel with
  | zero => rfl
  | succ fuel =>
    rw [nextTagKey, key?_end h]
    rfl

theorem nextTagKey_kind (h : c.rest = writeString "kind" ++ rest) (hfuel : 0 < fuel) :
    ∃ c', nextTagKey true c fuel = .ok (some (true, c'), c') ∧ c'.rest = rest := by
  obtain ⟨c', hkey, hrest⟩ := key?_first h
  refine ⟨c', ?_, hrest⟩
  obtain ⟨fuel, rfl⟩ := Nat.exists_eq_succ_of_ne_zero (Nat.ne_of_gt hfuel)
  rw [nextTagKey, hkey]
  rfl

theorem nextTagKey_detail (h : c.rest = ',' :: (writeString "detail" ++ rest)) (hfuel : 0 < fuel) :
    ∃ c', nextTagKey false c fuel = .ok (some (false, c'), c') ∧ c'.rest = rest := by
  obtain ⟨c', hkey, hrest⟩ := key?_later h
  refine ⟨c', ?_, hrest⟩
  obtain ⟨fuel, rfl⟩ := Nat.exists_eq_succ_of_ne_zero (Nat.ne_of_gt hfuel)
  rw [nextTagKey, hkey]
  rfl

theorem readTagged_unit {tag : String} (hi : variants[i]? = some (tag, false))
    (hfind : findVariant variants tag = .ok i) (depth : Nat) :
    ReadsAs (readTagged name variants depth) (writeCompact (.object [("kind", .string tag)])) (.tagged i none) := by
  intro c rest h _
  have hkind : c.advance.rest = writeString "kind" ++ ':' :: (writeString tag ++ '\x7d' :: rest) := by
    rw [Cursor.rest_advance h]
    simp [writeCompactMembers, writeCompact]
  have hfuel : 0 < c.rest.length := by simp [h, writeCompact]
  obtain ⟨c₁, hkey, hrest₁⟩ := nextTagKey_kind hkind hfuel
  obtain ⟨c₂, hcolon, hrest₂⟩ := colon_eq hrest₁
  obtain ⟨c₃, hname, hrest₃⟩ := readName_written hfind c₂ _ hrest₂ (closes_listed (.inr rfl) [] rest)
  obtain ⟨c₄, hclosed, hrest₄⟩ := closed_object hrest₃
  refine ⟨c₄, ?_, hrest₄⟩
  have hvariant : variants.getD i ("", false) = (tag, false) := by simp [hi]
  have hlast := nextTagKey_end hrest₃ false c.rest.length
  rw [readTagged, atValue_eq h rfl]
  simp only [bind, Except.bind, hkey, hcolon, hname, hlast, hvariant, hclosed]
  rfl

theorem readTagged_detail {tag : String} (hi : variants[i]? = some (tag, true))
    (hfind : findVariant variants tag = .ok i) (depth : Nat) :
    ReadsAs (readTagged name variants depth) (writeCompact (.object [("kind", .string tag), ("detail", .string s)]))
      (.tagged i (some s)) := by
  intro c rest h _
  have hkind : c.advance.rest =
      writeString "kind" ++ ':' :: (writeString tag ++ ',' :: (writeString "detail" ++
        ':' :: (writeString s ++ '\x7d' :: rest))) := by
    rw [Cursor.rest_advance h]
    simp [writeCompactMembers, writeCompact]
  have hfuel : 0 < c.rest.length := by simp [h, writeCompact]
  obtain ⟨c₁, hkey, hrest₁⟩ := nextTagKey_kind hkind hfuel
  obtain ⟨c₂, hcolon, hrest₂⟩ := colon_eq hrest₁
  obtain ⟨c₃, hname, hrest₃⟩ := readName_written hfind c₂ _ hrest₂ (by rintro y ⟨⟩; exact .inl rfl)
  obtain ⟨c₄, hkey', hrest₄⟩ := nextTagKey_detail hrest₃ hfuel
  obtain ⟨c₅, hcolon', hrest₅⟩ := colon_eq hrest₄
  obtain ⟨c₆, hdetail, hrest₆⟩ := string_written hrest₅
  obtain ⟨c₇, hclosed, hrest₇⟩ := closed_object hrest₆
  refine ⟨c₇, ?_, hrest₇⟩
  have hvariant : variants.getD i ("", false) = (tag, true) := by simp [hi]
  have hlast := nextTagKey_end hrest₆ false c.rest.length
  have hread : readDetail name tag true (depth - 1) c₅ = .ok (some s, c₆) := by
    rw [readDetail, atValue_eq hrest₅ rfl]
    simp only [bind, Except.bind, if_true, hdetail]
    rfl
  rw [readTagged, atValue_eq h rfl]
  simp only [bind, Except.bind, hkey, hcolon, hname, hkey', hcolon', hvariant, hread, hlast, hclosed]
  rfl

end Tagged

end CodeRepair.Schema
