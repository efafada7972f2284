import CodeRepair.Proofs.Toml.Lexeme
import CodeRepair.Proofs.Toml.Tree

/-!
A document that was written is read as the tables that were written.
-/
namespace CodeRepair.Toml

open Number (ne_of_class)

variable {cs rest : List Char} {fuel depth : Nat} {v : Value} {k : String}

/-- A value that has a line, or some lines, of its own: a string, a natural number, or an array of strings. -/
inductive Flat : Value → Prop
  | string (s : String) : Flat (.string s)
  | int (n : Nat) (h : n < Nat.pow 2 63) : Flat (.int n)
  | strings (ss : List String) : Flat (.array (ss.map .string))

section Values

/-- A text that starts with neither white space nor a comment. -/
def Solid (cs : List Char) : Prop := ∀ y ∈ cs.head?, isBlank y = false ∧ y ≠ '#' ∧ y ≠ '\n' ∧ y ≠ '\r'

theorem Solid.skipBlanks (h : Solid cs) : skipBlanks cs = cs := by
  cases cs with
  | nil => rfl
  | cons y ys => simp [Toml.skipBlanks, (h y rfl).1]

theorem Solid.skipComment (h : Solid cs) : skipComment cs = cs := by
  unfold Toml.skipComment
  split
  · exact absurd rfl (h '#' rfl).2.1
  · rfl

theorem Solid.lineBreak? (h : Solid cs) : lineBreak? cs = none := by
  cases cs with
  | nil => rfl
  | cons y ys => exact lineBreak?_plain (h y rfl).2.2.1 (h y rfl).2.2.2 ys

theorem skipLines_solid (cs : List Char) (h : Solid cs) (n : Nat) : skipLines cs n = cs := by
  cases n with
  | zero => rfl
  | succ n =>
    rw [skipLines, h.skipBlanks, h.skipComment]
    simp only [h.lineBreak?]

theorem skipLines_line (cs : List Char) (n : Nat) : skipLines ('\n' :: cs) (n + 1) = skipLines cs n := rfl

theorem skipLines_item (h : Solid cs) (n : Nat) (hn : 2 ≤ n) : skipLines ("\n    ".toList ++ cs) n = cs := by
  obtain ⟨n, rfl⟩ : ∃ m, n = m + 2 := ⟨n - 2, by omega⟩
  have hskip : skipBlanks (' ' :: ' ' :: ' ' :: ' ' :: cs) = cs := h.skipBlanks
  have htext : "\n    ".toList ++ cs = '\n' :: ' ' :: ' ' :: ' ' :: ' ' :: cs := rfl
  rw [htext, skipLines_line, skipLines, hskip, h.skipComment]
  simp only [h.lineBreak?]

theorem writeString_head (s : String) : ∃ q text, writeString s = q :: text ∧ (q = '"' ∨ q = '\x27') := by
  unfold writeString
  dsimp only
  split
  · exact ⟨_, _, rfl, .inl rfl⟩
  · exact ⟨_, _, rfl, .inr rfl⟩
  · exact ⟨_, _, rfl, .inl rfl⟩
  · exact ⟨_, _, rfl, .inr rfl⟩

theorem solid_writeString (s : String) (rest : List Char) : Solid (writeString s ++ rest) := by
  obtain ⟨q, text, htext, hq⟩ := writeString_head s
  rw [htext]
  rintro y ⟨⟩
  rcases hq with rfl | rfl <;> decide

theorem writeInt_natCast (n : Nat) : writeInt n = Number.decimalDigits n :=
  if_neg (Int.not_lt.2 (Int.natCast_nonneg n))

theorem Flat.solid (h : Flat v) (rest : List Char) : Solid (writeValue v ++ rest) := by
  cases h with
  | string s => exact solid_writeString s rest
  | int n _ =>
    have hspells := Number.spells_decimalDigits n
    rw [writeValue, writeInt_natCast]
    obtain ⟨x, xs, hxs⟩ := List.exists_cons_of_ne_nil hspells.nonempty
    have hx : x.isDigit = true := hspells.isDigit x (by simp [hxs])
    rw [hxs]
    rintro y ⟨⟩
    refine ⟨?_, ne_of_class hx rfl, ne_of_class hx rfl, ne_of_class hx rfl⟩
    simp [isBlank, ne_of_class (y := ' ') hx rfl, ne_of_class (y := '\t') hx rfl]
  | strings ss =>
    have hopen : ∃ cs, writeValue (.array (ss.map .string)) = '[' :: cs := by
      match ss with
      | [] => exact ⟨_, rfl⟩
      | [s] => exact ⟨_, rfl⟩
      | s :: s' :: ss => exact ⟨_, rfl⟩
    obtain ⟨cs, hcs⟩ := hopen
    rw [hcs]
    rintro y ⟨⟩
    decide

theorem value_string (s : String) (hrest : Ends rest) (fuel depth : Nat) :
    value (fuel + 1) depth (writeString s ++ rest) = some (.string s, rest) := by
  have hread := string_written s hrest
  obtain ⟨q, text, htext, hq⟩ := writeString_head s
  rw [htext, List.cons_append] at hread ⊢
  rw [value]
  simp only [if_pos hq, hread]
  rfl

theorem value_int {n : Nat} (hn : n < Nat.pow 2 63) (hrest : Ends rest) (fuel depth : Nat) :
    value (fuel + 1) depth (writeInt n ++ rest) = some (.int n, rest) := by
  have hspells := Number.spells_decimalDigits n
  have hdate := dateTime_none hspells.isDigit hrest
  have hfloat := float_none hspells Number.decimalDigits_zero hrest
  have hint := integer_eq hspells Number.decimalDigits_zero hn hrest
  rw [writeInt_natCast]
  cases hdigits : Number.decimalDigits n with
  | nil => exact absurd hdigits hspells.nonempty
  | cons x xs =>
    have hx : x.isDigit = true := hspells.isDigit x (by simp [hdigits])
    rw [hdigits, List.cons_append] at hdate hfloat hint
    rw [List.cons_append, value, if_neg (not_or.2 ⟨ne_of_class hx rfl, ne_of_class hx rfl⟩),
      if_neg (ne_of_class hx rfl), if_neg (ne_of_class hx rfl), if_neg (ne_of_class hx rfl),
      if_neg (ne_of_class hx rfl), hdate, hfloat, hint]

theorem items_item {text : List Char} {y : Char} (done : List Value)
    (hopen : skipLines cs (cs.length + 1) = text ++ y :: rest) (htext : ∃ z zs, text = z :: zs ∧ z ≠ ']')
    (hvalue : value fuel depth (text ++ y :: rest) = some (v, y :: rest)) :
    (y = ']' → items (fuel + 1) depth done cs = some ((v :: done).reverse, rest)) ∧
      (y = ',' → items (fuel + 1) depth done cs = items fuel depth (v :: done) rest) := by
  obtain ⟨z, zs, rfl, hz⟩ := htext
  have hskip (hy : y = ']' ∨ y = ',') (n : Nat) : skipLines (y :: rest) n = y :: rest := by
    refine skipLines_solid _ ?_ n
    rintro x ⟨⟩
    rcases hy with rfl | rfl <;> decide
  refine ⟨?_, ?_⟩ <;>
  · rintro rfl
    rw [items, hopen]
    split
    next hclose =>
      cases hclose
      exact absurd rfl hz
    next =>
      rw [hvalue]
      simp only [bind, Option.bind, hskip (by decide)]

theorem writeString_opens (s : String) : ∃ y ys, writeString s = y :: ys ∧ y ≠ ']' := by
  obtain ⟨q, text, htext, hq⟩ := writeString_head s
  refine ⟨q, text, htext, ?_⟩
  rcases hq with rfl | rfl <;> decide

theorem items_strings (ss : List String) (done : List Value) (hfuel : ss.length < fuel) :
    items fuel depth done (writeItems (ss.map .string) ++ '\n' :: ']' :: rest) =
      some (done.reverse ++ ss.map .string, rest) := by
  -- On the strings, while those that were read gather in `done`.
  induction ss generalizing done fuel with
  | nil =>
    obtain ⟨fuel, rfl⟩ := Nat.exists_eq_succ_of_ne_zero (Nat.ne_of_gt (Nat.zero_lt_of_lt hfuel))
    have hskip : skipLines ('\n' :: ']' :: rest) (rest.length + 3) = ']' :: rest :=
      skipLines_solid (']' :: rest) (by rintro y ⟨⟩; decide) _
    rw [List.map_nil, writeItems, List.nil_append, items, List.length_cons, List.length_cons, hskip]
    simp
  | cons s ss ih =>
    rw [List.length_cons] at hfuel
    obtain ⟨fuel, rfl⟩ : ∃ n, fuel = n + 2 := ⟨fuel - 2, by omega⟩
    obtain ⟨more, hmore⟩ : ∃ more, more = writeItems (ss.map .string) ++ '\n' :: ']' :: rest := ⟨_, rfl⟩
    have htext : writeItems ((s :: ss).map .string) ++ '\n' :: ']' :: rest =
        "\n    ".toList ++ (writeString s ++ ',' :: more) := by
      rw [hmore, List.map_cons, writeItems, writeValue]
      simp
    have hopen : skipLines ("\n    ".toList ++ (writeString s ++ ',' :: more))
        (("\n    ".toList ++ (writeString s ++ ',' :: more)).length + 1) = writeString s ++ ',' :: more :=
      skipLines_item (solid_writeString s _) _ (by simp)
    have hvalue : value (fuel + 1) depth (writeString s ++ ',' :: more) = some (.string s, ',' :: more) :=
      value_string s (by rintro y ⟨⟩; exact .inr (.inl rfl)) fuel depth
    have hitem := (items_item done hopen (writeString_opens s) hvalue).2 rfl
    have hrest := ih (.string s :: done) (by omega : ss.length < fuel + 1)
    rw [htext, hitem, hmore, hrest]
    simp

theorem value_array (hdepth : 0 < depth) (fuel : Nat) (cs : List Char) :
    value (fuel + 1) depth ('[' :: cs) = (items fuel (depth - 1) [] cs).map fun (vs, rest) ↦ (.array vs, rest) := by
  rw [value, if_neg (by decide), if_pos rfl, if_neg (Nat.ne_of_gt hdepth)]

theorem length_writeItems (ss : List String) : ss.length ≤ (writeItems (ss.map .string)).length := by
  induction ss with
  | nil => exact Nat.le_refl _
  | cons s ss ih =>
    rw [List.map_cons, writeItems]
    simp only [List.length_append, List.length_cons]
    omega

/-- An array is read as itself, whether it has no item, one on its line, or several on lines of their own. -/
theorem value_strings (ss : List String) (hdepth : 0 < depth)
    (hfuel : (writeValue (.array (ss.map .string))).length ≤ fuel) :
    value fuel depth (writeValue (.array (ss.map .string)) ++ rest) = some (.array (ss.map .string), rest) := by
  match ss with
  | [] =>
    obtain ⟨fuel, rfl⟩ : ∃ n, fuel = n + 2 := ⟨fuel - 2, by simp [writeValue] at hfuel; omega⟩
    rw [List.map_nil, writeValue, List.cons_append, value_array hdepth, items]
    rfl
  | [s] =>
    have hwritten : writeValue (.array [.string s]) ++ rest = '[' :: (writeString s ++ ']' :: rest) := by
      simp [writeValue]
    have hlength : 3 ≤ (writeValue (.array [.string s])).length := by
      obtain ⟨y, ys, hs, -⟩ := writeString_opens s
      simp [writeValue, hs]
    obtain ⟨fuel, rfl⟩ : ∃ n, fuel = n + 3 := ⟨fuel - 3, by simp only [List.map] at hfuel; omega⟩
    have hopen := skipLines_solid (writeString s ++ ']' :: rest) (solid_writeString s _)
    have hvalue : value (fuel + 1) (depth - 1) (writeString s ++ ']' :: rest) = some (.string s, ']' :: rest) :=
      value_string s (by rintro y ⟨⟩; exact .inr (.inr rfl)) fuel (depth - 1)
    have hitem := (items_item [] (hopen _) (writeString_opens s) hvalue).1 rfl
    rw [List.map_cons, List.map_nil, hwritten, value_array hdepth, hitem]
    rfl
  | s :: s' :: ss =>
    have hwritten : writeValue (.array ((s :: s' :: ss).map .string)) =
        '[' :: writeItems ((s :: s' :: ss).map .string) ++ ['\n', ']'] := by
      simp [writeValue]
    have hlength := length_writeItems (s :: s' :: ss)
    rw [hwritten] at hfuel ⊢
    obtain ⟨fuel, rfl⟩ : ∃ n, fuel = n + 1 := ⟨fuel - 1, by simp at hfuel; omega⟩
    have hitems : items fuel (depth - 1) [] (writeItems ((s :: s' :: ss).map .string) ++ '\n' :: ']' :: rest) =
        some ([] ++ (s :: s' :: ss).map .string, rest) := by
      refine items_strings (s :: s' :: ss) [] ?_
      simp only [List.length_append, List.length_cons] at hfuel hlength ⊢
      omega
    rw [List.cons_append, List.cons_append, value_array hdepth, List.append_assoc, List.cons_append, List.cons_append,
      List.nil_append, hitems]
    rfl

/-- A value is read as itself. -/
theorem value_written (hv : Flat v) (hrest : Ends rest) (hdepth : 0 < depth) (hfuel : (writeValue v).length ≤ fuel) :
    value fuel depth (writeValue v ++ rest) = some (v, rest) := by
  cases hv with
  | string s =>
    obtain ⟨y, ys, hs, -⟩ := writeString_opens s
    obtain ⟨fuel, rfl⟩ : ∃ n, fuel = n + 1 := ⟨fuel - 1, by simp [writeValue, hs] at hfuel; omega⟩
    exact value_string s hrest fuel depth
  | int n hn =>
    have hlength : 0 < (writeInt n).length := by
      rw [writeInt_natCast]
      exact List.length_pos_of_ne_nil (Number.spells_decimalDigits n).nonempty
    obtain ⟨fuel, rfl⟩ : ∃ n, fuel = n + 1 := ⟨fuel - 1, by simp only [writeValue] at hfuel; omega⟩
    exact value_int hn hrest fuel depth
  | strings ss => exact value_strings ss hdepth hfuel

end Values

section Keys

def bare (k : String) : Bool := !k.toList.isEmpty && k.toList.all isKeyChar

def pathText : List String → List Char
  | [] => []
  | k :: ks => k.toList ++ ks.flatMap fun k ↦ '.' :: k.toList

theorem pathText_concat {path : List String} (h : path ≠ []) (k : String) :
    pathText (path ++ [k]) = pathText path ++ '.' :: k.toList := by
  cases path with
  | nil => exact absurd rfl h
  | cons k' ks => simp [pathText]

theorem length_pathText (k : String) (ks : List String) : ks.length ≤ (pathText (k :: ks)).length := by
  induction ks with
  | nil => exact Nat.zero_le _
  | cons k' ks ih =>
    simp only [pathText, List.flatMap_cons, List.length_append, List.length_cons] at ih ⊢
    omega

theorem bare_cons (h : bare k = true) :
    ∃ x xs, k.toList = x :: xs ∧ isKeyChar x = true ∧ ∀ y ∈ xs, isKeyChar y = true := by
  simp only [bare, Bool.and_eq_true, List.all_eq_true, Bool.not_eq_true', List.isEmpty_eq_false_iff] at h
  obtain ⟨hne, hall⟩ := h
  cases hk : k.toList with
  | nil => exact absurd hk hne
  | cons x xs =>
    rw [hk] at hall
    exact ⟨x, xs, rfl, hall x (by simp), fun y hy ↦ hall y (by simp [hy])⟩

theorem isKeyChar_plain {x : Char} (h : isKeyChar x = true) : isBlank x = false := by
  simp [isBlank, ne_of_class (y := ' ') h rfl, ne_of_class (y := '\t') h rfl]

theorem solid_key (h : bare k = true) (rest : List Char) : Solid (k.toList ++ rest) := by
  obtain ⟨x, xs, hk, hx, -⟩ := bare_cons h
  rw [hk]
  rintro y ⟨⟩
  exact ⟨isKeyChar_plain hx, ne_of_class hx rfl, ne_of_class hx rfl, ne_of_class hx rfl⟩

theorem simpleKey_bare (h : bare k = true) (hrest : ∀ y ∈ rest.head?, isKeyChar y = false) :
    simpleKey (k.toList ++ rest) = some (k, rest) := by
  obtain ⟨x, xs, hk, hx, hxs⟩ := bare_cons h
  have htake : (x :: xs ++ rest).takeWhile isKeyChar = x :: xs := Number.takeWhile_run (by simpa [hx] using hxs) hrest
  rw [hk, List.cons_append]
  unfold simpleKey
  split
  next heq =>
    cases heq
    cases hx
  next heq =>
    cases heq
    cases hx
  · rw [List.cons_append] at htake
    simp only [htake, List.isEmpty_cons, Bool.false_eq_true, if_false]
    rw [← List.cons_append, List.drop_left, ← hk, String.ofList_toList]

theorem skipBlanks_key (h : bare k = true) (rest : List Char) : skipBlanks (k.toList ++ rest) = k.toList ++ rest :=
  (solid_key h rest).skipBlanks

theorem key_path {ks : List String} (done : List String) (h : bare k = true) (hks : ∀ k ∈ ks, bare k = true)
    (hrest : ∀ y ∈ rest.head?, isKeyChar y = false) (hdot : ∀ y ∈ (skipBlanks rest).head?, y ≠ '.')
    (hfuel : ks.length < fuel) :
    key done (pathText (k :: ks) ++ rest) fuel = some (done.reverse ++ k :: ks, skipBlanks rest) := by
  obtain ⟨fuel, rfl⟩ := Nat.exists_eq_succ_of_ne_zero (Nat.ne_of_gt (Nat.zero_lt_of_lt hfuel))
  induction ks generalizing k done fuel with
  | nil =>
    have htext : pathText [k] ++ rest = k.toList ++ rest := by simp [pathText]
    rw [htext, key, skipBlanks_key h, simpleKey_bare h hrest]
    simp only [bind, Option.bind]
    split
    next hblanks =>
      rw [hblanks] at hdot
      exact absurd rfl (hdot '.' rfl)
    next => simp [pure]
  | cons k' ks ih =>
    obtain ⟨fuel, rfl⟩ : ∃ n, fuel = n + 1 := ⟨fuel - 1, by simp at hfuel; omega⟩
    have htext : pathText (k :: k' :: ks) ++ rest = k.toList ++ '.' :: (pathText (k' :: ks) ++ rest) := by
      simp [pathText]
    have hsimple : simpleKey (k.toList ++ '.' :: (pathText (k' :: ks) ++ rest)) =
        some (k, '.' :: (pathText (k' :: ks) ++ rest)) := simpleKey_bare h (by rintro y ⟨⟩; decide)
    have ih := ih (k :: done) (hks k' (by simp)) (fun k hk ↦ hks k (by simp [hk])) fuel (by simp at hfuel ⊢; omega)
    rw [htext, key, skipBlanks_key h, hsimple]
    simp only [bind, Option.bind]
    rw [show skipBlanks ('.' :: (pathText (k' :: ks) ++ rest)) = '.' :: (pathText (k' :: ks) ++ rest) from rfl]
    simpa using ih

end Keys

section Lines

open Members

variable {ms ms' ms'' : Members} {opened opened' opened'' path : List String} {cs' cs'' : List Char}

/-- Reading some lines leads from one state of a document to another, with no more steps than the lines have
characters. -/
def Reads (ms : Members) (opened : List String) (cs : List Char) (ms' : Members) (opened' : List String)
    (cs' : List Char) : Prop :=
  ∃ n, n + cs'.length ≤ cs.length ∧ ∀ fuel, document ms opened cs (fuel + n) = document ms' opened' cs' fuel

theorem Reads.refl (ms : Members) (opened : List String) (cs : List Char) : Reads ms opened cs ms opened cs :=
  ⟨0, by omega, fun _ ↦ rfl⟩

theorem Reads.trans (h : Reads ms opened cs ms' opened' cs') (h' : Reads ms' opened' cs' ms'' opened'' cs'') :
    Reads ms opened cs ms'' opened'' cs'' := by
  obtain ⟨n, hn, hread⟩ := h
  obtain ⟨n', hn', hread'⟩ := h'
  refine ⟨n' + n, by omega, fun fuel ↦ ?_⟩
  rw [← Nat.add_assoc, hread, hread']

theorem Reads.parse (h : Reads [] [] cs ms' opened' []) : document [] [] cs (cs.length + 1) = some ms' := by
  obtain ⟨n, hn, hread⟩ := h
  obtain ⟨fuel, hfuel⟩ : ∃ fuel, cs.length + 1 = fuel + 1 + n := ⟨cs.length - n, by simp at hn; omega⟩
  rw [hfuel, hread]
  rfl

theorem reads_blank (ms : Members) (opened : List String) (cs : List Char) :
    Reads ms opened ('\n' :: cs) ms opened cs :=
  ⟨1, by simp; omega, fun fuel ↦ rfl⟩

theorem endLine?_break (cs : List Char) : endLine? ('\n' :: cs) = some cs := rfl

theorem path_short (k : String) : [k].length < depthLimit := by
  rw [List.length_singleton]
  decide

theorem document_pair {x : Char} {xs after after' : List Char} (hsolid : Solid (x :: xs)) (hx : x ≠ '[')
    (hkey : key [] (x :: xs) (xs.length + 2) = some (path, '=' :: after)) (hpath : path.length < depthLimit)
    (hvalue : value (2 * (skipBlanks after).length + 2) (depthLimit - 1) (skipBlanks after) = some (v, after'))
    (hadd : addUnder ms opened path v = some ms') (hend : endLine? after' = some cs') (fuel : Nat) :
    document ms opened (x :: xs) (fuel + 1) = document ms' opened cs' fuel := by
  have hline : ¬(x = '#' ∨ (lineBreak? (x :: xs)).isSome = true) := by
    rw [hsolid.lineBreak?]
    simpa using (hsolid x rfl).2.1
  rw [document, hsolid.skipBlanks]
  split
  next heq => cases heq
  next heq =>
    cases heq
    exact absurd rfl hx
  next heq =>
    cases heq
    exact absurd rfl hx
  next heq =>
    cases heq
    rw [if_neg hline, hkey]
    have hmark : mark '=' ('=' :: after) = some after := rfl
    simp only [bind, Option.bind, if_neg (Nat.not_le.2 hpath), hmark, hvalue, hadd, hend]

theorem reads_pair (hk : bare k = true) (hv : Flat v) (h : Added ms opened [(k, .value v)] ms') (cs : List Char) :
    Reads ms opened (k.toList ++ " = ".toList ++ writeValue v ++ '\n' :: cs) ms' opened cs := by
  obtain ⟨x, xs, htext, hx, -⟩ := bare_cons hk
  obtain ⟨rest, hrest⟩ : ∃ rest, rest = writeValue v ++ '\n' :: cs := ⟨_, rfl⟩
  have hline : k.toList ++ " = ".toList ++ writeValue v ++ '\n' :: cs = x :: (xs ++ " = ".toList ++ rest) := by
    rw [htext, hrest]
    simp
  have hsolid : Solid (x :: (xs ++ " = ".toList ++ rest)) := by
    have hsolid := solid_key hk (" = ".toList ++ rest)
    rwa [htext] at hsolid
  have hblank : skipBlanks (' ' :: rest) = rest := by
    rw [hrest]
    exact (hv.solid _).skipBlanks
  have hkey : key [] (x :: (xs ++ " = ".toList ++ rest)) ((xs ++ " = ".toList ++ rest).length + 2) =
      some ([k], '=' :: ' ' :: rest) := by
    have hpath : x :: (xs ++ " = ".toList ++ rest) = pathText [k] ++ (" = ".toList ++ rest) := by
      simp [pathText, htext]
    rw [hpath]
    exact key_path [] hk nofun (by rintro y ⟨⟩; decide) (by rintro y ⟨⟩; decide) (Nat.succ_pos _)
  have hvalue : value (2 * (skipBlanks (' ' :: rest)).length + 2) (depthLimit - 1) (skipBlanks (' ' :: rest)) =
      some (v, '\n' :: cs) := by
    rw [hblank, hrest]
    exact value_written hv (by rintro y ⟨⟩; exact .inl rfl) (by decide) (by simp; omega)
  refine ⟨1, by simp; omega, fun fuel ↦ ?_⟩
  rw [hline, document_pair hsolid (ne_of_class hx rfl) hkey (path_short k) hvalue h.addUnder (endLine?_break cs)]

theorem reads_header (hpath : ∀ k ∈ path, bare k = true) (hne : path ≠ []) (hlength : path.length < depthLimit)
    (h : openTable ms path = some ms') (opened : List String) (cs : List Char) :
    Reads ms opened ('[' :: pathText path ++ [']', '\n'] ++ cs) ms' path cs := by
  obtain ⟨k, ks, rfl⟩ := List.exists_cons_of_ne_nil hne
  obtain ⟨x, xs, htext, hx, -⟩ := bare_cons (hpath k (by simp))
  have hline : '[' :: pathText (k :: ks) ++ [']', '\n'] ++ cs = '[' :: (pathText (k :: ks) ++ ']' :: '\n' :: cs) := by
    simp
  have hfirst : pathText (k :: ks) ++ ']' :: '\n' :: cs =
      x :: (xs ++ ks.flatMap (fun k ↦ '.' :: k.toList) ++ ']' :: '\n' :: cs) := by
    simp [pathText, htext]
  have hkey : key [] (pathText (k :: ks) ++ ']' :: '\n' :: cs)
      ((pathText (k :: ks) ++ ']' :: '\n' :: cs).length + 1) = some (k :: ks, ']' :: '\n' :: cs) := by
    have hlength := length_pathText k ks
    refine key_path [] (hpath k (by simp)) (fun k' hk' ↦ hpath k' (by simp [hk'])) (by rintro y ⟨⟩; decide)
      (by rintro y ⟨⟩; decide) ?_
    rw [List.length_append]
    omega
  have hmark : mark ']' (']' :: '\n' :: cs) = some ('\n' :: cs) := rfl
  refine ⟨1, by simp; omega, fun fuel ↦ ?_⟩
  rw [hline, document]
  have hblank : skipBlanks ('[' :: (pathText (k :: ks) ++ ']' :: '\n' :: cs)) =
      '[' :: (pathText (k :: ks) ++ ']' :: '\n' :: cs) := rfl
  rw [hblank]
  split
  next heq => cases heq
  next heq =>
    rw [hfirst] at heq
    cases heq
    cases hx
  next heq =>
    cases heq
    rw [hkey]
    simp only [bind, Option.bind, if_neg (Nat.not_le.2 hlength), hmark, h, endLine?_break]
  next _ hne heq =>
    cases heq
    exact (hne rfl).elim

end Lines

section Tables

open Members

mutual

/-- How a value stands in the tree once its document has been read. Only a table with values of its own has been
given a header. -/
def nodeOf : Value → Node
  | .table ms => .table (if (writePairs ms).isEmpty then .header else .named) (nodesOf ms)
  | v => .value v

def nodesOf : List (String × Value) → Members
  | [] => []
  | (k, v) :: ms => (k, nodeOf v) :: nodesOf ms

end

mutual

theorem toValue_nodeOf : (v : Value) → (nodeOf v).toValue = v
  | .table ms => by rw [nodeOf, Node.toValue, membersToValue_nodesOf ms]
  | .string _ | .int _ | .float _ | .bool _ | .dateTime | .array _ => rfl

theorem membersToValue_nodesOf : (ms : List (String × Value)) → membersToValue (nodesOf ms) = ms
  | [] => rfl
  | (k, v) :: ms => by rw [nodesOf, membersToValue, toValue_nodeOf v, membersToValue_nodesOf ms]

end

variable {pairs tables ms more : List (String × Value)} {n : Nat}

theorem nodesOf_append : nodesOf (ms ++ more) = nodesOf ms ++ nodesOf more := by
  induction ms with
  | nil => rfl
  | cons m ms ih => rw [List.cons_append, nodesOf, nodesOf, ih, List.cons_append]

theorem keys_nodesOf : (nodesOf ms).map (·.1) = ms.map (·.1) := by
  induction ms with
  | nil => rfl
  | cons m ms ih => rw [nodesOf, List.map_cons, List.map_cons, ih]

def Pairs (pairs : List (String × Value)) : Prop := ∀ m ∈ pairs, bare m.1 = true ∧ Flat m.2

/-- Tables at most `n` deep, each with something in it, and first with values and then with tables. -/
inductive Tables : Nat → List (String × Value) → Prop
  | nil (n : Nat) : Tables n []
  | cons {n : Nat} {k : String} {pairs tables rest : List (String × Value)} (hk : bare k = true) (hpairs : Pairs pairs)
      (htables : Tables n tables) (hne : pairs ++ tables ≠ []) (hkeys : ((pairs ++ tables).map (·.1)).Nodup)
      (hrest : Tables (n + 1) rest) : Tables (n + 1) ((k, .table (pairs ++ tables)) :: rest)

theorem Flat.nodeOf (h : Flat v) : nodeOf v = .value v := by
  cases h <;> rfl

theorem writePairs_flat (h : Flat v) (k : String) (ms : List (String × Value)) :
    writePairs ((k, v) :: ms) = k.toList ++ " = ".toList ++ writeValue v ++ '\n' :: writePairs ms := by
  cases h <;> rfl

theorem Tables.writePairs (h : Tables n tables) : writePairs tables = [] := by
  induction h with
  | nil n => rfl
  | cons hk hpairs htables hne hkeys hrest _ ih =>
    rw [Toml.writePairs]
    exact ih

theorem Pairs.writePairs (h : Pairs pairs) (htables : Tables n tables) :
    Toml.writePairs (pairs ++ tables) = Toml.writePairs pairs := by
  induction pairs with
  | nil => exact htables.writePairs
  | cons m pairs ih =>
    have hflat := (h m (by simp)).2
    rw [List.cons_append, writePairs_flat hflat, writePairs_flat hflat, ih fun m hm ↦ h m (by simp [hm])]

theorem Pairs.nonempty (h : Pairs pairs) : (Toml.writePairs pairs).isEmpty = true ↔ pairs = [] := by
  cases pairs with
  | nil => exact ⟨fun _ ↦ rfl, fun _ ↦ rfl⟩
  | cons m pairs =>
    rw [writePairs_flat (h m (by simp)).2]
    simp

theorem Tables.writeTables (h : Tables n tables) (path : String) :
    Toml.writeTables path tables = tables.flatMap fun m ↦ writeTable (path ++ "." ++ m.1) m.2 := by
  induction h with
  | nil n => rfl
  | cons hk hpairs htables hne hkeys hrest _ ih =>
    rw [Toml.writeTables, ih]
    rfl

theorem Pairs.writeTables (h : Pairs pairs) (path : String) :
    Toml.writeTables path (pairs ++ tables) = Toml.writeTables path tables := by
  induction pairs with
  | nil => rfl
  | cons m pairs ih =>
    obtain ⟨k, v⟩ := m
    have ih := ih fun m hm ↦ h m (by simp [hm])
    cases (h (k, v) (by simp)).2 <;> exact ih

variable {doc doc' doc'' : Members} {opened path : List String}

theorem Pairs.reads (h : Pairs pairs) (hadd : Added doc opened (nodesOf pairs) doc') (cs : List Char) :
    Reads doc opened (Toml.writePairs pairs ++ cs) doc' opened cs := by
  induction pairs generalizing doc with
  | nil =>
    cases hadd
    exact .refl ..
  | cons m pairs ih =>
    obtain ⟨k, v⟩ := m
    obtain ⟨hk, hv⟩ := h (k, v) (by simp)
    have hnodes : nodesOf ((k, v) :: pairs) = [(k, .value v)] ++ nodesOf pairs := by
      rw [nodesOf, hv.nodeOf]
      rfl
    rw [hnodes] at hadd
    obtain ⟨doc₁, hfirst, hrest⟩ := hadd.append
    have hline := reads_pair hk hv hfirst (Toml.writePairs pairs ++ cs)
    have htext : Toml.writePairs ((k, v) :: pairs) ++ cs =
        k.toList ++ " = ".toList ++ writeValue v ++ '\n' :: (Toml.writePairs pairs ++ cs) := by
      rw [writePairs_flat hv]
      simp
    rw [htext]
    exact hline.trans (ih (fun m hm ↦ h m (by simp [hm])) hrest)

def spaced (first : Bool) : List (List Char) → List Char
  | [] => []
  | text :: texts => (if first then text else '\n' :: text) ++ spaced false texts

theorem spaced_eq (texts : List (List Char)) : spaced true texts = ['\n'].intercalate texts := by
  cases texts with
  | nil => rfl
  | cons text texts =>
    induction texts generalizing text with
    | nil => simp [spaced]
    | cons text' texts ih =>
      rw [List.intercalate_cons_cons, ← ih text']
      simp [spaced]

/-- Reading blocks adds to a document, whatever header stands before them and whatever blocks come after. -/
def ReadsBlocks (doc : Members) (texts : List (List Char)) (doc' : Members) : Prop :=
  ∀ (opened : List String) (first : Bool) (more : List (List Char)), ∃ opened' first',
    Reads doc opened (spaced first (texts ++ more)) doc' opened' (spaced first' more)

theorem ReadsBlocks.nil (doc : Members) : ReadsBlocks doc [] doc := fun opened first _ ↦ ⟨opened, first, .refl ..⟩

theorem ReadsBlocks.append {texts texts' : List (List Char)} (h : ReadsBlocks doc texts doc')
    (h' : ReadsBlocks doc' texts' doc'') : ReadsBlocks doc (texts ++ texts') doc'' := by
  intro opened first more
  obtain ⟨opened', first', hreads⟩ := h opened first (texts' ++ more)
  obtain ⟨opened'', first'', hreads'⟩ := h' opened' first' more
  rw [List.append_assoc]
  exact ⟨opened'', first'', hreads.trans hreads'⟩

theorem ReadsBlocks.block (hpath : ∀ k ∈ path, bare k = true) (hne : path ≠ []) (hlength : path.length < depthLimit)
    (hopen : openTable doc path = some doc') (hpairs : Pairs pairs)
    (hadd : Added doc' path (nodesOf pairs) doc'') :
    ReadsBlocks doc ['[' :: pathText path ++ [']', '\n'] ++ writePairs pairs] doc'' := by
  intro opened first more
  have hblank : Reads doc opened (spaced first (['[' :: pathText path ++ [']', '\n'] ++ writePairs pairs] ++ more))
      doc opened ('[' :: pathText path ++ [']', '\n'] ++ (writePairs pairs ++ spaced false more)) := by
    rw [← List.append_assoc]
    cases first with
    | true => exact .refl ..
    | false => exact reads_blank ..
  have hheader := reads_header hpath hne hlength hopen opened (writePairs pairs ++ spaced false more)
  exact ⟨path, false, (hblank.trans hheader).trans (hpairs.reads hadd _)⟩

theorem ReadsBlocks.table {k name : String} (hpath : ∀ k' ∈ path ++ [k], bare k' = true)
    (hname : name.toList = pathText (path ++ [k])) (hlength : (path ++ [k]).length < depthLimit) (hpairs : Pairs pairs)
    (htables : Tables n tables) (hne : pairs ++ tables ≠ []) (hkeys : ((pairs ++ tables).map (·.1)).Nodup)
    (hadd : Added doc path [(k, nodeOf (.table (pairs ++ tables)))] doc')
    (hinner : ∀ {doc : Members}, Added doc (path ++ [k]) (nodesOf tables) doc' →
      ReadsBlocks doc (tables.flatMap fun m ↦ writeTable (name ++ "." ++ m.1) m.2) doc') :
    ReadsBlocks doc (writeTable name (.table (pairs ++ tables))) doc' := by
  have hnew : nodesOf (pairs ++ tables) ≠ [] := by
    intro hnil
    have hnokeys : (nodesOf (pairs ++ tables)).map (·.1) = (pairs ++ tables).map (·.1) := keys_nodesOf
    rw [hnil, List.map_nil] at hnokeys
    exact hne (List.map_eq_nil_iff.1 hnokeys.symm)
  rw [← keys_nodesOf] at hkeys
  rw [nodeOf, hpairs.writePairs htables] at hadd
  rw [writeTable, hpairs.writePairs htables, hpairs.writeTables, htables.writeTables]
  by_cases hpairs' : pairs = []
  · subst hpairs'
    exact hinner (hadd.enter hnew hkeys)
  · have hown' : (Toml.writePairs pairs).isEmpty = false := by
      rw [Bool.eq_false_iff, Ne, hpairs.nonempty]
      exact hpairs'
    rw [hown'] at hadd
    obtain ⟨doc₁, hopen, hmembers⟩ := hadd.open hnew hkeys
    rw [nodesOf_append] at hmembers
    obtain ⟨doc₂, hown, hrest⟩ := hmembers.append
    have hblock := ReadsBlocks.block hpath (by simp) hlength hopen hpairs hown
    rw [hname, hown']
    exact hblock.append (hinner hrest)

/-- The tables of a document are read into the table that holds them, which stands under `path`. -/
theorem Tables.reads (h : Tables n tables) (sub : String → String) (hpath : ∀ k ∈ path, bare k = true)
    (hsub : ∀ k, (sub k).toList = pathText (path ++ [k])) (hdepth : path.length + n < depthLimit)
    (hadd : Added doc path (nodesOf tables) doc') :
    ReadsBlocks doc (tables.flatMap fun m ↦ writeTable (sub m.1) m.2) doc' := by
  induction h generalizing path sub doc doc' with
  | nil n =>
    cases hadd
    exact .nil doc
  | @cons n k pairs tables rest hk hpairs htables hne hkeys hrest ihtables ihrest =>
    have hnodes : nodesOf ((k, .table (pairs ++ tables)) :: rest) =
        [(k, nodeOf (.table (pairs ++ tables)))] ++ nodesOf rest := rfl
    rw [hnodes] at hadd
    obtain ⟨doc₁, hfirst, hlast⟩ := hadd.append
    have hbare : ∀ k' ∈ path ++ [k], bare k' = true := by
      simp only [List.forall_mem_append, List.forall_mem_singleton]
      exact ⟨hpath, hk⟩
    have hsub' (k' : String) : (sub k ++ "." ++ k').toList = pathText (path ++ [k] ++ [k']) := by
      rw [pathText_concat (by simp), ← hsub]
      simp
    have hlength : (path ++ [k]).length + n < depthLimit := by
      rw [List.length_append, List.length_singleton]
      omega
    have htable := ReadsBlocks.table hbare (hsub k) (by omega) hpairs htables hne hkeys hfirst
      (fun hadd ↦ ihtables _ hbare hsub' hlength hadd)
    exact htable.append (ihrest sub hpath hsub hdepth hlast)

mutual

theorem head_writeTable (path : String) : (v : Value) → ∀ text ∈ writeTable path v, text.head? = some '['
  | .table ms => by
    rw [writeTable, List.forall_mem_append]
    refine ⟨?_, head_writeTables path ms⟩
    split
    · nofun
    · simp
  | .string _ | .int _ | .float _ | .bool _ | .dateTime | .array _ => nofun

theorem head_writeTables (path : String) :
    (ms : List (String × Value)) → ∀ text ∈ writeTables path ms, text.head? = some '['
  | [] => nofun
  | (k, .table ms) :: rest => by
    rw [Toml.writeTables, List.forall_mem_append]
    exact ⟨head_writeTable _ (.table ms), head_writeTables path rest⟩
  | (_, .string _) :: rest | (_, .int _) :: rest | (_, .float _) :: rest | (_, .bool _) :: rest |
    (_, .dateTime) :: rest | (_, .array _) :: rest => head_writeTables path rest

end

theorem head_spaced {texts : List (List Char)} (h : ∀ text ∈ texts, text.head? = some '[') :
    ∀ y ∈ (spaced true texts).head?, y = '[' := by
  cases texts with
  | nil => nofun
  | cons text texts =>
    have hhead := h text (by simp)
    intro y hy
    rw [spaced, if_pos rfl, List.head?_append, hhead] at hy
    exact (Option.some.inj hy).symm

/-- A document that was written is read as the tables that were written. -/
theorem parse_writeDocument (h : Tables n tables) (hkeys : (tables.map (·.1)).Nodup) (hdepth : n < depthLimit) :
    parse (writeDocument tables) = some tables := by
  obtain ⟨texts, htexts⟩ : ∃ texts, texts = tables.flatMap fun m ↦ writeTable m.1 m.2 := ⟨_, rfl⟩
  have htext : (writeDocument tables).toList = spaced true texts := by
    rw [writeDocument, String.toList_ofList, spaced_eq, htexts]
  have hmark : (spaced true texts).head? ≠ some (Char.ofNat 0xFEFF) := by
    intro hhead
    have hall : ∀ text ∈ texts, text.head? = some '[' := by
      intro text hmem
      rw [htexts, List.mem_flatMap] at hmem
      obtain ⟨m, -, hmem⟩ := hmem
      exact head_writeTable _ _ _ hmem
    exact absurd (head_spaced hall _ hhead) (by decide)
  have hadd : Added [] [] (nodesOf tables) (nodesOf tables) := .whole (by rwa [keys_nodesOf])
  have hblocks : ReadsBlocks [] texts (nodesOf tables) := by
    rw [htexts]
    refine h.reads id (List.forall_mem_nil _) ?_ ?_ hadd
    · intro k
      simp [pathText]
    · simpa using hdepth
  obtain ⟨opened, first, hreads⟩ := hblocks [] true []
  rw [List.append_nil] at hreads
  rw [parse, htext]
  rw [if_neg hmark, hreads.parse, Option.map_some, membersToValue_nodesOf]

end Tables

end CodeRepair.Toml
