import CodeRepair.Proofs.Fix.Packaging
import CodeRepair.Proofs.Text.Utf8

/-!
What the brace scanner cuts out, told without the scanner: the shortest piece in which as many braces are closed as are
opened, strings apart. The depth that it keeps is the number of braces left open, so it closes no brace that is not
open.
-/
namespace CodeRepair.Reply

open Json Text

variable {s s' : Scan} {c : Char} {cs q content front rest object tail : List Char} {start : Nat}

section Bytes

/-- The text from a byte on. None when a character goes over that place or the text ends before it. -/
def dropBytes? : List Char → Nat → Option (List Char)
  | cs, 0 => some cs
  | [], _ + 1 => none
  | c :: cs, n + 1 => if Utf8.width c ≤ n + 1 then dropBytes? cs (n + 1 - Utf8.width c) else none

/-- The balanced object that opens at a byte of a text. -/
def balancedAt (content : List Char) (start : Nat) : Option (List Char) :=
  (dropBytes? content start).bind balancedObject

theorem dropBytes?_append (front rest : List Char) : dropBytes? (front ++ rest) (Utf8.size front) = some rest := by
  induction front with
  | nil => simp [Utf8.size, dropBytes?]
  | cons c front ih =>
    obtain ⟨n, hn⟩ := Nat.exists_eq_add_one_of_ne_zero (Utf8.width_pos c).ne'
    have hsize : Utf8.size (c :: front) = n + Utf8.size front + 1 := by rw [Utf8.size, hn, Nat.add_right_comm]
    have hleft : n + Utf8.size front + 1 - Utf8.width c = Utf8.size front := by omega
    rw [List.cons_append, hsize, dropBytes?, if_pos (by omega), hleft, ih]

theorem dropBytes?_eq_some (h : dropBytes? content start = some rest) :
    ∃ front, content = front ++ rest ∧ Utf8.size front = start := by
  induction content generalizing start with
  | nil =>
    cases start with
    | zero =>
      cases h
      exact ⟨[], rfl, rfl⟩
    | succ n => cases h
  | cons c cs ih =>
    cases start with
    | zero =>
      cases h
      exact ⟨[], rfl, rfl⟩
    | succ n =>
      rw [dropBytes?] at h
      split at h
      next hle =>
        obtain ⟨front, rfl, hsize⟩ := ih h
        exact ⟨c :: front, rfl, by rw [Utf8.size, hsize, Nat.add_sub_cancel' hle]⟩
      · cases h

theorem dropBytes?_add (h : dropBytes? content start = some (object ++ rest)) :
    dropBytes? content (start + Utf8.size object) = some rest := by
  obtain ⟨front, rfl, rfl⟩ := dropBytes?_eq_some h
  rw [← Utf8.size_append, ← List.append_assoc]
  exact dropBytes?_append _ rest

end Bytes

section Depth

mutual

/-- The characters of a text that stand outside strings. -/
def unquoted : List Char → List Char
  | [] => []
  | c :: cs => if c = '"' then afterQuote cs else c :: unquoted cs

def afterQuote : List Char → List Char
  | [] => []
  | c :: cs => if c = '"' then unquoted cs else if c = '\\' then afterSlash cs else afterQuote cs

def afterSlash : List Char → List Char
  | [] => []
  | _ :: cs => afterQuote cs

end

def braces (cs : List Char) : Int := cs.count '\x7b' - cs.count '\x7d'

/-- The brace depth at the end of a text, strings apart. -/
def depth (cs : List Char) : Int := braces (unquoted cs)

/-- A text that is not empty and leaves no brace open. -/
def Closed (q : List Char) : Prop := q ≠ [] ∧ depth q = 0

/-- The characters outside strings of what is still to be read. -/
def Scan.ahead (s : Scan) (cs : List Char) : List Char :=
  if s.inString then if s.escaped then afterSlash cs else afterQuote cs else unquoted cs

def Scan.depthAfter (s : Scan) (cs : List Char) : Int := s.depth + braces (s.ahead cs)

def Scan.Proper (s : Scan) : Prop := s.escaped = true → s.inString = true

open Scan

theorem braces_cons (c : Char) (cs : List Char) :
    braces (c :: cs) = braces cs + (if c = '\x7b' then 1 else if c = '\x7d' then -1 else 0) := by
  simp only [braces, List.count_cons]
  split_ifs <;> simp_all <;> omega

theorem depthAfter_nil (s : Scan) : s.depthAfter [] = s.depth := by
  have hahead : s.ahead [] = [] := by simp [ahead, unquoted, afterQuote, afterSlash]
  rw [depthAfter, hahead]
  simp [braces]

theorem Scan.Proper.step (hproper : s.Proper) (hstep : s.step c = some s') : s'.Proper := by
  unfold Scan.step at hstep
  split_ifs at hstep
  all_goals
    cases hstep
    simp_all [Proper]

/-- What is read is taken off what is still to be read: the depth in the end is the same. -/
theorem depthAfter_step (hproper : s.Proper) (hstep : s.step c = some s') (cs : List Char) :
    s.depthAfter (c :: cs) = s'.depthAfter cs := by
  rcases s with ⟨n, _ | _, _ | _⟩
  · simp only [step, Bool.false_eq_true, if_false] at hstep
    split_ifs at hstep with hquote hopen hclose hzero
    · cases hstep
      simp [depthAfter, ahead, unquoted, hquote]
    · cases hstep
      simp [depthAfter, ahead, unquoted, braces_cons, hopen]
      omega
    · cases hstep
      simp [depthAfter, ahead, unquoted, braces_cons, hclose]
      omega
    · cases hstep
      simp [depthAfter, ahead, unquoted, braces_cons, hquote, hopen, hclose]
  · cases hproper rfl
  · simp only [step, Bool.false_eq_true, if_false, if_true] at hstep
    split_ifs at hstep with hslash hquote
    · cases hstep
      simp [depthAfter, ahead, afterQuote, hslash]
    · cases hstep
      simp [depthAfter, ahead, afterQuote, hquote]
    · cases hstep
      simp [depthAfter, ahead, afterQuote, hquote, hslash]
  · cases hstep
    simp [depthAfter, ahead, afterSlash]

/-- Inside an object the scanner goes on, and only the brace that closes the object brings it to depth zero. -/
theorem step_within (hpos : 0 < s.depth) (c : Char) :
    ∃ s', s.step c = some s' ∧ (s'.depth = 0 → c = '\x7d' ∧ !s.inString) := by
  unfold Scan.step
  split_ifs with hstring _ _ _ _ _ hclose hzero
  all_goals try exact ⟨_, rfl, fun h ↦ absurd h hpos.ne'⟩
  · exact ⟨_, rfl, fun h ↦ absurd h (Nat.succ_ne_zero _)⟩
  · exact absurd hzero hpos.ne'
  · exact ⟨_, rfl, fun _ ↦ ⟨hclose, by simp [hstring]⟩⟩

end Depth

section Shortest

/-- The shortest of the texts that begin a text and have a property. -/
structure Least (P : List Char → Prop) (cs object : List Char) : Prop where
  front : object <+: cs
  holds : P object
  least : ∀ q, q <+: cs → P q → object.length ≤ q.length

def Scan.ClosedBy (s : Scan) (q : List Char) : Prop := q ≠ [] ∧ s.depthAfter q = 0

open Scan

variable {P P' : List Char → Prop}

theorem Least.eq (h : Least P cs object) (h' : Least P cs q) : object = q :=
  (List.prefix_of_prefix_length_le h.front h'.front (h.least q h'.front h'.holds)).eq_of_length_le
    (h'.least object h.front h.holds)

theorem Least.cons (h : Least P' cs object) (hcons : ∀ q, P (c :: q) ↔ P' q) (hnil : ¬ P []) :
    Least P (c :: cs) (c :: object) := by
  refine ⟨(List.prefix_cons_inj c).2 h.front, (hcons object).2 h.holds, fun q hq hP ↦ ?_⟩
  rcases List.prefix_cons_iff.1 hq with rfl | ⟨q', rfl, hq'⟩
  · exact absurd hP hnil
  · exact Nat.succ_le_succ (h.least q' hq' ((hcons q').1 hP))

theorem closes_cons (hproper : s.Proper) (hstep : s.step c = some s') (hopen : s'.depth ≠ 0) (q : List Char) :
    s.ClosedBy (c :: q) ↔ s'.ClosedBy q := by
  have hdepth := depthAfter_step hproper hstep q
  cases q with
  | nil =>
    rw [depthAfter_nil] at hdepth
    refine iff_of_false (fun h ↦ hopen ?_) fun h ↦ h.1 rfl
    have hzero := hdepth.symm.trans h.2
    omega
  | cons => simp [ClosedBy, hdepth]

theorem closes_one (hproper : s.Proper) (hstep : s.step c = some s') (hzero : s'.depth = 0) : s.ClosedBy [c] := by
  refine ⟨List.cons_ne_nil c [], ?_⟩
  rw [depthAfter_step hproper hstep, depthAfter_nil, hzero]
  rfl

theorem balancedFrom_cons (hpos : 0 < s.depth) (c : Char) (cs : List Char) :
    ∃ s', s.step c = some s' ∧
      balancedFrom s (c :: cs) = if s'.depth = 0 then some [c] else (balancedFrom s' cs).map (c :: ·) := by
  obtain ⟨s', hstep, hends⟩ := step_within hpos c
  refine ⟨s', hstep, ?_⟩
  rw [balancedFrom, hstep]
  refine if_congr ?_ rfl rfl
  exact ⟨fun h ↦ h.2.2, fun hzero ↦ ⟨(hends hzero).1, (hends hzero).2, hzero⟩⟩

/-- Inside an object the scanner stops at the first place where no brace is open. -/
theorem balancedFrom_least (hproper : s.Proper) (hpos : 0 < s.depth) (h : balancedFrom s cs = some object) :
    Least s.ClosedBy cs object := by
  induction cs generalizing s object with
  | nil => cases h
  | cons c cs ih =>
    obtain ⟨s', hstep, heq⟩ := balancedFrom_cons hpos c cs
    rw [heq] at h
    split at h
    next hzero =>
      cases h
      refine ⟨List.prefix_append [c] cs, closes_one hproper hstep hzero, fun q _ hq ↦ ?_⟩
      exact List.length_pos_iff.2 hq.1
    next hopen =>
      obtain ⟨more, hmore, rfl⟩ := Option.map_eq_some_iff.1 h
      have hleast := ih (hproper.step hstep) (Nat.pos_of_ne_zero hopen) hmore
      exact hleast.cons (closes_cons hproper hstep hopen) fun hnil ↦ hnil.1 rfl

theorem balancedFrom_ne_none (hproper : s.Proper) (hpos : 0 < s.depth) (hq : q <+: cs) (hcloses : s.ClosedBy q) :
    balancedFrom s cs ≠ none := by
  induction q generalizing s cs with
  | nil => exact absurd rfl hcloses.1
  | cons c q ih =>
    obtain ⟨rest, rfl⟩ := hq
    obtain ⟨s', hstep, heq⟩ := balancedFrom_cons hpos c (q ++ rest)
    rw [List.cons_append, heq]
    split
    · exact Option.some_ne_none _
    next hopen =>
      have hmore := ih (hproper.step hstep) (Nat.pos_of_ne_zero hopen) (List.prefix_append q rest)
        ((closes_cons hproper hstep hopen q).1 hcloses)
      simpa using hmore

theorem foldlM_depth (hproper : s.Proper) (hpos : 0 < s.depth) (h : ∀ r, r <+: q → r ≠ q → ¬ s.ClosedBy r) :
    ∃ s', q.foldlM Scan.step s = some s' ∧ (s'.depth : Int) = s.depthAfter q := by
  induction q generalizing s with
  | nil => exact ⟨s, rfl, (depthAfter_nil s).symm⟩
  | cons c q ih =>
    obtain ⟨s', hstep, -⟩ := step_within hpos c
    rw [List.foldlM_cons, hstep, depthAfter_step hproper hstep]
    cases q with
    | nil => exact ⟨s', rfl, (depthAfter_nil s').symm⟩
    | cons d q =>
      have hopen : s'.depth ≠ 0 := fun hzero ↦ h [c] (by simp) (by simp) (closes_one hproper hstep hzero)
      refine ih (hproper.step hstep) (Nat.pos_of_ne_zero hopen) fun r hr hne hcloses ↦ ?_
      exact h (c :: r) ((List.prefix_cons_inj c).2 hr) (by simpa using hne)
        ((closes_cons hproper hstep hopen r).2 hcloses)

end Shortest

section Object

open Scan

theorem outside_proper (n : Nat) : (outside n).Proper := fun h ↦ by cases h

theorem depthAfter_outside (q : List Char) : (outside 0).depthAfter q = depth q := by
  simp [depthAfter, depth, ahead, outside]

theorem depth_brace (q : List Char) : depth ('\x7b' :: q) = (outside 1).depthAfter q := by
  rw [← depthAfter_outside]
  exact depthAfter_step (outside_proper 0) rfl q

theorem closed_brace (q : List Char) : Closed ('\x7b' :: q) ↔ (outside 1).ClosedBy q := by
  have hclosed : (outside 0).ClosedBy ('\x7b' :: q) ↔ Closed ('\x7b' :: q) := by
    rw [ClosedBy, Closed, depthAfter_outside]
  exact hclosed.symm.trans (closes_cons (outside_proper 0) rfl (by decide) q)

theorem balancedObject_brace (tail : List Char) :
    balancedObject ('\x7b' :: tail) = (balancedFrom (outside 1) tail).map ('\x7b' :: ·) := rfl

theorem balancedObject_least (h : balancedObject ('\x7b' :: tail) = some object) :
    Least Closed ('\x7b' :: tail) object := by
  rw [balancedObject_brace] at h
  obtain ⟨inner, hinner, rfl⟩ := Option.map_eq_some_iff.1 h
  have hleast := balancedFrom_least (outside_proper 1) (by decide) hinner
  exact hleast.cons closed_brace fun hnil ↦ hnil.1 rfl

theorem balancedObject_ne_none (hq : q <+: '\x7b' :: tail) (hclosed : Closed q) :
    balancedObject ('\x7b' :: tail) ≠ none := by
  rcases List.prefix_cons_iff.1 hq with rfl | ⟨q', rfl, hq'⟩
  · exact absurd rfl hclosed.1
  · have hinner := balancedFrom_ne_none (outside_proper 1) (by decide) hq' ((closed_brace q').1 hclosed)
    simpa [balancedObject_brace] using hinner

theorem foldlM_brace (hq : q <+: '\x7b' :: tail) (h : ∀ r, r <+: q → r ≠ q → ¬ Closed r) :
    ∃ s, q.foldlM Scan.step ⟨0, false, false⟩ = some s ∧ (s.depth : Int) = depth q := by
  rcases List.prefix_cons_iff.1 hq with rfl | ⟨q', rfl, -⟩
  · exact ⟨_, rfl, rfl⟩
  · have hinside : ∀ r, r <+: q' → r ≠ q' → ¬ (outside 1).ClosedBy r := fun r hr hne hclosed ↦
      h ('\x7b' :: r) ((List.prefix_cons_inj _).2 hr) (by simpa using hne) ((closed_brace r).2 hclosed)
    obtain ⟨s, hs, hdepth⟩ := foldlM_depth (outside_proper 1) (by decide) hinside
    exact ⟨s, hs, hdepth.trans (depth_brace q').symm⟩

/-- An object of the grammar is cut out of a text whatever stands around it. At any brace the scanner cuts out the
shortest closed piece, which ends where a character ends, and nothing only when no piece is closed. On the way no step
fails and the depth is that of what was read. -/
theorem balancedAt_shortest :
    (∀ front object rest, Derives .object object →
      balancedAt (front ++ (object ++ rest)) (Utf8.size front) = some object) ∧
    ∀ content start tail, dropBytes? content start = some ('\x7b' :: tail) →
      (∀ object, balancedAt content start = some object ↔ Least Closed ('\x7b' :: tail) object) ∧
      (balancedAt content start = none ↔ ∀ q, q <+: '\x7b' :: tail → ¬ Closed q) ∧
      (∀ object, balancedAt content start = some object → ∃ rest, '\x7b' :: tail = object ++ rest ∧
        dropBytes? content (start + Utf8.size object) = some rest) ∧
      ∀ q, q <+: '\x7b' :: tail → (∀ r, r <+: q → r ≠ q → ¬ Closed r) →
        ∃ s, q.foldlM Scan.step ⟨0, false, false⟩ = some s ∧ (s.depth : Int) = depth q := by
  refine ⟨fun front object rest hobject ↦ ?_, fun content start tail hstart ↦ ?_⟩
  · rw [balancedAt, dropBytes?_append]
    exact balancedObject_derived hobject rest
  have hat : balancedAt content start = balancedObject ('\x7b' :: tail) := by rw [balancedAt, hstart, Option.bind_some]
  rw [hat]
  refine ⟨fun object ↦ ⟨balancedObject_least, fun hleast ↦ ?_⟩, ⟨fun hnone q hq hclosed ↦ ?_, fun hopen ↦ ?_⟩,
    fun object hobject ↦ ?_, fun q ↦ foldlM_brace⟩
  · obtain ⟨found, hfound⟩ := Option.ne_none_iff_exists'.1 (balancedObject_ne_none hleast.front hleast.holds)
    rw [hfound, (balancedObject_least hfound).eq hleast]
  · exact balancedObject_ne_none hq hclosed hnone
  · refine Option.eq_none_iff_forall_ne_some.2 fun object hobject ↦ ?_
    have hleast := balancedObject_least hobject
    exact hopen object hleast.front hleast.holds
  · obtain ⟨rest, hrest⟩ := (balancedObject_least hobject).front
    rw [← hrest] at hstart
    exact ⟨rest, hrest.symm, dropBytes?_add hstart⟩

/-- An object with an object inside it, a quote and a brace in a key, and a string that ends with a backslash. -/
def nested : List Char := "\x7b\"\\\"\x7d\": [\x7b\x7d, \"\\\\\"]\x7d".toList

theorem nested_derives : Derives .object nested := by
  have hnothing : Blank [] := by decide
  have hspace : Blank [' '] := by decide
  have hescaped : StringPart ['\\', '"'] := .letter (by decide)
  have hbrace : StringPart ['\x7d'] := .plain (by decide) (by decide) (by decide)
  have hslash : StringPart ['\\', '\\'] := .letter (by decide)
  have hempty := Derives.spaced hnothing (.object (.emptyObject hnothing)) hnothing
  have hstring := Derives.spaced hspace (.string (.quoted (.cons hslash .nil))) hnothing
  have harray := Derives.array (.elements (.element hempty) (.element hstring))
  have hkey := StringText.quoted (.cons hescaped (.cons hbrace .nil))
  exact .braces (.member hnothing hkey hnothing (.spaced hspace harray hnothing))

theorem balancedAt_shortest_nested :
    Derives .object nested ∧
      dropBytes? ("é \x7d".toList ++ (nested ++ " \x7d".toList)) 4 =
        some ('\x7b' :: (nested.tail ++ " \x7d".toList)) ∧
      balancedAt ("é \x7d".toList ++ (nested ++ " \x7d".toList)) 4 = some nested ∧
      Least Closed ('\x7b' :: (nested.tail ++ " \x7d".toList)) nested ∧
      ∃ s, nested.foldlM Scan.step ⟨0, false, false⟩ = some s ∧ (s.depth : Int) = depth nested := by
  have hat := balancedAt_shortest.1 "é \x7d".toList nested " \x7d".toList nested_derives
  have hstart : dropBytes? ("é \x7d".toList ++ (nested ++ " \x7d".toList)) 4 =
      some ('\x7b' :: (nested.tail ++ " \x7d".toList)) := by decide
  obtain ⟨hshortest, -, -, hdepth⟩ := balancedAt_shortest.2 _ 4 _ hstart
  have hleast := (hshortest nested).1 hat
  have hopen : ∀ r, r <+: nested → r ≠ nested → ¬ Closed r := fun r hr hne hclosed ↦
    hne (hr.eq_of_length_le (hleast.least r (hr.trans hleast.front) hclosed))
  exact ⟨nested_derives, hstart, hat, hleast, hdepth nested hleast.front hopen⟩

end Object

end CodeRepair.Reply
