import CodeRepair.Fix.Reply
import CodeRepair.Proofs.Json.Grammar

/-!
The brace scanner on texts of the grammar. It is after a string, a number or a nested object where it was before it, so
it ends at the brace that closes the object, whatever the strings hold and whatever follows.
-/
namespace CodeRepair.Reply

open Json

variable {s s' s'' : Scan} {c : Char} {cs cs' t : List Char} {depth : Nat} {part : Nonterminal}

/-- The scanner goes over a text without coming to the brace that it looks for. -/
inductive Scan.Passes : Scan → List Char → Scan → Prop
  | nil (s : Scan) : Scan.Passes s [] s
  | cons {s s' s'' : Scan} {c : Char} {cs : List Char} (hstep : s.step c = some s')
      (hgoes : ¬ (c = '\x7d' ∧ !s.inString ∧ s'.depth = 0)) (h : Scan.Passes s' cs s'') : Scan.Passes s (c :: cs) s''

theorem Scan.Passes.one (hstep : s.step c = some s') (hgoes : ¬ (c = '\x7d' ∧ !s.inString ∧ s'.depth = 0)) :
    s.Passes [c] s' := .cons hstep hgoes (.nil s')

theorem Scan.Passes.trans (h : s.Passes cs s') (h' : s'.Passes cs' s'') : s.Passes (cs ++ cs') s'' := by
  induction h with
  | nil => exact h'
  | cons hstep hgoes _ ih => exact .cons hstep hgoes (ih h')

theorem balancedFrom_passes (h : s.Passes cs s') (rest : List Char) :
    balancedFrom s (cs ++ rest) = (balancedFrom s' rest).map (cs ++ ·) := by
  induction h with
  | nil => simp
  | cons hstep hgoes _ ih =>
    rw [List.cons_append, balancedFrom, hstep]
    simp only [bind, Option.bind, if_neg hgoes, ih, Option.map_map]
    rfl

def Scan.outside (depth : Nat) : Scan := ⟨depth, false, false⟩

def Scan.inside (depth : Nat) : Scan := ⟨depth, true, false⟩

open Scan

theorem outside_passes (depth : Nat) (h : ∀ c ∈ cs, c ≠ '"' ∧ c ≠ '\x7b' ∧ c ≠ '\x7d') :
    (outside depth).Passes cs (outside depth) := by
  induction cs with
  | nil => exact .nil _
  | cons c cs ih =>
    obtain ⟨⟨hquote, hopen, hclose⟩, hrest⟩ := List.forall_mem_cons.1 h
    have hstep : (outside depth).step c = some (outside depth) := by simp [step, outside, hquote, hopen, hclose]
    exact .cons hstep (fun hends ↦ hclose hends.1) (ih hrest)

theorem outside_passes_blank (depth : Nat) (h : Blank cs) : (outside depth).Passes cs (outside depth) := by
  refine outside_passes depth fun c hc ↦ ?_
  have hspace := h c hc
  refine ⟨?_, ?_, ?_⟩
  all_goals
    rintro rfl
    cases hspace

theorem outside_passes_number (depth : Nat) (h : NumberText cs) : (outside depth).Passes cs (outside depth) := by
  refine outside_passes depth fun c hc ↦ ?_
  have hnumeric := h.numeric c hc
  refine ⟨?_, ?_, ?_⟩
  all_goals
    rintro rfl
    cases hnumeric

theorem outside_passes_comma (depth : Nat) : (outside depth).Passes [','] (outside depth) :=
  outside_passes depth (by simp)

theorem outside_passes_brackets (h : (outside depth).Passes cs (outside depth)) :
    (outside depth).Passes ('[' :: (cs ++ [']'])) (outside depth) := by
  have hopen : (outside depth).Passes ['['] (outside depth) := outside_passes depth (by simp)
  have hclose : (outside depth).Passes [']'] (outside depth) := outside_passes depth (by simp)
  exact hopen.trans (h.trans hclose)

theorem inside_passes (depth : Nat) (h : ∀ c ∈ cs, c ≠ '"' ∧ c ≠ '\\') : (inside depth).Passes cs (inside depth) := by
  induction cs with
  | nil => exact .nil _
  | cons c cs ih =>
    obtain ⟨⟨hquote, hslash⟩, hrest⟩ := List.forall_mem_cons.1 h
    have hstep : (inside depth).step c = some (inside depth) := by simp [step, inside, hquote, hslash]
    exact .cons hstep (by simp [inside]) (ih hrest)

theorem inside_passes_escape (depth : Nat) (c : Char) : (inside depth).Passes ['\\', c] (inside depth) := by
  have hslash : (inside depth).Passes ['\\'] ⟨depth, true, true⟩ := .one rfl (by simp [inside])
  have hescaped : Passes ⟨depth, true, true⟩ [c] (inside depth) := .one rfl (by simp)
  exact hslash.trans hescaped

theorem inside_passes_part (depth : Nat) (h : StringPart cs) : (inside depth).Passes cs (inside depth) := by
  cases h with
  | plain hquote hslash _ => exact inside_passes depth (by simp [hquote, hslash])
  | letter _ => exact inside_passes_escape depth _
  | unit _ hds =>
    refine (inside_passes_escape depth 'u').trans (inside_passes depth fun d hd ↦ ?_)
    have hvalue := hds d hd
    refine ⟨?_, ?_⟩
    all_goals
      rintro rfl
      cases hvalue

theorem outside_passes_string (depth : Nat) (h : StringText cs) : (outside depth).Passes cs (outside depth) := by
  obtain ⟨hbody⟩ := h
  have hopen : (outside depth).Passes ['"'] (inside depth) := .one rfl (by simp)
  have hclose : (inside depth).Passes ['"'] (outside depth) := .one rfl (by simp)
  refine hopen.trans (.trans ?_ hclose)
  induction hbody with
  | nil => exact .nil _
  | cons hpart _ ih => exact (inside_passes_part depth hpart).trans ih

theorem outside_passes_braces (h : (outside (depth + 2)).Passes cs (outside (depth + 2))) :
    (outside (depth + 1)).Passes ('\x7b' :: (cs ++ ['\x7d'])) (outside (depth + 1)) := by
  have hopen : (outside (depth + 1)).Passes ['\x7b'] (outside (depth + 2)) := .one rfl fun h ↦ by cases h.1
  have hclose : (outside (depth + 2)).Passes ['\x7d'] (outside (depth + 1)) := .one rfl fun h ↦ by cases h.2.2
  exact hopen.trans (h.trans hclose)

/-- Inside an object every text of the grammar is passed over. -/
theorem outside_passes_derived (h : Derives part t) (depth : Nat) :
    (outside (depth + 1)).Passes t (outside (depth + 1)) := by
  -- Only the braces change the depth, so it is the induction's parameter.
  induction h generalizing depth with
  | word h =>
    refine outside_passes _ ?_
    simp only [List.mem_cons, List.not_mem_nil, or_false] at h
    rcases h with rfl | rfl | rfl <;> simp
  | number h => exact outside_passes_number _ h
  | string h => exact outside_passes_string _ h
  | emptyArray hw => exact outside_passes_brackets (outside_passes_blank _ hw)
  | array _ ih => exact outside_passes_brackets (ih depth)
  | object _ ih | element _ ih => exact ih depth
  | spaced hw _ hw' ih =>
    exact (outside_passes_blank _ hw).trans ((ih depth).trans (outside_passes_blank _ hw'))
  | elements _ _ ih ih' | members _ _ ih ih' => exact (ih depth).trans ((outside_passes_comma _).trans (ih' depth))
  | emptyObject hw => exact outside_passes_braces (outside_passes_blank _ hw)
  | braces _ ih => exact outside_passes_braces (ih (depth + 1))
  | member hw hkey hw' _ ih =>
    have hcolon : (outside (depth + 1)).Passes [':'] (outside (depth + 1)) := outside_passes _ (by simp)
    have hvalue := (outside_passes_blank _ hw').trans (hcolon.trans (ih depth))
    exact (outside_passes_blank _ hw).trans ((outside_passes_string _ hkey).trans hvalue)

theorem balancedObject_braces (h : (outside 1).Passes cs (outside 1)) (rest : List Char) :
    balancedObject ('\x7b' :: (cs ++ ['\x7d']) ++ rest) = some ('\x7b' :: (cs ++ ['\x7d'])) := by
  have hopen : (outside 0).Passes ['\x7b'] (outside 1) := .one rfl (by decide)
  have hclose : balancedFrom (outside 1) ('\x7d' :: rest) = some ['\x7d'] := rfl
  have hpasses := balancedFrom_passes (hopen.trans h) ('\x7d' :: rest)
  rw [hclose] at hpasses
  simpa [balancedObject, outside] using hpasses

/-- The balanced object at the start of a text is the object of the grammar that the text begins with. -/
theorem balancedObject_derived (h : Derives .object t) (rest : List Char) : balancedObject (t ++ rest) = some t := by
  cases h with
  | emptyObject hw => exact balancedObject_braces (outside_passes_blank 1 hw) rest
  | braces h => exact balancedObject_braces (outside_passes_derived h 0) rest

theorem balancedObject_object (l : Layout) (ms : List (String × String)) (rest : List Char) :
    balancedObject (l.object ms ++ rest) = some (l.object ms) := balancedObject_derived (l.object_derives ms) rest

end CodeRepair.Reply
