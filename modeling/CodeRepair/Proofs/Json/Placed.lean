import CodeRepair.Proofs.Json.Lexeme

/-!
Readings that fail at a place of the text. All of them do: what a reader gives is a value, or a failure that says
where it is.
-/
namespace CodeRepair.Json

open Cursor

/-- A value with a property, or a failure with a place. -/
def Gives {α : Type} (P : α → Prop) : Except Fault α → Prop
  | .ok a => P a
  | .error fault => ∃ p, fault.position = some p

def Placed {α : Type} (r : Except Fault α) : Prop := Gives (fun _ ↦ True) r

section Gives

variable {α β : Type} {P : α → Prop} {Q : β → Prop} {x : Except Fault α} {f : α → Except Fault β} {a : α}
  {fault : Fault}

theorem gives_ok (h : P a) : Gives P (.ok a) := h

theorem gives_error (cause : Cause) (p : Position) (path : List Step) : Gives P (.error ⟨cause, some p, path⟩) :=
  ⟨p, rfl⟩

theorem gives_fail (c : Cursor) (cause : Cause) : Gives P (c.fail cause) := ⟨_, rfl⟩

theorem gives_failNext (c : Cursor) (cause : Cause) : Gives P (c.failNext cause) := ⟨_, rfl⟩

theorem placed_ok (a : α) : Placed (.ok a) := trivial

theorem Gives.bind (hx : Gives P x) (hf : ∀ a, P a → Gives Q (f a)) : Gives Q (x >>= f) := by
  cases x with
  | error fault => exact hx
  | ok a => exact hf a hx

theorem Placed.bind (hx : Placed x) (hf : ∀ a, Gives Q (f a)) : Gives Q (x >>= f) := Gives.bind hx fun a _ ↦ hf a

theorem Gives.inside (h : Gives P x) (step : Step) : Gives P (x.mapError (Fault.inside step)) := by
  cases x with
  | error fault => exact h
  | ok a => exact h

theorem Placed.map (h : Placed x) (f : α → β) : Placed (x.map f) := by
  cases x with
  | error fault => exact h
  | ok a => trivial

theorem Gives.position (h : Gives P (.error fault)) : ∃ p, fault.position = some p := h

end Gives

theorem Cursor.word_placed (c : Cursor) (ws : List Char) : Placed (c.word ws) := by
  induction ws generalizing c with
  | nil => exact placed_ok c
  | cons w ws ih =>
    rw [word]
    split
    · exact gives_fail _ _
    split
    · exact ih _
    · exact gives_failNext _ _

namespace Lexeme

variable {state : StringState} {done xs : List Char} {c : Cursor} {negative minus : Bool} {significand dropped : Nat}
  {power : Int}

theorem stringFrom_placed (state : StringState) (done : List Char) (c : Cursor) (xs : List Char) :
    Placed (stringFrom state done c xs) := by
  induction xs generalizing state done c with
  | nil => exact gives_error _ _ _
  | cons x xs ih =>
    cases state with
    | plain =>
      rw [stringFrom]
      split
      · exact placed_ok _
      split
      · exact ih _ _ _
      split
      · exact gives_failNext _ _
      · exact ih _ _ _
    | escaped =>
      rw [stringFrom]
      split
      · exact ih _ _ _
      split
      · exact ih _ _ _
      · exact gives_failNext _ _
    | hex owed value high =>
      rw [stringFrom]
      split
      · split <;> exact gives_error _ _ _
      split
      · split
        · exact ih _ _ _
        · exact ih _ _ _
        · exact gives_fail _ _
      · exact ih _ _ _
    | pairSlash high =>
      rw [stringFrom]
      split
      · exact ih _ _ _
      · exact gives_failNext _ _
    | pairLetter high =>
      rw [stringFrom]
      split
      · exact ih _ _ _
      · exact gives_failNext _ _

theorem string_placed (c : Cursor) : Placed (string c) :=
  (stringFrom_placed .plain [] c c.rest).bind fun _ ↦ placed_ok _

theorem real_placed : Placed (real c negative significand power) := by
  unfold real
  split
  · exact placed_ok _
  · exact gives_fail _ _

theorem exponentDigits_placed : Placed (exponentDigits c negative significand power minus) := by
  unfold exponentDigits
  split
  · split
    · exact gives_fail _ _
    · exact gives_failNext _ _
  · split
    · split
      · exact gives_error _ _ _
      · exact placed_ok _
    · exact real_placed

theorem exponent_placed : Placed (exponent c negative significand power) := by
  rw [exponent_eq]
  exact exponentDigits_placed

theorem fraction_placed : Placed (fraction c negative significand dropped) := by
  unfold fraction
  dsimp only
  split
  · exact gives_failNext _ _
  · split
    · exact exponent_placed
    · exact exponent_placed
    · exact real_placed

theorem wholeNumber_placed : Placed (wholeNumber c negative significand dropped) := by
  unfold wholeNumber
  split
  · exact real_placed
  split
  · exact placed_ok _
  · split <;> exact placed_ok _

theorem number_placed (c : Cursor) (negative : Bool) : Placed (number c negative) := by
  unfold number
  split
  · split
    · exact gives_fail _ _
    · exact gives_failNext _ _
  split
  · exact gives_failNext _ _
  · dsimp only
    split
    · exact fraction_placed
    · exact exponent_placed
    · exact exponent_placed
    · exact wholeNumber_placed

end Lexeme

namespace Access

theorem atValue_placed (c : Cursor) : Placed (atValue c) := by
  unfold atValue
  dsimp only
  split
  · exact placed_ok _
  · exact gives_failNext _ _

theorem item?_placed (first : Bool) (c : Cursor) : Placed (item? first c) := by
  unfold item?
  dsimp only
  split
  · exact gives_failNext _ _
  split
  · exact placed_ok _
  split
  · exact placed_ok _
  split
  · split
    · exact gives_failNext _ _
    split
    · exact gives_failNext _ _
    · exact placed_ok _
  · exact gives_failNext _ _

theorem key?_placed (first : Bool) (c : Cursor) : Placed (key? first c) := by
  unfold key?
  dsimp only
  split
  · exact gives_failNext _ _
  split
  · exact placed_ok _
  split
  · split
    · exact (Lexeme.string_placed _).map some
    · exact gives_failNext _ _
  split
  · split
    · exact gives_failNext _ _
    split
    · exact (Lexeme.string_placed _).map some
    split
    · exact gives_failNext _ _
    · exact gives_failNext _ _
  · exact gives_failNext _ _

theorem colon_placed (c : Cursor) : Placed (colon c) := by
  unfold colon
  dsimp only
  split
  · exact gives_failNext _ _
  split
  · exact placed_ok _
  · exact gives_failNext _ _

theorem closed_placed {close : Cursor → Cursor × Option Fault}
    (hclose : ∀ c fault, (close c).2 = some fault → ∃ p, fault.position = some p) (c : Cursor) :
    Placed (closed close c) := by
  unfold closed
  split
  · exact placed_ok _
  next fault hmissing => exact hclose c fault (congrArg Prod.snd hmissing)

theorem closed_array_placed (c : Cursor) : Placed (closed closeArray c) := by
  refine closed_placed (fun c fault h ↦ ?_) c
  unfold closeArray at h
  dsimp only at h
  split at h
  · cases h
    exact ⟨_, rfl⟩
  split at h
  · cases h
  split at h
  all_goals
    cases h
    exact ⟨_, rfl⟩

theorem closed_object_placed (c : Cursor) : Placed (closed closeObject c) := by
  refine closed_placed (fun c fault h ↦ ?_) c
  unfold closeObject at h
  dsimp only at h
  split at h
  · cases h
    exact ⟨_, rfl⟩
  split at h
  · cases h
  split at h
  all_goals
    cases h
    exact ⟨_, rfl⟩

theorem gives_failClosing {α : Type} {P : α → Prop} (close : Cursor → Cursor × Option Fault) (c : Cursor) (m : Mismatch) :
    Gives P (failClosing close c m) := ⟨_, rfl⟩

theorem finish_placed (c : Cursor) : Placed (finish c) := by
  unfold finish
  dsimp only
  split
  · exact placed_ok _
  · exact gives_failNext _ _

theorem skipString_placed (c : Cursor) (xs : List Char) : Placed (skipString c xs) := by
  fun_induction skipString c xs with
  | case1 => exact gives_error _ _ _
  | case2 => exact gives_error _ _ _
  | case3 _ _ _ _ _ _ _ _ _ _ ih => exact ih
  | case4 => exact gives_error _ _ _
  | case5 => exact gives_error _ _ _
  | case6 _ _ _ _ _ _ ih => exact ih
  | case7 => exact gives_failNext _ _
  | case8 => exact placed_ok _
  | case9 => exact gives_error _ _ _
  | case10 => exact gives_fail _ _
  | case11 _ _ _ _ _ _ _ _ _ _ ih => exact ih

theorem skipNumber_placed (c : Cursor) : Placed (skipNumber c) := by
  unfold skipNumber
  dsimp only
  repeat' first
    | exact placed_ok _
    | exact gives_failNext _ _
    | refine Placed.bind ?_ fun _ ↦ ?_
    | split

def skipKey (bracket : Char) (c : Cursor) : Except Fault Cursor := do
  if bracket = '\x7b' then
    let c := c.skipSpace
    let c ←
      match c.peek? with
      | some '"' => skipString c.advance c.advance.rest
      | some _ => c.failNext .keyNotString
      | none => c.failNext .endInObject
    colon c
  else return c

theorem skipKey_placed (bracket : Char) (c : Cursor) : Placed (skipKey bracket c) := by
  unfold skipKey
  split
  · dsimp only
    split
    · exact (skipString_placed _ _).bind fun c ↦ colon_placed c
    · exact gives_failNext _ _
    · exact gives_failNext _ _
  · exact placed_ok c

theorem skipFrom_placed (state : SkipState) (stack : List Char) (c : Cursor) (fuel : Nat) :
    Placed (skipFrom state stack c fuel) := by
  -- On the fuel, with the brackets still open general.
  induction fuel generalizing state stack c with
  | zero => exact placed_ok c
  | succ fuel ih =>
    cases state with
    | value =>
      rw [skipFrom]
      dsimp only
      split
      · exact gives_failNext _ _
      split
      · exact ih _ _ _
      split
      · exact (word_placed _ _).bind fun c ↦ ih _ _ c
      split
      · exact (word_placed _ _).bind fun c ↦ ih _ _ c
      split
      · exact (word_placed _ _).bind fun c ↦ ih _ _ c
      split
      · exact (skipNumber_placed _).bind fun c ↦ ih _ _ c
      split
      · exact (skipNumber_placed _).bind fun c ↦ ih _ _ c
      split
      · exact (skipString_placed _ _).bind fun c ↦ ih _ _ c
      · exact gives_failNext _ _
    | inside afterValue =>
      cases stack with
      | nil => exact placed_ok c
      | cons bracket outer =>
        rw [skipFrom]
        dsimp only
        split
        · exact gives_failNext _ _
        split
        · exact (skipKey_placed _ _).bind fun c ↦ ih _ _ c
        split
        · exact ih _ _ _
        split
        · exact gives_failNext _ _
        · exact (skipKey_placed _ _).bind fun c ↦ ih _ _ c

theorem skip_placed (c : Cursor) : Placed (skip c) := skipFrom_placed _ _ _ _

end Access

section Values

open Access

mutual

theorem readValue_placed (fuel depth : Nat) (c : Cursor) : Placed (readValue fuel depth c) := by
  cases fuel with
  | zero => exact gives_fail _ _
  | succ fuel =>
    rw [readValue]
    refine (atValue_placed c).bind fun r ↦ ?_
    obtain ⟨x, c⟩ := r
    dsimp only
    split
    · exact (word_placed _ _).bind fun _ ↦ placed_ok _
    split
    · exact (word_placed _ _).bind fun _ ↦ placed_ok _
    split
    · exact (word_placed _ _).bind fun _ ↦ placed_ok _
    split
    · exact (Lexeme.number_placed _ _).bind fun _ ↦ placed_ok _
    split
    · exact (Lexeme.number_placed _ _).bind fun _ ↦ placed_ok _
    split
    · exact (Lexeme.string_placed _).bind fun _ ↦ placed_ok _
    split
    · split
      · exact gives_failNext _ _
      · exact (readItems_placed _ _ _ _ _).bind fun _ ↦ (closed_array_placed _).bind fun _ ↦ placed_ok _
    split
    · split
      · exact gives_failNext _ _
      · exact (readMembers_placed _ _ _ _ _).bind fun _ ↦ (closed_object_placed _).bind fun _ ↦ placed_ok _
    · exact gives_failNext _ _

theorem readItems_placed (fuel depth : Nat) (first : Bool) (done : List Value) (c : Cursor) :
    Placed (readItems fuel depth first done c) := by
  cases fuel with
  | zero => exact gives_fail _ _
  | succ fuel =>
    rw [readItems]
    refine (item?_placed first c).bind fun next ↦ ?_
    cases next with
    | none => exact placed_ok _
    | some c => exact (readValue_placed _ _ _).bind fun _ ↦ readItems_placed _ _ _ _ _

theorem readMembers_placed (fuel depth : Nat) (first : Bool) (done : List (String × Value)) (c : Cursor) :
    Placed (readMembers fuel depth first done c) := by
  cases fuel with
  | zero => exact gives_fail _ _
  | succ fuel =>
    rw [readMembers]
    refine (key?_placed first c).bind fun next ↦ ?_
    cases next with
    | none => exact placed_ok _
    | some member =>
      exact (colon_placed _).bind fun _ ↦ (readValue_placed _ _ _).bind fun _ ↦ readMembers_placed _ _ _ _ _

end

end Values

end CodeRepair.Json
