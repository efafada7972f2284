import CodeRepair.Proofs.Text.LowerCase
import CodeRepair.Proofs.Text.Search
import CodeRepair.Provider.Exchange

/-!
What is quoted of the body of a failed request. Whether a text holds a word for a credential is asked of the whole body,
and a piece of it with dots after it holds none that the whole does not.
-/
namespace CodeRepair.Reply

open Text

variable {body excerpt : String} {pattern cs rest : List Char}

/-- A text with a word for a credential in it, in whatever case. -/
def HoldsSecret (text : String) : Prop :=
  ∃ mark ∈ ["api_key", "apikey", "bearer", "secret"], mark.toList <:+: lower text.toList

theorem any_occurs_iff (text : String) :
    secretMarks.any (fun mark ↦ occurs mark.toList (lower text.toList)) = true ↔ HoldsSecret text := by
  simp only [List.any_eq_true, occurs_iff]
  rfl

instance (text : String) : Decidable (HoldsSecret text) := decidable_of_iff _ (any_occurs_iff text)

theorem infix_of_append (h : ∀ c ∈ rest, c ∉ pattern) (hfound : pattern <:+: cs ++ rest) : pattern <:+: cs := by
  induction rest using List.reverseRecOn with
  | nil => rwa [List.append_nil] at hfound
  | append_singleton rest c ih =>
    rw [← List.append_assoc, List.infix_concat_iff, List.suffix_concat_iff] at hfound
    obtain (rfl | ⟨front, rfl, -⟩) | hwithin := hfound
    · exact List.nil_infix
    · exact absurd (by simp) (h c (by simp))
    · exact ih (fun d hd ↦ h d (by simp [hd])) hwithin

theorem infix_before_dots (h : NoSigma pattern) (hdot : '.' ∉ pattern)
    (hfound : pattern <:+: lower (cs ++ ['.', '.', '.'])) : pattern <:+: lower cs := by
  rw [lower, ← infix_map_unify h, map_unify_lowerFrom] at hfound ⊢
  have hdots : ['.', '.', '.'].flatMap (fun c ↦ (lowerChar c).map unify) = ['.', '.', '.'] := by decide
  rw [List.flatMap_append, hdots] at hfound
  exact infix_of_append (by simpa using hdot) hfound

theorem marks_plain : ∀ mark ∈ ["api_key", "apikey", "bearer", "secret"],
    IsAscii mark.toList ∧ '.' ∉ mark.toList := by
  decide +kernel

theorem errorExcerpt_eq (body : String) : errorExcerpt body =
    if HoldsSecret body then "(response body redacted)"
    else if 200 < body.toList.length then String.ofList (body.toList.take 200) ++ "..." else body :=
  if_congr (any_occurs_iff body) rfl rfl

theorem holdsSecret_front (h : HoldsSecret (String.ofList (body.toList.take 200) ++ "...")) : HoldsSecret body := by
  obtain ⟨mark, hmark, hfound⟩ := h
  obtain ⟨hascii, hdot⟩ := marks_plain mark hmark
  have hdots : "...".toList = ['.', '.', '.'] := by decide +kernel
  rw [String.toList_append, String.toList_ofList, hdots] at hfound
  have hfront := infix_before_dots hascii.noSigma hdot hfound
  have haround := infix_lower_around hascii.noSigma hfront [] (body.toList.drop 200)
  rw [List.nil_append, List.take_append_drop] at haround
  exact ⟨mark, hmark, haround⟩

theorem excerpt_safe (body : String) : ¬ HoldsSecret (errorExcerpt body) := by
  rw [errorExcerpt_eq]
  split
  · decide +kernel
  next hplain =>
    split
    · exact fun h ↦ hplain (holdsSecret_front h)
    · exact hplain

theorem take_front (h : 200 < body.toList.length) :
    (String.ofList (body.toList.take 200) ++ "...").toList.take 200 = body.toList.take 200 ∧
      200 < (String.ofList (body.toList.take 200) ++ "...").toList.length := by
  have hdots : "...".toList = ['.', '.', '.'] := by decide +kernel
  have hlength : (body.toList.take 200).length = 200 := by
    rw [List.length_take]
    omega
  rw [String.toList_append, String.toList_ofList, hdots]
  constructor
  · exact List.take_left' hlength
  · rw [List.length_append, hlength]
    decide

theorem excerpt_excerpt (body : String) : errorExcerpt (errorExcerpt body) = errorExcerpt body := by
  have hsafe := excerpt_safe body
  rw [errorExcerpt_eq (errorExcerpt body), if_neg hsafe]
  rw [errorExcerpt_eq] at hsafe ⊢
  split
  · decide +kernel
  next hplain =>
    split
    next hlong =>
      obtain ⟨hfront, hlonger⟩ := take_front hlong
      rw [if_pos hlonger, hfront]
    · rfl

/-- A provider that was refused tells of the body no more than its excerpt. -/
theorem read_refused {r : Remote} {delivery : Delivery} {title : String} {status : Nat}
    (h : r.read delivery = .error (.refused title status excerpt)) : ∃ body, excerpt = errorExcerpt body := by
  cases delivery with
  | nothing => cases h
  | answer status body whole =>
    rw [Remote.read] at h
    split at h
    · split at h
      · split at h <;> cases h
      · cases h
    · cases h
      exact ⟨_, rfl⟩

/-- What is quoted of the body of a failed request holds no word for a credential, and says the same of all bodies that
hold one; a body that holds none is quoted as far as it is not too long. -/
theorem error_body_quoted :
    (∀ body : String, ¬ HoldsSecret (errorExcerpt body)) ∧
      (∀ one two : String, HoldsSecret one → HoldsSecret two → errorExcerpt one = errorExcerpt two) ∧
      (∀ body : String, ¬ HoldsSecret body →
        (body.toList.length ≤ 200 → errorExcerpt body = body) ∧
          (200 < body.toList.length → errorExcerpt body = String.ofList (body.toList.take 200) ++ "...")) ∧
      (∀ body : String, errorExcerpt (errorExcerpt body) = errorExcerpt body) ∧
      ∀ (r : Remote) (delivery : Delivery) (title : String) (status : Nat) (excerpt : String),
        r.read delivery = .error (.refused title status excerpt) → ¬ HoldsSecret excerpt := by
  refine ⟨excerpt_safe, ?_, ?_, excerpt_excerpt, ?_⟩
  · intro one two hone htwo
    rw [errorExcerpt_eq, errorExcerpt_eq, if_pos hone, if_pos htwo]
  · intro body hplain
    rw [errorExcerpt_eq, if_neg hplain]
    exact ⟨fun hshort ↦ if_neg (Nat.not_lt.2 hshort), fun hlong ↦ if_pos hlong⟩
  · intro r delivery title status excerpt hread
    obtain ⟨body, rfl⟩ := read_refused hread
    exact excerpt_safe body

theorem error_body_quoted_bearer :
    errorExcerpt "no Bearer Σ" = errorExcerpt "API_\u212AEY" ∧ errorExcerpt "quota ΑΣ" = "quota ΑΣ" ∧
      errorExcerpt (String.ofList (List.replicate 201 'x')) =
        String.ofList ((String.ofList (List.replicate 201 'x')).toList.take 200) ++ "..." ∧
      ¬ HoldsSecret "(response body redacted)" := by
  obtain ⟨-, hsame, hplain, -, hread⟩ := error_body_quoted
  have hnone : ¬ HoldsSecret (String.ofList (List.replicate 201 'x')) := by
    rw [← any_occurs_iff, String.toList_ofList]
    decide +kernel
  have hlong : 200 < (String.ofList (List.replicate 201 'x')).toList.length := by
    rw [String.toList_ofList, List.length_replicate]
    decide
  refine ⟨hsame _ _ (by decide +kernel) (by decide +kernel), (hplain _ (by decide +kernel)).1 (by decide +kernel),
    (hplain _ hnone).2 hlong, ?_⟩
  exact hread ⟨.gemini, "gemini", "m", "http://a", "k", 1⟩ (.answer 401 "no Bearer Σ" true) "Gemini" 401 _ (by rfl)

end CodeRepair.Reply
