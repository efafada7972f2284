import CodeRepair.Proofs.Fix.Packaging
import CodeRepair.Proofs.Schema.Outcomes

/-!
Where proposed code comes from. It was decoded from a piece of the reply, and a reply of which no piece decodes is told
apart by the failure of the last piece, or by being blank.
-/
namespace CodeRepair.Reply

open Json Text Schema

variable {content text code object : List Char} {pieces : List (List Char)} {failure : String} {raw : Raw}

section Fences

/-- What a text holds between an opening fence, with the rest of its line, and a later fence, but for blanks at its
end. -/
def Fenced (text code : List Char) : Prop :=
  ∃ opening blanks rest, trim text = fence ++ (opening ++ (code ++ (blanks ++ (fence ++ rest)))) ∧
    (∀ x ∈ blanks, isBlank x = true) ∧
    ((∃ line, opening = line ++ ['\n'] ∧ '\n' ∉ line) ∨ opening = [] ∧ '\n' ∉ code ++ (blanks ++ (fence ++ rest)))

theorem fenced_of_stripFences (h : stripFences text = some code) : Fenced text code := by
  have hopens : fence <+: trim text := by
    by_contra hnot
    rw [stripFences_unopened hnot] at h
    cases h
  rw [stripFences_opened hopens] at h
  obtain ⟨body, hbody, rfl⟩ := Option.map_eq_some_iff.1 h
  obtain ⟨opening, hsplit, hopening⟩ := exists_opening hopens
  obtain ⟨rest, hrest⟩ := beforeLast?_eq_some hbody
  obtain ⟨blanks, hblanks, hall⟩ := trimEnd_blanks body
  have hafter : afterOpening (trim text) = trimEnd body ++ (blanks ++ (fence ++ rest)) := by
    rw [← List.append_assoc, ← hblanks, hrest]
  rw [hafter] at hsplit hopening
  exact ⟨opening, blanks, rest, hsplit, hall, hopening⟩

theorem Fenced.isInfix (h : Fenced text code) : code <:+: text := by
  obtain ⟨opening, blanks, rest, htext, -, -⟩ := h
  refine List.IsInfix.trans ⟨fence ++ opening, blanks ++ (fence ++ rest), ?_⟩ (trim_within text)
  rw [htext]
  simp

end Fences

section Pieces

theorem balancedFrom_front {s : Scan} (h : balancedFrom s content = some object) : object <+: content := by
  induction content generalizing s object with
  | nil => cases h
  | cons x cs ih =>
    obtain ⟨s', -, h⟩ := Option.bind_eq_some_iff.1 h
    split at h
    · cases h
      exact List.prefix_append [x] cs
    · obtain ⟨more, hmore, rfl⟩ := Option.map_eq_some_iff.1 h
      exact (List.prefix_cons_inj x).2 (ih hmore)

theorem object?_within (h : object? content = some object) : object <:+: content := by
  unfold object? at h
  split at h
  · cases h
  · exact (balancedFrom_front h).isInfix.trans (List.dropWhile_suffix _).isInfix

theorem candidates_within {piece : List Char} (h : piece ∈ candidates content) : piece <:+: content := by
  obtain ⟨-, rfl | hinside | hobject⟩ := (mem_candidates content piece).1 h
  · exact trim_within content
  · obtain ⟨code, hcode, rfl⟩ := Option.map_eq_some_iff.1 hinside
    exact (trim_within code).trans (fenced_of_stripFences hcode).isInfix
  · obtain ⟨object, hopened, rfl⟩ := Option.map_eq_some_iff.1 hobject
    exact (trim_within object).trans (object?_within hopened)

theorem candidates_eq_nil_iff : candidates content = [] ↔ isAllBlank content = true := by
  refine ⟨fun hnil ↦ ?_, fun h ↦ ?_⟩
  · rw [← trim_eq_nil_iff]
    by_contra hne
    have hmem := (mem_candidates content (trim content)).2 ⟨hne, .inl rfl⟩
    rw [hnil] at hmem
    cases hmem
  have htrim := (trim_eq_nil_iff content).2 h
  have hstrip : stripFences content = none := by
    refine stripFences_unopened ?_
    rw [htrim]
    decide
  have hobject : object? content = none := by
    have hdrop : content.dropWhile (· ≠ '\x7b') = [] := by
      rw [List.dropWhile_eq_nil_iff]
      intro x hx
      have hblank := List.all_eq_true.1 h x hx
      rw [decide_eq_true_eq]
      rintro rfl
      cases hblank
    rw [object?, hdrop]
  refine List.eq_nil_iff_forall_not_mem.2 fun piece hpiece ↦ ?_
  obtain ⟨hne, hwhole | hinside | hobject'⟩ := (mem_candidates content piece).1 hpiece
  · exact hne (hwhole.symm.trans htrim)
  · rw [hstrip] at hinside
    cases hinside
  · rw [hobject] at hobject'
    cases hobject'

theorem firstRaw_ok (h : firstRaw failure pieces = .ok raw) :
    ∃ piece ∈ pieces, Schema.parse Raw (String.ofList piece) = .ok raw := by
  induction pieces generalizing failure with
  | nil => cases h
  | cons piece pieces ih =>
    rw [firstRaw] at h
    split at h
    next hread =>
      cases h
      exact ⟨piece, List.mem_cons_self, hread⟩
    · obtain ⟨piece', hmem, hread⟩ := ih h
      exact ⟨piece', List.mem_cons_of_mem _ hmem, hread⟩

theorem firstRaw_error (hnone : ∀ piece ∈ pieces, ∀ raw, Schema.parse Raw (String.ofList piece) ≠ .ok raw)
    (failure : String) :
    (pieces = [] ∧ firstRaw failure pieces = .error failure) ∨
      ∃ piece fault, pieces.getLast? = some piece ∧ Schema.parse Raw (String.ofList piece) = .error fault ∧
        firstRaw failure pieces = .error fault.message := by
  induction pieces generalizing failure with
  | nil => exact .inl ⟨rfl, rfl⟩
  | cons piece pieces ih =>
    rw [firstRaw]
    cases hread : Schema.parse Raw (String.ofList piece) with
    | ok raw => exact absurd hread (hnone piece List.mem_cons_self raw)
    | error fault =>
      right
      rcases ih (fun p hp ↦ hnone p (List.mem_cons_of_mem _ hp)) fault.message with ⟨rfl, hfirst⟩ | ⟨last, fault', hlast, h⟩
      · exact ⟨piece, fault, rfl, hread, hfirst⟩
      · refine ⟨last, fault', ?_, h⟩
        rw [List.getLast?_cons, hlast]
        rfl

end Pieces

section Messages

theorem takesBack_raw : TakesBack Raw := by
  intro d h
  rw [shape_raw, answerFields] at h
  cases h with
  | record h =>
    have hdefault (of : Shape) (d : Datum) (hd : (FieldRule.default .none).absent = some d) : of.optional.Has d := by
      cases hd
      exact .absent of
    obtain ⟨d₁, ds, rfl, hexplanation, h⟩ := Fields.has_cons h (hdefault .text)
    obtain ⟨d₂, ds, rfl, hcode, h⟩ := Fields.has_cons h fun _ hd ↦ by cases hd
    obtain ⟨d₃, ds, rfl, hconfidence, h⟩ := Fields.has_cons h (hdefault .real)
    cases h
    obtain ⟨explanation, h₁⟩ := takesBack_option takesBack_string d₁ hexplanation
    obtain ⟨code, h₂⟩ := takesBack_string d₂ hcode
    obtain ⟨confidence, h₃⟩ := takesBack_option takesBack_float d₃ hconfidence
    refine ⟨⟨explanation, code, confidence⟩, ?_⟩
    change (do return Raw.mk (← ofDatum? d₁) (← ofDatum? d₂) (← ofDatum? d₃)) = some _
    rw [h₁, h₂, h₃]
    rfl

theorem message_ends {fault : Fault} (h : ∃ p, fault.position = some p) :
    ∃ front digits, fault.message.toList = front ++ digits ∧ digits ≠ [] ∧ ∀ x ∈ digits, x.isDigit = true := by
  obtain ⟨p, hp⟩ := h
  refine ⟨(fault.cause.message ++ " at line " ++ toString p.line ++ " column ").toList, Nat.toDigits 10 p.column, ?_,
    Nat.toDigits_ne_nil, fun x ↦ Nat.isDigit_of_mem_toDigits (by decide) (by decide)⟩
  rw [Fault.message, hp, ← Nat.toList_repr, ← String.toList_append]
  rfl

theorem message_not_empty {fault : Fault} (h : ∃ p, fault.position = some p) (front : List Char) :
    ¬ "empty response".toList <:+ front ++ fault.message.toList := by
  rintro ⟨front', hfront⟩
  obtain ⟨front'', digits, hmessage, hne, hdigits⟩ := message_ends h
  have hlast : "empty response".toList.getLast? = digits.getLast? := by
    have hends := congrArg List.getLast? hfront
    rwa [hmessage, ← List.append_assoc, List.getLast?_append_of_ne_nil _ hne,
      List.getLast?_append_of_ne_nil _ (by decide)] at hends
  have hdigit := hdigits 'e' (List.mem_of_getLast? hlast.symm)
  cases hdigit

end Messages

section Origin

theorem toProposal_fixedCode (raw : Raw) : raw.toProposal.fixedCode = raw.fixedCode ∨
    Fenced raw.fixedCode.toList raw.toProposal.fixedCode.toList := by
  rw [Raw.toProposal]
  dsimp only
  split
  next code hstrip =>
    rw [String.toList_ofList]
    exact .inr (fenced_of_stripFences hstrip)
  · exact .inl rfl

theorem parse_read {provider content : String} (h : (parse provider content).fixedCode ≠ "") :
    ∃ piece ∈ candidates content.toList, ∃ raw, Schema.parse Raw (String.ofList piece) = .ok raw ∧
      parse provider content = raw.toProposal := by
  cases hfirst : firstRaw "empty response" (candidates content.toList) with
  | error failure =>
    rw [parse, hfirst] at h
    exact absurd rfl h
  | ok raw =>
    obtain ⟨piece, hpiece, hread⟩ := firstRaw_ok hfirst
    exact ⟨piece, hpiece, raw, hread, by rw [parse, hfirst]⟩

theorem parse_unread (provider : String) {content : String}
    (hnone : ∀ piece ∈ candidates content.toList, ∀ raw, Schema.parse Raw (String.ofList piece) ≠ .ok raw) :
    (blank content = true ∧
      parse provider content = .unusable ("Failed to parse " ++ provider ++ " response: " ++ "empty response")) ∨
    (blank content = false ∧ ∃ piece fault, (candidates content.toList).getLast? = some piece ∧
      Schema.parse Raw (String.ofList piece) = .error fault ∧
      parse provider content = .unusable ("Failed to parse " ++ provider ++ " response: " ++ fault.message)) := by
  rcases firstRaw_error hnone "empty response" with ⟨hnil, hfirst⟩ | ⟨piece, fault, hlast, hread, hfirst⟩
  · exact .inl ⟨candidates_eq_nil_iff.1 hnil, by rw [parse, hfirst]⟩
  · refine .inr ⟨?_, piece, fault, hlast, hread, by rw [parse, hfirst]⟩
    rw [← Bool.not_eq_true]
    intro hblank
    rw [candidates_eq_nil_iff.2 hblank] at hlast
    cases hlast

/-- Code that is proposed was decoded from a piece of the reply, and was taken as it is or out of a code fence. When no
piece decodes, nothing is proposed, and the explanation ends with the failure of the last piece, or says that the reply
was empty exactly when it is blank. -/
theorem proposed_code_decoded (provider content : String) :
    ((parse provider content).fixedCode ≠ "" → ∃ piece raw, piece <:+: content.toList ∧
      Schema.parse Raw (String.ofList piece) = .ok raw ∧
      ((parse provider content).fixedCode = raw.fixedCode ∨
        (parse provider content).fixedCode.toList <:+: raw.fixedCode.toList ∧
          Fenced raw.fixedCode.toList (parse provider content).fixedCode.toList)) ∧
    ((∀ piece, trim content.toList = piece ∨ (stripFences content.toList).map trim = some piece ∨
        (object? content.toList).map trim = some piece → ∀ raw, Schema.parse Raw (String.ofList piece) ≠ .ok raw) →
      (parse provider content).fixedCode = "" ∧ (parse provider content).confidence = none ∧
      (blank content = false → ∃ piece fault, (candidates content.toList).getLast? = some piece ∧
        Schema.parse Raw (String.ofList piece) = .error fault ∧
        (parse provider content).explanation = "Failed to parse " ++ provider ++ " response: " ++ fault.message) ∧
      ("empty response".toList <:+ (parse provider content).explanation.toList ↔ blank content = true)) := by
  constructor
  · intro hcode
    obtain ⟨piece, hpiece, raw, hread, hparse⟩ := parse_read hcode
    rw [hparse]
    exact ⟨piece, raw, candidates_within hpiece, hread, (toProposal_fixedCode raw).imp_right fun h ↦ ⟨h.isInfix, h⟩⟩
  · intro hnone
    have hpieces : ∀ piece ∈ candidates content.toList, ∀ raw, Schema.parse Raw (String.ofList piece) ≠ .ok raw :=
      fun piece hpiece ↦ hnone piece ((mem_candidates _ _).1 hpiece).2
    rcases parse_unread provider hpieces with ⟨hblank, hparse⟩ | ⟨hblank, piece, fault, hlast, hread, hparse⟩
    · rw [hparse]
      refine ⟨rfl, rfl, fun h ↦ ?_, fun _ ↦ hblank, fun _ ↦ ⟨_, String.toList_append.symm⟩⟩
      rw [hblank] at h
      cases h
    · have hplaced := parse_placed takesBack_raw (String.ofList piece)
      rw [hread] at hplaced
      have hends : ¬ "empty response".toList <:+ (parse provider content).explanation.toList := by
        rw [hparse]
        change ¬ _ <:+ ("Failed to parse " ++ provider ++ " response: " ++ fault.message).toList
        rw [String.toList_append]
        exact message_not_empty hplaced.position _
      refine ⟨by rw [hparse]; rfl, by rw [hparse]; rfl, fun _ ↦ ⟨piece, fault, hlast, hread, by rw [hparse]; rfl⟩, ?_⟩
      rw [hblank]
      exact iff_of_false hends Bool.false_ne_true

theorem proposed_code_decoded_fences :
    (∃ piece raw, piece <:+: "```json\n\x7b\"fixed_code\": \"```py\\nx = 1\\n```\"\x7d\n```".toList ∧
      Schema.parse Raw (String.ofList piece) = .ok raw) ∧
    (parse "local" "no fix").fixedCode = "" ∧ ¬ "empty response".toList <:+ (parse "local" "no fix").explanation.toList := by
  obtain ⟨hcode, -⟩ := proposed_code_decoded "local" "```json\n\x7b\"fixed_code\": \"```py\\nx = 1\\n```\"\x7d\n```"
  obtain ⟨-, hnone⟩ := proposed_code_decoded "local" "no fix"
  have hpieces : ∀ piece, trim "no fix".toList = piece ∨ (stripFences "no fix".toList).map trim = some piece ∨
      (object? "no fix".toList).map trim = some piece → ∀ raw, Schema.parse Raw (String.ofList piece) ≠ .ok raw := by
    have hstrip : stripFences "no fix".toList = none := by decide
    have hobject : object? "no fix".toList = none := by decide
    rw [hstrip, hobject]
    rintro piece (rfl | ⟨⟨⟩⟩ | ⟨⟨⟩⟩) raw h
    have hread : (Schema.parse Raw (String.ofList (trim "no fix".toList))).toOption.isNone = true := by decide +kernel
    rw [h] at hread
    cases hread
  obtain ⟨hfixed, -, -, hempty⟩ := hnone hpieces
  obtain ⟨piece, raw, hpiece, hread, -⟩ := hcode (by decide +kernel)
  exact ⟨⟨piece, raw, hpiece, hread⟩, hfixed, fun h ↦ absurd (hempty.1 h) (by decide)⟩

end Origin

end CodeRepair.Reply
