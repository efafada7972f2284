import CodeRepair.Proofs.Fix.Decoding

/-!
Code that a reply holds in a fence. A reply is read as the first of its pieces that is an object, and the code of that
object is taken out of the fence.
-/
namespace CodeRepair.Reply

open Json Text Schema

variable {content : String} {text body piece : List Char} {raw : Raw}

/-- The object that a reply is read as: the first of its pieces that is one. -/
def ReadAs (content : String) (raw : Raw) : Prop :=
  ∃ before piece after, candidates content.toList = before ++ piece :: after ∧
    (∀ p ∈ before, ∀ r, Schema.parse Raw (String.ofList p) ≠ .ok r) ∧
    Schema.parse Raw (String.ofList piece) = .ok raw

theorem firstRaw_append {before : List (List Char)}
    (hbefore : ∀ p ∈ before, ∀ r, Schema.parse Raw (String.ofList p) ≠ .ok r)
    (hpiece : Schema.parse Raw (String.ofList piece) = .ok raw) (after : List (List Char)) (failure : String) :
    firstRaw failure (before ++ piece :: after) = .ok raw := by
  induction before generalizing failure with
  | nil => rw [List.nil_append, firstRaw, hpiece]
  | cons p before ih =>
    rw [List.cons_append, firstRaw]
    cases hread : Schema.parse Raw (String.ofList p) with
    | ok r => exact absurd hread (hbefore p List.mem_cons_self r)
    | error fault => exact ih (fun q hq ↦ hbefore q (List.mem_cons_of_mem _ hq)) _

theorem ReadAs.parse_eq (h : ReadAs content raw) (provider : String) : parse provider content = raw.toProposal := by
  obtain ⟨before, piece, after, hpieces, hbefore, hpiece⟩ := h
  rw [parse, hpieces, firstRaw_append hbefore hpiece]

theorem candidates_head (h : trim text ≠ []) : ∃ others, candidates text = trim text :: others := by
  obtain ⟨c, cs, htrim⟩ := List.exists_cons_of_ne_nil h
  have hfirst : [trim text] <+: candidates text := by
    rw [candidates, List.foldl_cons, Option.map_some, htrim]
    dsimp only
    rw [if_neg List.not_mem_nil, List.nil_append]
    apply List.foldlRecOn
    · exact List.prefix_rfl
    · intro found hfound piece _
      split
      · split
        · exact hfound
        · exact hfound.trans (List.prefix_append _ _)
      · exact hfound
  obtain ⟨others, hothers⟩ := hfirst
  exact ⟨others, hothers.symm⟩

theorem ne_ok_of_isNone {text : String} (h : (Schema.parse Raw text).toOption.isNone = true) (raw : Raw) :
    Schema.parse Raw text ≠ .ok raw := by
  intro hread
  rw [hread] at h
  cases h

theorem readAs_of_object (h : Schema.parse Raw (trimmed content) = .ok raw) : ReadAs content raw := by
  have hne : trim content.toList ≠ [] := by
    intro hblank
    rw [trimmed, hblank] at h
    exact ne_ok_of_isNone (by decide +kernel) raw h
  obtain ⟨others, hothers⟩ := candidates_head hne
  exact ⟨[], trim content.toList, others, hothers, List.forall_mem_nil _, h⟩

theorem readAs_answer {e c answer : String} {ms : List (String × String)} (h : Answers e c ms)
    (hanswer : answer = (Value.ofStrings ms).compact ∨ answer = (Value.ofStrings ms).pretty) :
    ReadAs answer (answered e c) := by
  obtain ⟨l, rfl⟩ := h.layout hanswer
  apply readAs_of_object
  rw [trimmed, String.toList_ofList, trim_answer]
  exact parse_answer l h

theorem ReadAs.unwrapped (h : ReadAs content raw) (hcode : Wraps raw.fixedCode.toList body) (provider : String) :
    (parse provider content).fixedCode.toList = trimEnd body := by
  rw [h.parse_eq, Raw.toProposal]
  dsimp only
  rw [stripFences_of_wraps hcode]
  exact String.toList_ofList

/-- Code is taken out of a fence as it was put in, but for the blanks at its end, and so is code that a reply holds in a
fence. Nothing is taken out of a text exactly when no fence opens it or none closes it, and what is taken out stands in
it. -/
theorem fence_unwrapped :
    (∀ text body : List Char, Wraps text body → stripFences text = some (trimEnd body)) ∧
    (∀ (content : String) (raw : Raw), Schema.parse Raw (trimmed content) = .ok raw → ReadAs content raw) ∧
    (∀ (provider content : String) (raw : Raw) (body : List Char), ReadAs content raw →
      Wraps raw.fixedCode.toList body → (parse provider content).fixedCode.toList = trimEnd body) ∧
    (∀ (provider e c : String) (body : List Char), Wraps c.toList body →
      ∀ ms : List (String × String), ms.Perm [("explanation", e), ("fixed_code", c)] →
      ∀ answer, answer = (Value.ofStrings ms).compact ∨ answer = (Value.ofStrings ms).pretty →
        (parse provider answer).fixedCode.toList = trimEnd body) ∧
    ∀ text : List Char,
      (stripFences text = none ↔ ¬ fence <+: trim text ∨ ¬ fence <:+: afterOpening (trim text)) ∧
      ∀ code, stripFences text = some code → code <:+: text := by
  refine ⟨?_, ?_, ?_, ?_, ?_⟩
  · intro text body hwraps
    exact stripFences_of_wraps hwraps
  · intro content raw hobject
    exact readAs_of_object hobject
  · intro provider content raw body hread hwraps
    exact hread.unwrapped hwraps provider
  · intro provider e c body hwraps ms hms answer hanswer
    have hread : ReadAs answer (answered e c) := readAs_answer hms hanswer
    exact hread.unwrapped hwraps provider
  · intro text
    refine ⟨stripFences_eq_none_iff text, ?_⟩
    intro code hcode
    exact (fenced_of_stripFences hcode).isInfix

theorem fence_unwrapped_nested :
    stripFences " ```py `\n```x```\n\n``` ".toList = some "```x```".toList ∧
    stripFences "``` x\n``".toList = none ∧
    (parse "local" "\n\x7b\"explanation\":\"\",\"fixed_code\":\"```\\n```x\\n```\"\x7d").fixedCode = "```x" ∧
    (parse "local" "\x7b\"explanation\":\"\",\"fixed_code\":\"```\\n```x\\n```\"\x7d").fixedCode = "```x" := by
  obtain ⟨hstrip, hwhole, hread, hwritten, hnone⟩ := fence_unwrapped
  have hspaced : Wraps " ```py `\n```x```\n\n``` ".toList "```x```\n".toList :=
    ⟨"py `".toList, [' '], [' '], by decide, by decide, List.forall_mem_singleton.2 rfl, List.forall_mem_singleton.2 rfl⟩
  have hplain : Wraps "```\n```x\n```".toList "```x".toList :=
    ⟨[], [], [], by decide, by decide, List.forall_mem_nil _, List.forall_mem_nil _⟩
  have hend : trimEnd "```x```\n".toList = "```x```".toList := by decide
  have hcode : trimEnd "```x".toList = "```x".toList := by decide
  have hanswer : "\x7b\"explanation\":\"\",\"fixed_code\":\"```\\n```x\\n```\"\x7d" =
      (Value.ofStrings [("explanation", ""), ("fixed_code", "```\n```x\n```")]).compact := by decide +kernel
  have hobject : Schema.parse Raw (trimmed "\n\x7b\"explanation\":\"\",\"fixed_code\":\"```\\n```x\\n```\"\x7d") =
      .ok (answered "" "```\n```x\n```") := by
    obtain ⟨l, hl⟩ := Answers.layout (.refl _) (.inl hanswer)
    have htrimmed : trimmed "\n\x7b\"explanation\":\"\",\"fixed_code\":\"```\\n```x\\n```\"\x7d" =
        "\x7b\"explanation\":\"\",\"fixed_code\":\"```\\n```x\\n```\"\x7d" := by decide +kernel
    rw [htrimmed, hl]
    exact parse_answer l (.refl _)
  refine ⟨?_, ?_, ?_, ?_⟩
  · rw [hstrip _ _ hspaced, hend]
  · rw [(hnone _).1]
    exact .inr (by decide +kernel)
  · rw [← String.toList_inj, hread "local" _ _ _ (hwhole _ _ hobject) hplain, hcode]
  · rw [← String.toList_inj, hwritten "local" "" _ _ hplain _ (.refl _) _ (.inl hanswer), hcode]

end CodeRepair.Reply
