import CodeRepair.Proofs.Fix.Fences
import CodeRepair.Proofs.Fix.Scanner
import CodeRepair.Proofs.Schema.Objects
import Mathlib.Data.List.Permutation

/-!
An answer with something around it. Of the pieces of a reply that are tried, those that are read at all are read as
the answer, and the first balanced object is the answer, so it does not matter which of them comes first.
-/
namespace CodeRepair.Reply

open Json Text Schema

variable {l : Layout} {e c : String} {ms : List (String × String)} {raw : Raw} {content front rest : List Char}

section Pieces

def object? (content : List Char) : Option (List Char) :=
  match content.dropWhile (· ≠ '\x7b') with
  | [] => none
  | rest => balancedObject rest

theorem object?_brace (hfront : '\x7b' ∉ front) (rest : List Char) :
    object? (front ++ '\x7b' :: rest) = balancedObject ('\x7b' :: rest) := by
  have hdrop : (front ++ '\x7b' :: rest).dropWhile (· ≠ '\x7b') = '\x7b' :: rest := dropWhile_ne_append hfront rest
  rw [object?, hdrop]

theorem mem_foldl {α β : Type} {f : List α → β → List α} {P : β → α → Prop}
    (hf : ∀ found b a, a ∈ f found b ↔ a ∈ found ∨ P b a) (found : List α) (bs : List β) (a : α) :
    a ∈ bs.foldl f found ↔ a ∈ found ∨ ∃ b ∈ bs, P b a := by
  induction bs generalizing found with
  | nil => simp
  | cons b bs ih => simp [ih, hf, or_assoc]

/-- The pieces that are tried are those that are not blank, without the blanks around them. -/
theorem mem_candidates (content p : List Char) :
    p ∈ candidates content ↔
      p ≠ [] ∧ (trim content = p ∨ (stripFences content).map trim = some p ∨ (object? content).map trim = some p) := by
  refine (mem_foldl (P := fun piece p ↦ p ≠ [] ∧ piece.map trim = some p) ?_ [] _ p).trans ?_
  · intro found piece p
    split
    next c cs htrim =>
      rw [htrim]
      have hne : c :: cs ≠ [] := List.cons_ne_nil _ _
      split
      next hmem =>
        refine ⟨.inl, fun h ↦ h.elim id ?_⟩
        rintro ⟨-, ⟨⟩⟩
        exact hmem
      next hmem =>
        rw [List.mem_append, List.mem_singleton]
        refine or_congr_right ⟨?_, ?_⟩
        · rintro rfl
          exact ⟨hne, rfl⟩
        · rintro ⟨-, ⟨⟩⟩
          rfl
    next hblank =>
      refine ⟨.inl, fun h ↦ h.elim id fun ⟨hne, hp⟩ ↦ ?_⟩
      cases p with
      | nil => exact absurd rfl hne
      | cons c cs => exact absurd hp (hblank c cs)
  · change (p ∈ [] ∨
      ∃ piece ∈ [some content, stripFences content, object? content], p ≠ [] ∧ piece.map trim = some p) ↔ _
    simp only [List.not_mem_nil, false_or, List.mem_cons, or_false, exists_eq_or_imp, exists_eq_left, Option.map_some,
      Option.some.injEq]
    tauto

theorem firstRaw_eq {pieces : List (List Char)}
    (hall : ∀ p ∈ pieces, ∀ r, Schema.parse Raw (String.ofList p) = .ok r → r = raw)
    (hone : ∃ p ∈ pieces, Schema.parse Raw (String.ofList p) = .ok raw) (failure : String) :
    firstRaw failure pieces = .ok raw := by
  induction pieces generalizing failure with
  | nil =>
    obtain ⟨p, ⟨⟩, -⟩ := hone
  | cons p pieces ih =>
    rw [firstRaw]
    cases hread : Schema.parse Raw (String.ofList p) with
    | ok r => rw [hall p (by simp) r hread]
    | error fault =>
      refine ih (fun p' hp' ↦ hall p' (by simp [hp'])) ?_ _
      obtain ⟨p', hp', hraw⟩ := hone
      rcases List.mem_cons.1 hp' with rfl | hp'
      · rw [hread] at hraw
        cases hraw
      · exact ⟨p', hp', hraw⟩

end Pieces

section Answer

/-- An explanation and code under the names that an answer gives them, in either order. -/
def Answers (e c : String) (ms : List (String × String)) : Prop := ms.Perm [("explanation", e), ("fixed_code", c)]

theorem Answers.orders (h : Answers e c ms) :
    ms = [("explanation", e), ("fixed_code", c)] ∨ ms = [("fixed_code", c), ("explanation", e)] :=
  List.pair_perm.1 h.symm

def answered (e c : String) : Raw := ⟨some e, c, none⟩

def answerFields : Fields :=
  .cons "explanation" (.default .none) (.optional .text) <|
  .cons "fixed_code" .required .text <|
  .cons "confidence" (.default .none) (.optional .real) .nil

theorem shape_raw : shape Raw = .record "RawFix" answerFields := rfl

theorem Answers.fills (h : Answers e c ms) :
    Fills ((answerFields.readers (depthLimit - 1)).map fun r ↦ (r.1, r.2.2)) [none, none, none] ms
      [some (.some (.text e)), some (.text c), none] := by
  have hexplanation := optional_takes (text_takes (depthLimit - 1) e)
  have hcode := text_takes (depthLimit - 1) c
  rcases h.orders with rfl | rfl
  · exact .cons (by rfl : _ = some 0) rfl rfl hexplanation (.cons (by rfl : _ = some 1) rfl rfl hcode (.nil _))
  · exact .cons (by rfl : _ = some 1) rfl rfl hcode (.cons (by rfl : _ = some 0) rfl rfl hexplanation (.nil _))

theorem read_answer (l : Layout) (h : Answers e c ms) (rest : List Char) :
    ∃ c', (shape Raw).reader depthLimit (.ofChars (l.object ms ++ rest)) =
        .ok (.record [.some (.text e), .text c, .none], c') ∧ c'.rest = rest := by
  rw [shape_raw]
  exact record_over l h.fills rfl rfl

theorem parse_answer (l : Layout) (h : Answers e c ms) :
    Schema.parse Raw (String.ofList (l.object ms)) = .ok (answered e c) := by
  obtain ⟨c', hread, hrest⟩ := read_answer l h []
  rw [Schema.parse, Shape.parse, String.toList_ofList]
  rw [List.append_nil] at hread
  rw [hread]
  simp only [bind, Except.bind, Access.finish_eq hrest]
  rfl

theorem parse_answer_followed (h : Answers e c ms)
    (hparse : Schema.parse Raw (String.ofList (l.object ms ++ rest)) = .ok raw) : raw = answered e c := by
  obtain ⟨c', hread, -⟩ := read_answer l h rest
  rw [Schema.parse, Shape.parse, String.toList_ofList, hread] at hparse
  obtain ⟨d, hd, hparse⟩ := Registry.bind_eq_ok hparse
  obtain ⟨_, hread', hd⟩ := Registry.bind_eq_ok hd
  cases hread'
  obtain ⟨_, -, hd⟩ := Registry.bind_eq_ok hd
  cases hd
  cases hparse
  rfl

theorem answer_opens (l : Layout) (h : Answers e c ms) (rest : List Char) :
    ∃ after, l.object ms ++ rest = '\x7b' :: (l.line ++ '"' :: after) ∧ Jams after := by
  have hopens (key value : String) (ms : List (String × String)) : l.object ((key, value) :: ms) ++ rest =
      '\x7b' :: (l.line ++ '"' :: (key.toList.flatMap writeChar ++ '"' :: ':' ::
        (l.value ++ (writeString value ++ (l.members false ms ++ rest))))) := by
    simp [Layout.object, Layout.members, listed, Layout.member, writeString]
  rcases h.orders with rfl | rfl
  · exact ⟨_, hopens _ _ _, _, _, rfl, rfl, by decide, by decide⟩
  · exact ⟨_, hopens _ _ _, _, _, rfl, rfl, by decide, by decide⟩

theorem isSpace_of_isBlank {x : Char} (hx : isBlank x = false) : Cursor.isSpace x = false := by
  rw [← Bool.not_eq_true]
  intro hspace
  simp only [Cursor.isSpace, Bool.or_eq_true, decide_eq_true_eq] at hspace
  rcases hspace with ((rfl | rfl) | rfl) | rfl <;> cases hx

theorem parse_before {x : Char} (h : Answers e c ms) (hx : isBlank x = false) (hfront : '\x7b' ∉ x :: front) :
    Schema.parse Raw (String.ofList (x :: front ++ (l.object ms ++ rest))) ≠ .ok raw := by
  obtain ⟨after, hopens, hjams⟩ := answer_opens l h rest
  have htext (depth : Nat) : StaysOut l.line after (Shape.text.reader depth) := readString_staysOut l.line_blank _
  have hreal (depth : Nat) : StaysOut l.line after (Shape.real.reader depth) := readNumber_staysOut _ _ _
  intro hparse
  obtain ⟨d, hd, -⟩ := Registry.bind_eq_ok hparse
  rw [hopens, shape_raw] at hd
  refine record_before hjams ?_ (isSpace_of_isBlank hx) hfront d hd
  simp only [answerFields, Fields.readers, List.forall_mem_cons]
  exact ⟨optional_staysOut (htext _), htext _, optional_staysOut (hreal _), nofun⟩

end Answer

section Around

variable {tag : List Char}

theorem answer_closes (l : Layout) (ms : List (String × String)) : ∃ cs, l.object ms = '\x7b' :: (cs ++ ['\x7d']) :=
  ⟨listed true (ms.map l.member) ++ l.last, by simp [Layout.object, Layout.members]⟩

theorem trimEnd_around (front : List Char) (l : Layout) (ms : List (String × String)) (rest : List Char) :
    trimEnd (front ++ (l.object ms ++ rest)) = front ++ (l.object ms ++ trimEnd rest) := by
  obtain ⟨cs, hcs⟩ := answer_closes l ms
  have hlast : isBlank '\x7d' = false := by decide
  have htrim := trimEnd_append (front ++ '\x7b' :: cs) hlast rest
  simpa [hcs] using htrim

theorem trim_around (front : List Char) (l : Layout) (ms : List (String × String)) (rest : List Char) :
    trim (front ++ (l.object ms ++ rest)) = trimStart front ++ (l.object ms ++ trimEnd rest) := by
  obtain ⟨cs, hcs⟩ := answer_closes l ms
  have htrim := trim_between (by decide : isBlank '\x7b' = false) (by decide : isBlank '\x7d' = false) front cs rest
  simpa [hcs] using htrim

theorem object?_around (hfront : '\x7b' ∉ front) (l : Layout) (ms : List (String × String)) (rest : List Char) :
    object? (front ++ (l.object ms ++ rest)) = some (l.object ms) := by
  have hobject := balancedObject_object l ms rest
  obtain ⟨cs, hcs⟩ := answer_closes l ms
  rw [hcs] at hobject ⊢
  exact (object?_brace hfront _).trans hobject

theorem trim_answer (l : Layout) (ms : List (String × String)) : trim (l.object ms) = l.object ms := by
  have htrim : trim (l.object ms ++ []) = l.object ms ++ [] := trim_around [] l ms []
  rwa [List.append_nil] at htrim

/-- A piece that is read is read as the answer: whatever comes before it is either blank or keeps it from being read. -/
theorem candidates_around (h : Answers e c ms) (hfront : '\x7b' ∉ front)
    (hstrip : ∀ t ∈ stripFences (front ++ (l.object ms ++ rest)), ∃ more, t = l.object ms ++ more) {p : List Char}
    (hp : p ∈ candidates (front ++ (l.object ms ++ rest))) (hr : Schema.parse Raw (String.ofList p) = .ok raw) :
    raw = answered e c := by
  obtain ⟨-, rfl | hinside | hobject⟩ := (mem_candidates _ _).1 hp
  · rw [trim_around] at hr
    cases hstart : trimStart front with
    | nil =>
      rw [hstart] at hr
      exact parse_answer_followed h hr
    | cons x front' =>
      have hbrace : '\x7b' ∉ x :: front' := by
        rw [← hstart]
        exact fun hbrace ↦ hfront ((trimStart_suffix front).subset hbrace)
      rw [hstart] at hr
      exact absurd hr (parse_before h (isBlank_of_trimStart hstart) hbrace)
  · obtain ⟨t, ht, rfl⟩ := Option.map_eq_some_iff.1 hinside
    obtain ⟨more, rfl⟩ := hstrip t ht
    have htrim : trim (l.object ms ++ more) = l.object ms ++ trimEnd more := trim_around [] l ms more
    rw [htrim] at hr
    exact parse_answer_followed h hr
  · rw [object?_around hfront, Option.map_some, trim_answer] at hobject
    cases hobject
    rw [parse_answer l h] at hr
    cases hr
    rfl

theorem parse_around (provider : String) (l : Layout) (h : Answers e c ms) (hfront : '\x7b' ∉ front)
    (hstrip : ∀ t ∈ stripFences (front ++ (l.object ms ++ rest)), ∃ more, t = l.object ms ++ more) :
    parse provider (String.ofList (front ++ (l.object ms ++ rest))) = (answered e c).toProposal := by
  have hmem : l.object ms ∈ candidates (front ++ (l.object ms ++ rest)) := by
    rw [mem_candidates, object?_around hfront, Option.map_some, trim_answer]
    exact ⟨List.cons_ne_nil _ _, .inr (.inr rfl)⟩
  have hall : ∀ p ∈ candidates (front ++ (l.object ms ++ rest)), ∀ r,
      Schema.parse Raw (String.ofList p) = .ok r → r = answered e c :=
    fun p hp r hr ↦ candidates_around h hfront hstrip hp hr
  rw [parse, String.toList_ofList, firstRaw_eq hall ⟨_, hmem, parse_answer l h⟩]

theorem stripFences_brace (hfront : Char.ofNat 0x60 ∉ front) (cs : List Char) :
    stripFences (front ++ '\x7b' :: cs) = none := by
  refine stripFences_unopened fun hfence ↦ ?_
  obtain ⟨opened, hopened⟩ := hfence.trans (trimEnd_front _)
  rw [trimStart_append front (by decide)] at hopened
  cases hstart : trimStart front with
  | nil =>
    rw [hstart] at hopened
    exact absurd (List.cons.inj hopened).1 (by decide)
  | cons x front' =>
    rw [hstart] at hopened
    have hx : Char.ofNat 0x60 = x := (List.cons.inj hopened).1
    refine hfront ((trimStart_suffix front).subset ?_)
    rw [hstart, hx]
    exact List.mem_cons_self

theorem stripFences_plain (hfront : Char.ofNat 0x60 ∉ front) (l : Layout) (ms : List (String × String))
    (rest : List Char) : stripFences (front ++ (l.object ms ++ rest)) = none := by
  obtain ⟨cs, hcs⟩ := answer_closes l ms
  rw [hcs]
  exact stripFences_brace hfront _

/-- The last fence of a text is no earlier than the one after the answer, so all of the answer stands before it. -/
theorem stripFences_fenced (htag : '\n' ∉ tag) (l : Layout) (ms : List (String × String)) (rest : List Char) :
    ∃ more, stripFences (fence ++ tag ++ ['\n'] ++ (l.object ms ++ '\n' :: (fence ++ rest))) =
      some (l.object ms ++ more) := by
  have hmark : isBlank (Char.ofNat 0x60) = false := by decide
  have htrim : trim (fence ++ tag ++ ['\n'] ++ (l.object ms ++ '\n' :: (fence ++ rest))) =
      fence ++ (tag ++ '\n' :: (l.object ms ++ '\n' :: (fence ++ trimEnd rest))) := by
    have hstart : trimStart (fence ++ tag ++ ['\n'] ++ (l.object ms ++ '\n' :: (fence ++ rest))) =
        fence ++ tag ++ ['\n'] ++ (l.object ms ++ '\n' :: (fence ++ rest)) := trimStart_cons hmark _
    have hend := trimEnd_append
      (fence ++ tag ++ ['\n'] ++ (l.object ms ++ '\n' :: List.replicate 2 (Char.ofNat 0x60))) hmark rest
    rw [trim, hstart]
    simpa [fence] using hend
  have hopens : fence <+: trim (fence ++ tag ++ ['\n'] ++ (l.object ms ++ '\n' :: (fence ++ rest))) := by
    rw [htrim]
    exact List.prefix_append _ _
  obtain ⟨more, hmore⟩ := beforeLast?_append fence (l.object ms ++ ['\n']) (trimEnd rest)
  have hbody : beforeLast? fence (l.object ms ++ '\n' :: (fence ++ trimEnd rest)) =
      some (l.object ms ++ '\n' :: more) := by simpa using hmore
  refine ⟨trimEnd ('\n' :: more), ?_⟩
  rw [stripFences_opened hopens, htrim, afterOpening_lines htag, hbody, Option.map_some]
  exact congrArg some (trimEnd_around [] l ms _)

theorem parse_after (provider : String) (l : Layout) (h : Answers e c ms) (hbrace : '\x7b' ∉ front)
    (hmark : Char.ofNat 0x60 ∉ front) (rest : List Char) :
    parse provider (String.ofList (front ++ (l.object ms ++ rest))) = (answered e c).toProposal := by
  refine parse_around provider l h hbrace ?_
  rw [stripFences_plain hmark]
  nofun

theorem parse_fenced (provider : String) (l : Layout) (h : Answers e c ms) (hline : '\n' ∉ tag)
    (hbrace : '\x7b' ∉ tag) (rest : List Char) :
    parse provider (String.ofList (fence ++ tag ++ ['\n'] ++ (l.object ms ++ '\n' :: (fence ++ rest)))) =
      (answered e c).toProposal := by
  have hfront : '\x7b' ∉ fence ++ tag ++ ['\n'] := by simp [fence, hbrace]
  refine parse_around provider l h hfront ?_
  obtain ⟨more, hmore⟩ := stripFences_fenced hline l ms rest
  rw [hmore]
  rintro t ⟨⟩
  exact ⟨more, rfl⟩

theorem parse_alone (provider : String) (l : Layout) (h : Answers e c ms) :
    parse provider (String.ofList (l.object ms)) = (answered e c).toProposal := by
  have hafter := parse_after provider l h (by simp : '\x7b' ∉ []) (by simp) []
  rwa [List.nil_append, List.append_nil] at hafter

theorem answered_toProposal (h : ¬ fence <+: trim c.toList) (e : String) :
    (answered e c).toProposal = ⟨trimmed e, c, none⟩ := by
  rw [Raw.toProposal, answered]
  dsimp only
  rw [stripFences_unopened h]
  rfl

theorem Answers.layout (h : Answers e c ms) {answer : String}
    (hanswer : answer = (Value.ofStrings ms).compact ∨ answer = (Value.ofStrings ms).pretty) :
    ∃ l : Layout, answer = String.ofList (l.object ms) := by
  rcases hanswer with rfl | rfl
  · exact ⟨.compact, congrArg String.ofList (writeCompact_ofStrings ms)⟩
  · rcases h.orders with rfl | rfl
    · exact ⟨.pretty, congrArg String.ofList (writePretty_ofStrings _ _)⟩
    · exact ⟨.pretty, congrArg String.ofList (writePretty_ofStrings _ _)⟩

end Around

/-- An answer is recovered from a text around it and from inside a code fence, and its code is taken as it is. -/
theorem packaged_answer_recovered (provider e c : String) {ms : List (String × String)}
    (hms : ms.Perm [("explanation", e), ("fixed_code", c)]) {answer : String}
    (hanswer : answer = (Value.ofStrings ms).compact ∨ answer = (Value.ofStrings ms).pretty) :
    (∀ before after : String, '\x7b' ∉ before.toList → Char.ofNat 0x60 ∉ before.toList →
        parse provider (before ++ answer ++ after) = parse provider answer) ∧
      (∀ tag after : String, '\n' ∉ tag.toList → '\x7b' ∉ tag.toList →
        parse provider ("```" ++ tag ++ "\n" ++ answer ++ "\n```" ++ after) = parse provider answer) ∧
      (¬ "```".toList <+: trim c.toList → parse provider answer = ⟨trimmed e, c, none⟩) := by
  have h : Answers e c ms := hms
  obtain ⟨l, rfl⟩ := h.layout hanswer
  rw [parse_alone provider l h]
  refine ⟨fun before after hbrace hmark ↦ ?_, fun tag after hline hbrace ↦ ?_, fun hcode ↦ ?_⟩
  · have htext : before ++ String.ofList (l.object ms) ++ after =
        String.ofList (before.toList ++ (l.object ms ++ after.toList)) := by
      simp [← String.toList_inj]
    rw [htext]
    exact parse_after provider l h hbrace hmark after.toList
  · have htext : "```" ++ tag ++ "\n" ++ String.ofList (l.object ms) ++ "\n```" ++ after =
        String.ofList (fence ++ tag.toList ++ ['\n'] ++ (l.object ms ++ '\n' :: (fence ++ after.toList))) := by
      simp [← String.toList_inj, fence, List.replicate]
    rw [htext]
    exact parse_fenced provider l h hline hbrace after.toList
  · exact answered_toProposal hcode e

theorem packaged_answer_recovered_braces :
    parse "local" ("Sure: " ++ "\x7b\"fixed_code\":\"f(\\\"\x7d\\\")\",\"explanation\":\" a \x7b was lost\"\x7d" ++
        " \x7bdone\x7d ```") = ⟨"a \x7b was lost", "f(\"\x7d\")", none⟩ ∧
      parse "local" ("```" ++ "json" ++ "\n" ++
        "\x7b\"fixed_code\":\"f(\\\"\x7d\\\")\",\"explanation\":\" a \x7b was lost\"\x7d" ++ "\n```" ++ "\n```") =
        ⟨"a \x7b was lost", "f(\"\x7d\")", none⟩ := by
  have hanswer : "\x7b\"fixed_code\":\"f(\\\"\x7d\\\")\",\"explanation\":\" a \x7b was lost\"\x7d" =
      (Value.ofStrings [("fixed_code", "f(\"\x7d\")"), ("explanation", " a \x7b was lost")]).compact := by decide
  obtain ⟨hafter, hfenced, hcode⟩ :=
    packaged_answer_recovered "local" " a \x7b was lost" "f(\"\x7d\")" (.swap _ _ _) (.inl hanswer)
  have hread := hcode (by decide)
  exact ⟨(hafter _ _ (by decide) (by decide)).trans hread, (hfenced _ _ (by decide) (by decide)).trans hread⟩

end CodeRepair.Reply
