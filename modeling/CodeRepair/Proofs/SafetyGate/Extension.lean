import CodeRepair.Proofs.SafetyGate.Blocking
import CodeRepair.Proofs.Text.Spelling
import Mathlib.Data.List.Nodup

/-!
Gates with more terms. Terms are only ever added at the end, so a gate with more of them blocks what one with fewer
does, and says the same of it. Whether it blocks at all depends on which terms there are, not on how they were given.
-/
namespace CodeRepair.SafetyGate

variable {gate wider : SafetyGate} {extra other : List String} {term code : String}

section Growth

theorem addTerm_front (gate : SafetyGate) (term : String) : gate.terms <+: (gate.addTerm term).terms := by
  rw [addTerm]
  split
  · exact List.prefix_rfl
  · exact List.prefix_append _ _

theorem foldl_addTerm_front (gate : SafetyGate) (extra : List String) :
    gate.terms <+: (extra.foldl addTerm gate).terms := by
  induction extra generalizing gate with
  | nil => exact List.prefix_rfl
  | cons term extra ih =>
    rw [List.foldl_cons]
    exact (addTerm_front gate term).trans (ih (gate.addTerm term))

/-- No term is blank, and none stands in the list twice. -/
structure Tidy (gate : SafetyGate) : Prop where
  nodup : gate.terms.Nodup
  not_blank : ∀ term ∈ gate.terms, Text.blank term = false

theorem tidy_builtIn : builtIn.Tidy := ⟨by decide +kernel, by decide +kernel⟩

theorem not_blank_of_tight {cs : List Char} (htight : Text.trim cs = cs) (hne : cs ≠ []) :
    Text.isAllBlank cs = false := by
  rw [← Bool.not_eq_true, ← Text.trim_eq_nil_iff, htight]
  exact hne

theorem Tidy.addTerm (h : gate.Tidy) (term : String) : (gate.addTerm term).Tidy := by
  rw [SafetyGate.addTerm]
  split
  · exact h
  next hnew =>
    rw [not_or] at hnew
    have hne : Text.lower (Text.trim term.toList) ≠ [] := by
      have hempty := hnew.1
      rwa [Text.lowerCase, Text.trimmed, String.toList_ofList, String.ofList_eq_empty_iff] at hempty
    have htight := Text.trim_lower (Text.trim_trim term.toList)
    have hnodup : (gate.terms ++ [Text.lowerCase (Text.trimmed term)]).Nodup := by
      rw [← List.concat_eq_append, List.nodup_concat]
      exact ⟨hnew.2, h.nodup⟩
    refine ⟨hnodup, List.forall_mem_append.2 ⟨h.not_blank, ?_⟩⟩
    rw [List.forall_mem_singleton, Text.blank, Text.lowerCase, Text.trimmed, String.toList_ofList, String.toList_ofList]
    exact not_blank_of_tight htight hne

theorem Tidy.foldl_addTerm (h : gate.Tidy) (extra : List String) : (extra.foldl SafetyGate.addTerm gate).Tidy := by
  induction extra generalizing gate with
  | nil => exact h
  | cons term extra ih =>
    rw [List.foldl_cons]
    exact ih (h.addTerm term)

/-- What a gate blocks is blocked in the same words by one with more terms after its own. -/
theorem check_of_front (hfront : gate.terms <+: wider.terms) (hblocked : (gate.check code).safe = false) :
    wider.check code = gate.check code := by
  obtain ⟨more, hmore⟩ := hfront
  rw [check] at hblocked
  rw [check, check, ← hmore, List.find?_append]
  split at hblocked
  next first hfirst => rw [hfirst, Option.some_or]
  · cases hblocked

end Growth

section Restated

/-- Two ways to give the same extra terms. -/
inductive Restated : List String → List String → Prop
  | permuted {extra other : List String} (h : extra.Perm other) : Restated extra other
  | repeated {extra : List String} {term : String} (h : term ∈ extra) : Restated extra (term :: extra)
  | blank {term : String} (extra : List String) (h : Text.blank term = true) : Restated extra (term :: extra)
  | respelled {term term' : String} (front rest : List String) (h : Text.Respelled term.toList term'.toList) :
      Restated (front ++ term :: rest) (front ++ term' :: rest)
  | symm {extra other : List String} (h : Restated extra other) : Restated other extra
  | trans {extra between other : List String} (h : Restated extra between) (h' : Restated between other) :
      Restated extra other

def spelling (term : String) : String := Text.lowerCase (Text.trimmed term)

theorem spelling_blank (h : Text.blank term = true) : spelling term = "" := by
  have hnil : Text.trim term.toList = [] := (Text.trim_eq_nil_iff _).2 h
  rw [spelling, Text.trimmed, hnil]
  rfl

theorem spelling_respelled {term' : String} (h : Text.Respelled term.toList term'.toList) :
    spelling term = spelling term' := by
  rw [spelling, spelling, Text.lowerCase, Text.lowerCase, Text.trimmed, Text.trimmed, String.toList_ofList,
    String.toList_ofList, h.lower_trim]

theorem Restated.spellings (h : Restated extra other) (hne : term ≠ "") :
    (∃ t ∈ extra, term = spelling t) ↔ ∃ t ∈ other, term = spelling t := by
  induction h with
  | permuted h => simp only [h.mem_iff]
  | repeated h =>
    rw [List.exists_mem_cons_iff, or_iff_right_of_imp]
    exact fun hterm ↦ ⟨_, h, hterm⟩
  | blank extra h =>
    rw [List.exists_mem_cons_iff, or_iff_right]
    rwa [spelling_blank h]
  | respelled front rest h =>
    simp only [List.mem_append, List.mem_cons, or_and_right, exists_or, exists_eq_left, spelling_respelled h]
  | symm _ ih => exact ih.symm
  | trans _ _ ih ih' => exact ih.trans ih'

theorem Restated.safe_eq (h : Restated extra other) (code : String) :
    ((withExtraTerms other).check code).safe = ((withExtraTerms extra).check code).safe := by
  have hterms (term : String) : term ∈ (withExtraTerms other).terms ↔ term ∈ (withExtraTerms extra).terms := by
    rw [mem_withExtraTerms, mem_withExtraTerms]
    exact or_congr_right (and_congr_right fun hne ↦ (h.spellings hne).symm)
  rw [← Bool.not_inj_iff, Bool.eq_iff_iff, Bool.not_eq_true', Bool.not_eq_true', check_unsafe_iff, check_unsafe_iff]
  simp only [hterms]

end Restated

/-- Further terms come after those there are, none blank and none twice; what was blocked is blocked in the same words,
and the order, number and spelling of the terms do not matter to what is safe. -/
theorem extension_tightens (extra more : List String) :
    builtInTerms <+: (withExtraTerms extra).terms ∧
      (withExtraTerms extra).terms <+: (withExtraTerms (extra ++ more)).terms ∧
      (withExtraTerms (extra ++ more)).terms.Nodup ∧
      (∀ term ∈ (withExtraTerms (extra ++ more)).terms, Text.blank term = false) ∧
      (∀ code : String, ((withExtraTerms extra).check code).safe = false →
        (withExtraTerms (extra ++ more)).check code = (withExtraTerms extra).check code) ∧
      ∀ other : List String, Restated extra other → ∀ code : String,
        ((withExtraTerms other).check code).safe = ((withExtraTerms extra).check code).safe := by
  have hfront : (withExtraTerms extra).terms <+: (withExtraTerms (extra ++ more)).terms := by
    rw [withExtraTerms, withExtraTerms, List.foldl_append]
    exact foldl_addTerm_front _ more
  have htidy : (withExtraTerms (extra ++ more)).Tidy := tidy_builtIn.foldl_addTerm (extra ++ more)
  exact ⟨foldl_addTerm_front builtIn extra, hfront, htidy.nodup, htidy.not_blank, fun _ ↦ check_of_front hfront,
    fun _ h ↦ h.safe_eq⟩

theorem extension_tightens_socket :
    (withExtraTerms (["Socket"] ++ ["ΑΣ", " "])).check "SOCKET ας" = (withExtraTerms ["Socket"]).check "SOCKET ας" ∧
      ((withExtraTerms ["Socket", "", "\tsOCKET "]).check "SOCKET ας").safe =
        ((withExtraTerms ["Socket"]).check "SOCKET ας").safe := by
  obtain ⟨-, -, -, -, hsame, hsafe⟩ := extension_tightens ["Socket"] ["ΑΣ", " "]
  refine ⟨hsame "SOCKET ας" (by decide +kernel), hsafe _ ?_ "SOCKET ας"⟩
  have hspelt : Text.Respelled "Socket".toList "\tsOCKET ".toList := by
    have hone : "Socket".toList = [] ++ ("Socket".toList ++ []) := by simp
    have htwo : "\tsOCKET ".toList = ['\t'] ++ ("sOCKET".toList ++ [' ']) := by decide +kernel
    rw [hone, htwo]
    exact .around (by decide +kernel) rfl rfl rfl rfl
  have htwice : Restated ["Socket"] ["\tsOCKET ", "Socket"] :=
    .trans (.repeated (List.mem_singleton_self _)) (.respelled [] ["Socket"] hspelt)
  have hblank : Restated ["Socket"] ["", "\tsOCKET ", "Socket"] := .trans htwice (.blank _ (by decide))
  exact .trans hblank (.permuted (by decide))

end CodeRepair.SafetyGate
