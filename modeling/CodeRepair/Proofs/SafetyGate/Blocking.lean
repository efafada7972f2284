import CodeRepair.SafetyGate
import CodeRepair.Proofs.Text.LowerCase
import CodeRepair.Proofs.Text.Search
import CodeRepair.Proofs.Text.Trim

/-!
What a gate blocks. Terms without small sigmas, which all built-in ones are, are found in every text around a text that
holds them; a capital sigma at the edge of a word makes a term that text around it can hide.
-/
namespace CodeRepair.SafetyGate

variable {gate : SafetyGate} {extra : List String} {term code : String}

section Terms

theorem mem_addTerm : term ∈ (gate.addTerm code).terms ↔
    term ∈ gate.terms ∨ term ≠ "" ∧ term = Text.lowerCase (Text.trimmed code) := by
  rw [addTerm]
  split
  next hknown =>
    constructor
    · exact Or.inl
    · rintro (hterm | ⟨hne, rfl⟩)
      · exact hterm
      · exact hknown.resolve_left hne
  next hnew =>
    have hne : Text.lowerCase (Text.trimmed code) ≠ "" := fun hempty ↦ hnew (Or.inl hempty)
    rw [List.mem_append, List.mem_singleton]
    constructor
    · rintro (hterm | rfl)
      · exact Or.inl hterm
      · exact Or.inr ⟨hne, rfl⟩
    · rintro (hterm | ⟨-, rfl⟩)
      · exact Or.inl hterm
      · exact Or.inr rfl

theorem mem_foldl_addTerm : term ∈ (extra.foldl addTerm gate).terms ↔
    term ∈ gate.terms ∨ term ≠ "" ∧ ∃ t ∈ extra, term = Text.lowerCase (Text.trimmed t) := by
  induction extra generalizing gate with
  | nil => simp
  | cons t extra ih =>
    rw [List.foldl_cons, ih, mem_addTerm, or_assoc, ← and_or_left]
    simp

theorem mem_withExtraTerms : term ∈ (withExtraTerms extra).terms ↔
    term ∈ builtInTerms ∨ term ≠ "" ∧ ∃ t ∈ extra, term = Text.lowerCase (Text.trimmed t) :=
  mem_foldl_addTerm

theorem extra_mem (hterm : term ∈ extra) (hne : Text.trimmed term ≠ "") :
    Text.lowerCase (Text.trimmed term) ∈ (withExtraTerms extra).terms := by
  have hlower : Text.lowerCase (Text.trimmed term) ≠ "" := by
    rw [Text.lowerCase, Ne, String.ofList_eq_empty_iff]
    apply Text.lower_ne_nil
    rwa [Ne, String.toList_eq_nil_iff]
  exact mem_withExtraTerms.2 (Or.inr ⟨hlower, term, hterm, rfl⟩)

theorem isAscii_builtIn : ∀ term ∈ builtInTerms, Text.IsAscii term.toList := by
  decide +kernel

/-- The built-in gate, or one with further terms in ASCII. -/
def InAscii (gate : SafetyGate) : Prop :=
  gate = builtIn ∨ ∃ extra : List String, (∀ t ∈ extra, Text.IsAscii t.toList) ∧ gate = withExtraTerms extra

theorem InAscii.terms (h : gate.InAscii) : ∀ term ∈ gate.terms, Text.IsAscii term.toList := by
  intro term hterm
  obtain rfl | ⟨extra, hextra, rfl⟩ := h
  · exact isAscii_builtIn term hterm
  · obtain hbuiltIn | ⟨-, t, ht, rfl⟩ := mem_withExtraTerms.1 hterm
    · exact isAscii_builtIn term hbuiltIn
    · have htrim : Text.IsAscii (Text.trim t.toList) := by
        intro c hc
        exact hextra t ht c ((Text.trim_within t.toList).subset hc)
      rw [Text.lowerCase, Text.trimmed, String.toList_ofList, String.toList_ofList]
      exact htrim.lower

end Terms

section Check

/-- A text holds a term where the term stands in its lower case. -/
def Holds (code term : String) : Prop := term.toList <:+: Text.lower code.toList

theorem idxOf_le_of_find? {p : String → Bool} {terms : List String} {other : String}
    (hfirst : terms.find? p = some term) (hother : p other = true) : terms.idxOf term ≤ terms.idxOf other := by
  obtain ⟨-, before, after, rfl, hbefore⟩ := List.find?_eq_some_iff_append.1 hfirst
  have hnot : other ∉ before := by
    intro hmem
    have hfalse := hbefore other hmem
    rw [hother] at hfalse
    cases hfalse
  have hterm : (before ++ term :: after).idxOf term ≤ before.length := by
    rw [List.idxOf_append]
    split
    · exact List.idxOf_le_length
    · simp
  rw [List.idxOf_append_of_notMem hnot]
  exact hterm.trans (Nat.le_add_right _ _)

/-- What a gate says: the first of its terms that the text holds, if there is one. -/
theorem check_cases (gate : SafetyGate) (code : String) :
    (∃ term ∈ gate.terms, Holds code term ∧ gate.check code = .blocked term ∧
        ∀ other, Holds code other → gate.terms.idxOf term ≤ gate.terms.idxOf other) ∨
      gate.check code = .pass ∧ ∀ term ∈ gate.terms, ¬ Holds code term := by
  have hholds (term : String) :
      Text.occurs term.toList (Text.lowerCase code).toList = true ↔ Holds code term := by
    rw [Text.occurs_iff, Text.lowerCase, String.toList_ofList, Holds]
  rw [check]
  split
  next term hfirst =>
    have hfound := List.find?_some hfirst
    left
    refine ⟨term, List.mem_of_find?_eq_some hfirst, (hholds term).1 hfound, rfl, ?_⟩
    intro other hother
    exact idxOf_le_of_find? hfirst ((hholds other).2 hother)
  next hnone =>
    right
    refine ⟨rfl, ?_⟩
    intro term hterm hheld
    exact List.find?_eq_none.1 hnone term hterm ((hholds term).2 hheld)

theorem check_unsafe_iff : (gate.check code).safe = false ↔ ∃ term ∈ gate.terms, Holds code term := by
  obtain ⟨term, hterm, hheld, hcheck, -⟩ | ⟨hcheck, hnone⟩ := check_cases gate code
  · rw [hcheck]
    exact iff_of_true rfl ⟨term, hterm, hheld⟩
  · rw [hcheck]
    apply iff_of_false (by decide)
    rintro ⟨term, hterm, hheld⟩
    exact hnone term hterm hheld

theorem Holds.around (h : Holds code term) (hterm : Text.IsAscii term.toList) (front rest : String) :
    Holds (front ++ code ++ rest) term := by
  rw [Holds, String.toList_append, String.toList_append]
  exact Text.infix_lower_around hterm.noSigma h _ _

end Check

/-- Text around blocked code does not hide it: the whole is blocked too, by a term that is no later in the list. And the
case of ASCII letters does not matter. -/
theorem blocked_in_any_text (h : gate.InAscii) :
    (∀ front code rest : String, (gate.check code).safe = false → ∃ term first : String,
        gate.check code = .blocked term ∧ gate.check (front ++ code ++ rest) = .blocked first ∧
          term ∈ gate.terms ∧ first ∈ gate.terms ∧ gate.terms.idxOf first ≤ gate.terms.idxOf term) ∧
      ∀ one two : String, one.toList.map Char.toLower = two.toList.map Char.toLower →
        gate.check one = gate.check two := by
  constructor
  · intro front code rest hblocked
    obtain ⟨term, hterm, hheld, hcheck, -⟩ | ⟨hpass, -⟩ := check_cases gate code
    · have haround := hheld.around (h.terms term hterm) front rest
      obtain ⟨first, hfirst, -, hwhole, hleast⟩ | ⟨-, hnone⟩ := check_cases gate (front ++ code ++ rest)
      · exact ⟨term, first, hcheck, hwhole, hterm, hfirst, hleast term haround⟩
      · exact absurd haround (hnone term hterm)
    · rw [hpass] at hblocked
      cases hblocked
  · intro one two hsame
    rw [check, check, Text.lowerCase, Text.lowerCase, Text.lower_eq_of_map_toLower hsame]

theorem blocked_in_any_text_socket :
    (∃ term first : String, (withExtraTerms [" Socket "]).check "SOCKET" = .blocked term ∧
        (withExtraTerms [" Socket "]).check ("Σ eval(" ++ "SOCKET" ++ "Σ)") = .blocked first ∧
          (withExtraTerms [" Socket "]).terms.idxOf first ≤ (withExtraTerms [" Socket "]).terms.idxOf term) ∧
      (withExtraTerms [" Socket "]).check "Socket ΑΣ" = (withExtraTerms [" Socket "]).check "sOCKET ΑΣ" := by
  have hascii : (withExtraTerms [" Socket "]).InAscii := Or.inr ⟨[" Socket "], by decide, rfl⟩
  obtain ⟨hwrapped, hcase⟩ := blocked_in_any_text hascii
  constructor
  · have hblocked : ((withExtraTerms [" Socket "]).check "SOCKET").safe = false := by decide +kernel
    obtain ⟨term, first, hcode, hwhole, -, -, hle⟩ := hwrapped "Σ eval(" "SOCKET" "Σ)" hblocked
    exact ⟨term, first, hcode, hwhole, hle⟩
  · exact hcase "Socket ΑΣ" "sOCKET ΑΣ" (by decide)

section Extra

theorem builtIn_beside_letter : ∀ term ∈ builtInTerms,
    term.toList ≠ [] ∧ term.toList.head? ≠ some 'a' ∧ term.toList.getLast? ≠ some 'a' := by
  decide +kernel

theorem Holds.without_letter (hterm : term ∈ builtInTerms) :
    (Holds (code ++ "a") term → Holds code term) ∧ (Holds ("a" ++ code) term → Holds code term) := by
  obtain ⟨hne, hhead, hlast⟩ := builtIn_beside_letter term hterm
  have hsigma := (isAscii_builtIn term hterm).noSigma
  constructor
  · intro h
    rw [Holds, String.toList_append] at h
    exact Text.infix_before_letter hsigma hlast hne h
  · intro h
    rw [Holds, String.toList_append] at h
    exact Text.infix_after_letter hsigma hhead hne h

theorem holds_extra_iff : Holds code (Text.lowerCase (Text.trimmed term)) ↔
    Text.lower (Text.trimmed term).toList <:+: Text.lower code.toList := by
  rw [Holds, Text.lowerCase, String.toList_ofList]

theorem check_extra_safe (hterm : ¬ Holds code (Text.lowerCase (Text.trimmed term)))
    (hbuiltIn : ∀ other ∈ builtInTerms, ¬ Holds code other) : ((withExtraTerms [term]).check code).safe = true := by
  rw [← Bool.not_eq_false, check_unsafe_iff]
  rintro ⟨other, hother, hheld⟩
  obtain hknown | ⟨-, t, ht, rfl⟩ := mem_withExtraTerms.1 hother
  · exact hbuiltIn other hknown hheld
  · rw [List.mem_singleton.1 ht] at hheld
    exact hterm hheld

/-- A letter beside it hides an extra term that is not settled, as long as the term holds no built-in one. -/
theorem hidden_beside_letter (hsettled : ¬ Text.Settled (Text.trimmed term).toList)
    (hbuiltIn : ∀ other ∈ builtInTerms, ¬ Holds (Text.trimmed term) other) :
    ((withExtraTerms [term]).check (Text.trimmed term ++ "a")).safe = true ∨
      ((withExtraTerms [term]).check ("a" ++ Text.trimmed term)).safe = true := by
  obtain hafter | hbefore := Text.not_infix_of_not_settled hsettled
  · left
    apply check_extra_safe
    · rwa [holds_extra_iff, String.toList_append]
    · intro other hother hheld
      exact hbuiltIn other hother ((Holds.without_letter hother).1 hheld)
  · right
    apply check_extra_safe
    · rwa [holds_extra_iff, String.toList_append]
    · intro other hother hheld
      exact hbuiltIn other hother ((Holds.without_letter hother).2 hheld)

/-- An extra term blocks every text around it exactly if text around it cannot change how it is lowered, or if it holds
a built-in term. -/
theorem extra_term_blocks (hne : Text.trimmed term ≠ "") :
    (∀ extra : List String, term ∈ extra → ∀ front rest : String,
        ((withExtraTerms extra).check (front ++ Text.trimmed term ++ rest)).safe = false) ↔
      Text.Settled (Text.trimmed term).toList ∨ (builtIn.check (Text.trimmed term)).safe = false := by
  constructor
  · intro hblocks
    by_contra hnot
    rw [not_or, check_unsafe_iff] at hnot
    obtain ⟨hsettled, hbuiltIn⟩ := hnot
    have hblocked := hblocks [term] (List.mem_singleton_self term)
    obtain hsafe | hsafe := hidden_beside_letter hsettled fun other hother hheld ↦ hbuiltIn ⟨other, hother, hheld⟩
    · have hafter := hblocked "" "a"
      rw [String.empty_append, hsafe] at hafter
      cases hafter
    · have hbefore := hblocked "a" ""
      rw [String.append_empty, hsafe] at hbefore
      cases hbefore
  · intro h extra hterm front rest
    rw [check_unsafe_iff]
    obtain hsettled | hbuiltIn := h
    · refine ⟨_, extra_mem hterm hne, ?_⟩
      rw [holds_extra_iff, String.toList_append, String.toList_append]
      exact hsettled.infix_lower _ _
    · obtain ⟨other, hother, hheld⟩ := check_unsafe_iff.1 hbuiltIn
      exact ⟨other, mem_withExtraTerms.2 (Or.inl hother), hheld.around (isAscii_builtIn other hother) front rest⟩

theorem extra_term_blocks_socket_sigma :
    (∀ extra : List String, "  Socket " ∈ extra → ∀ front rest : String,
        ((withExtraTerms extra).check (front ++ Text.trimmed "  Socket " ++ rest)).safe = false) ∧
      ¬ ∀ extra : List String, "ΑΣ" ∈ extra → ∀ front rest : String,
        ((withExtraTerms extra).check (front ++ Text.trimmed "ΑΣ" ++ rest)).safe = false := by
  constructor
  · refine (extra_term_blocks (by decide +kernel)).2 (Or.inl ?_)
    exact Text.settled_of_not_mem (by decide +kernel)
  · have hne : Text.trimmed "ΑΣ" ≠ "" := by decide +kernel
    rw [extra_term_blocks hne]
    rintro (hsettled | hbuiltIn)
    · exact hsettled ['Α'] [] (by decide +kernel) (Or.inl ⟨by decide +kernel, List.forall_mem_nil _⟩)
    · revert hbuiltIn
      decide +kernel

example : (withExtraTerms ["ΑΣ"]).check "ΑΣ" = .blocked "ας" ∧ (withExtraTerms ["ΑΣ"]).check "ΑΣΑ" = .pass := by
  decide +kernel

end Extra

end CodeRepair.SafetyGate
