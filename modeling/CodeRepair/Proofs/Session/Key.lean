import CodeRepair.Proofs.Number.Digits
import CodeRepair.Proofs.Text.Trim
import CodeRepair.Session.Key

/-!
Keys that are made for sessions. They are spelt in letters, digits and a mark, all of which every spelling of a key
keeps; so a key that was made is its own normal form.
-/
namespace CodeRepair

namespace SessionKey

def alphabet : List Char :=
  ['r', 'e', 't', 'r', 'y', '_'] ++
    ['0', '1', '2', '3', '4', '5', '6', '7', '8', '9', 'a', 'b', 'c', 'd', 'e', 'f']

theorem toList_prefix : "retry_".toList = ['r', 'e', 't', 'r', 'y', '_'] := by decide +kernel

theorem digitChar_mem : ∀ d < 16, Number.digitChar d ∈ alphabet := by decide +kernel

theorem paddedHex_forall {P : Char → Prop} (h : ∀ d < 16, P (Number.digitChar d)) (width n : Nat) :
    ∀ c ∈ Number.paddedHex width n, P c := by
  have hzero : P '0' := h 0 (by decide)
  have hdigits (n : Nat) : ∀ c ∈ Number.hexDigits n, P c := by
    intro c hc
    unfold Number.hexDigits at hc
    split at hc
    · rwa [List.mem_singleton.1 hc]
    · obtain ⟨d, hd, rfl⟩ := List.mem_map.1 (List.mem_reverse.1 hc)
      exact h d (Number.digitsFrom_lt 14 n d hd)
  intro c hc
  rcases List.mem_append.1 hc with hc | hc
  · rwa [(List.mem_replicate.1 hc).2]
  · exact hdigits _ c hc

theorem toList_ofBits (bits : Nat) :
    (ofBits bits).toList = ['r', 'e', 't', 'r', 'y', '_'] ++ Number.paddedHex 32 bits :=
  String.toList_ofList.trans (congrArg (· ++ Number.paddedHex 32 bits) toList_prefix)

theorem ofBits_mem (bits : Nat) : ∀ c ∈ (ofBits bits).toList, c ∈ alphabet := by
  intro c hc
  rw [toList_ofBits, List.mem_append] at hc
  rcases hc with hc | hc
  · exact List.mem_append_left _ hc
  · exact paddedHex_forall digitChar_mem 32 bits c hc

theorem length_ofBits (bits : Nat) : (ofBits bits).toList.length = 38 := by
  have hhex := Number.length_paddedHex 32 bits (by omega)
  rw [toList_ofBits, List.length_append, hhex]
  rfl

def IsPlain (c : Char) : Prop :=
  Text.isBlank c = false ∧ Text.lowerChar c = [c] ∧ c.toNat ≠ 0x3A3 ∧ Text.Utf8.width c = 1 ∧
    isControl c = false ∧ c ≠ '/' ∧ c ≠ '\\' ∧ c ≠ '.'

instance (c : Char) : Decidable (IsPlain c) := inferInstanceAs (Decidable (_ ∧ _))

theorem alphabet_plain : ∀ c ∈ alphabet, IsPlain c := by
  -- there may be an instance for all characters at once, which no kernel can run through
  have hall : alphabet.all (fun c ↦ decide (IsPlain c)) = true := by decide +kernel
  intro c hc
  exact of_decide_eq_true (List.all_eq_true.1 hall c hc)

section Plain

variable {cs : List Char} (hcs : ∀ c ∈ cs, c ∈ alphabet)
include hcs

theorem lowerFrom_plain (before : List Char) : Text.lowerFrom before cs = cs := by
  induction cs generalizing before with
  | nil => rfl
  | cons c rest ih =>
    obtain ⟨-, hlower, hsigma, -⟩ := alphabet_plain c (hcs c (by simp))
    have hrest := ih (fun d hd ↦ hcs d (by simp [hd])) (c :: before)
    rw [Text.lowerFrom, if_neg hsigma, hlower, hrest]
    rfl

theorem trim_plain : Text.trim cs = cs := by
  have hblank : ∀ c ∈ cs, Text.isBlank c = false := fun c hc ↦ (alphabet_plain c (hcs c hc)).1
  refine Text.trim_eq_self_iff.2 ⟨Text.trimStart_eq_self_iff.2 fun c hc ↦ ?_, Text.trimEnd_eq_self_iff.2 fun c hc ↦ ?_⟩
  · exact hblank c (List.mem_of_mem_head? hc)
  · exact hblank c (List.mem_of_mem_getLast? hc)

theorem size_plain : Text.Utf8.size cs = cs.length := by
  induction cs with
  | nil => rfl
  | cons c rest ih =>
    obtain ⟨-, -, -, hwidth, -⟩ := alphabet_plain c (hcs c (by simp))
    have hrest := ih fun d hd ↦ hcs d (by simp [hd])
    rw [Text.Utf8.size, hwidth, hrest, List.length_cons]
    omega

theorem occurs_plain : Text.occurs ['.', '.'] cs = false := by
  induction cs with
  | nil => rfl
  | cons c rest ih =>
    obtain ⟨-, -, -, -, -, -, -, hdot⟩ := alphabet_plain c (hcs c (by simp))
    have hrest := ih fun d hd ↦ hcs d (by simp [hd])
    simp [Text.occurs, hrest, Text.startsWith, Text.dropPattern?, Ne.symm hdot]

/-- A text in the letters of a key that is neither empty nor too long is its own normal form. -/
theorem normalize_plain (hne : cs ≠ []) (hlength : cs.length ≤ maxBytes) :
    normalize (String.ofList cs) = .ok (String.ofList cs) := by
  have hkey : Text.lower (Text.trim cs) = cs := by
    rw [trim_plain hcs]
    exact lowerFrom_plain hcs []
  have hshort : ¬ maxBytes < Text.Utf8.size cs := by
    rw [size_plain hcs]
    exact Nat.not_lt.2 hlength
  have hslash : '/' ∉ cs := fun hc ↦ (alphabet_plain _ (hcs _ hc)).2.2.2.2.2.1 rfl
  have hback : '\\' ∉ cs := fun hc ↦ (alphabet_plain _ (hcs _ hc)).2.2.2.2.2.2.1 rfl
  have hcontrol : cs.any isControl = false := by
    rw [List.any_eq_false]
    intro c hc
    simp [(alphabet_plain c (hcs c hc)).2.2.2.2.1]
  simp [normalize, hkey, hne, hshort, hslash, hback, occurs_plain hcs, hcontrol]

end Plain

/-- A key that was made is its own normal form. -/
theorem normalize_ofBits (bits : Nat) : normalize (ofBits bits) = .ok (ofBits bits) := by
  have hlength := length_ofBits bits
  have hne : (ofBits bits).toList ≠ [] := by
    intro hnil
    rw [hnil] at hlength
    cases hlength
  have hplain := normalize_plain (ofBits_mem bits) hne (by rw [hlength]; decide)
  rwa [String.ofList_toList] at hplain

end SessionKey

end CodeRepair
