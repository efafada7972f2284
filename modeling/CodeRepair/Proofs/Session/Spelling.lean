import CodeRepair.Proofs.Session.Key
import CodeRepair.Proofs.Text.Search
import CodeRepair.Proofs.Text.Spelling

/-!
The one spelling of a session key. What a text spells is spelt by itself, and by all texts that differ from it in the
blanks around them and in the case of ASCII letters.
-/
namespace CodeRepair.SessionKey

variable {text key one two : String}

/-- What holds of a text that is the normal form of some text. -/
structure IsKey (key : String) : Prop where
  not_empty : key ≠ ""
  size_le : Text.Utf8.size key.toList ≤ 128
  first_not_blank : ∀ c ∈ key.toList.head?, Text.isBlank c = false
  last_not_blank : ∀ c ∈ key.toList.getLast?, Text.isBlank c = false
  no_slash : '/' ∉ key.toList
  no_backslash : '\\' ∉ key.toList
  no_double_dot : ¬ ['.', '.'] <:+: key.toList
  no_control : ∀ c ∈ key.toList, isControl c = false

theorem normalize_congr (h : Text.lower (Text.trim one.toList) = Text.lower (Text.trim two.toList)) :
    normalize one = normalize two := by
  rw [normalize, normalize, h]

theorem normalize_eq_ok (h : normalize text = .ok key) :
    key.toList = Text.lower (Text.trim text.toList) ∧ key.toList ≠ [] ∧ Text.Utf8.size key.toList ≤ maxBytes ∧
      ¬ ('/' ∈ key.toList ∨ '\\' ∈ key.toList ∨ Text.occurs ['.', '.'] key.toList ∨ key.toList.any isControl) := by
  rw [normalize] at h
  split at h
  · cases h
  next hne =>
    split at h
    · cases h
    next hsize =>
      split at h
      · cases h
      next hchars =>
        cases h
        rw [List.isEmpty_iff] at hne
        simp only [String.toList_ofList]
        exact ⟨trivial, hne, Nat.not_lt.1 hsize, hchars⟩

theorem normalize_isKey (h : normalize text = .ok key) : IsKey key := by
  obtain ⟨hkey, hne, hsize, hchars⟩ := normalize_eq_ok h
  have htight : Text.trim key.toList = key.toList := by
    rw [hkey]
    exact Text.trim_lower (Text.trim_trim text.toList)
  obtain ⟨hfirst, hlast⟩ := Text.trim_eq_self_iff.1 htight
  simp only [not_or, Text.occurs_iff, Bool.not_eq_true, List.any_eq_false] at hchars
  obtain ⟨hslash, hback, hdots, hcontrol⟩ := hchars
  exact {
    not_empty := fun hempty ↦ hne (String.toList_eq_nil_iff.2 hempty)
    size_le := hsize
    first_not_blank := Text.trimStart_eq_self_iff.1 hfirst
    last_not_blank := Text.trimEnd_eq_self_iff.1 hlast
    no_slash := hslash
    no_backslash := hback
    no_double_dot := hdots
    no_control := hcontrol }

/-- A normal form is its own normal form. -/
theorem normalize_normal (h : normalize text = .ok key) : normalize key = .ok key := by
  obtain ⟨hkey, -⟩ := normalize_eq_ok h
  rw [← h]
  apply normalize_congr
  rw [hkey, Text.trim_lower (Text.trim_trim text.toList), Text.lower_lower]

/-- A key as sessions are given it: 32 digits of hexadecimal in lower case after a fixed beginning. -/
def IsMade (key : String) : Prop :=
  ∃ digits : String, digits.toList.length = 32 ∧ (∀ c ∈ digits.toList, '0' ≤ c ∧ c ≤ '9' ∨ 'a' ≤ c ∧ c ≤ 'f') ∧
    key = "retry_" ++ digits

theorem isMade_ofBits (bits : Nat) : IsMade (ofBits bits) := by
  have hdigit : ∀ d < 16, '0' ≤ Number.digitChar d ∧ Number.digitChar d ≤ '9' ∨
      'a' ≤ Number.digitChar d ∧ Number.digitChar d ≤ 'f' := by decide +kernel
  refine ⟨String.ofList (Number.paddedHex 32 bits), ?_, ?_, ?_⟩
  · rw [String.toList_ofList]
    exact Number.length_paddedHex 32 bits (by decide)
  · rw [String.toList_ofList]
    exact paddedHex_forall hdigit 32 bits
  · rw [← String.toList_inj, toList_ofBits, String.toList_append, toList_prefix, String.toList_ofList]

theorem mem_alphabet {c : Char} (hc : '0' ≤ c ∧ c ≤ '9' ∨ 'a' ≤ c ∧ c ≤ 'f') : c ∈ alphabet := by
  have hascii : c.toNat < 0x80 := by
    have hle : c.toNat ≤ 0x39 ∨ c.toNat ≤ 0x66 := hc.imp (·.2) (·.2)
    omega
  refine Text.ascii_forall (P := fun c ↦ '0' ≤ c ∧ c ≤ '9' ∨ 'a' ≤ c ∧ c ≤ 'f' → c ∈ alphabet) ?_ hascii hc
  decide +kernel

theorem normalize_made (h : IsMade key) : normalize key = .ok key := by
  obtain ⟨digits, hlength, hdigits, rfl⟩ := h
  have htext : ("retry_" ++ digits).toList = ['r', 'e', 't', 'r', 'y', '_'] ++ digits.toList := by
    rw [String.toList_append, toList_prefix]
  have hmem : ∀ c ∈ ("retry_" ++ digits).toList, c ∈ alphabet := by
    rw [htext]
    exact List.forall_mem_append.2 ⟨fun c hc ↦ List.mem_append_left _ hc, fun c hc ↦ mem_alphabet (hdigits c hc)⟩
  have hplain := normalize_plain hmem (by simp [htext]) (by simp [htext, hlength, maxBytes])
  rwa [String.ofList_toList] at hplain

/-- Keys have one spelling, which all that differ from it in blanks around them and in the case of ASCII letters share;
and the keys that are made are spelt so. -/
theorem key_spelt_once :
    (∀ text key : String, normalize text = .ok key → normalize key = .ok key ∧ IsKey key) ∧
      (∀ one two : String, Text.Respelled one.toList two.toList → normalize one = normalize two) ∧
      (∀ key : String, IsMade key → normalize key = .ok key) ∧ ∀ bits : Nat, IsMade (ofBits bits) :=
  ⟨fun _ _ h ↦ ⟨normalize_normal h, normalize_isKey h⟩, fun _ _ h ↦ normalize_congr h.lower_trim,
    fun _ ↦ normalize_made, isMade_ofBits⟩

theorem key_spelt_once_sigma :
    (normalize "σk\u0307" = .ok "σk\u0307" ∧ IsKey "σk\u0307") ∧ normalize " Retry_Σ" = normalize "retry_Σ\u2003" ∧
      normalize "retry_0123456789abcdef0123456789abcdef" = .ok "retry_0123456789abcdef0123456789abcdef" := by
  obtain ⟨hnormal, hspelt, hmade, -⟩ := key_spelt_once
  refine ⟨hnormal "\u3000Σ\u212A\u0307 " _ (by decide +kernel), hspelt _ _ ?_, hmade _ ?_⟩
  · have hone : " Retry_Σ".toList = [' '] ++ ("Retry_Σ".toList ++ []) := by decide +kernel
    have htwo : "retry_Σ\u2003".toList = [] ++ ("retry_Σ".toList ++ ['\u2003']) := by decide +kernel
    rw [hone, htwo]
    exact .around (by decide +kernel) rfl rfl rfl rfl
  · have hdigits : "0123456789abcdef0123456789abcdef".toList.all fun c ↦
        decide ('0' ≤ c ∧ c ≤ '9' ∨ 'a' ≤ c ∧ c ≤ 'f') := by decide +kernel
    simp only [List.all_eq_true, decide_eq_true_eq] at hdigits
    exact ⟨"0123456789abcdef0123456789abcdef", by decide +kernel, hdigits, by decide +kernel⟩

end CodeRepair.SessionKey
