import CodeRepair.Execution.Capture
import CodeRepair.Proofs.Text.Utf8

/-!
What is kept of an output stream depends on its bytes alone. The cut goes back to the end of a character as long as
nothing before it is malformed; otherwise the character that the bound cuts in two is shown as a replacement.
-/
namespace CodeRepair

namespace Text.Utf8

variable {s : State} {b : UInt8} {bs xs ys cut front rest : List UInt8} {value owed low high : Nat} {c : Char}
  {cs : List Char}

section Fitting

/-- Bytes of which each can come after those before it. -/
def Fitting : State → List UInt8 → Prop
  | _, [] => True
  | s, b :: bs => fits s b = true ∧ Fitting (step s b).2 bs

theorem fitting_append : Fitting s (xs ++ ys) ↔ Fitting s xs ∧ Fitting (after s xs) ys := by
  induction xs generalizing s with
  | nil => exact ⟨fun h ↦ ⟨trivial, h⟩, And.right⟩
  | cons b xs ih =>
    rw [List.cons_append, Fitting, Fitting, ih, and_assoc]
    rfl

theorem fits_between : fits .between b = true ↔ b.toNat < 0x80 ∨ 0xC2 ≤ b.toNat ∧ b.toNat < 0xF5 := by simp [fits]

theorem fits_owing : fits (.owing value owed low high) b = true ↔ low ≤ b.toNat ∧ b.toNat ≤ high := by simp [fits]

theorem Leads.fits (h : Leads b s) : fits .between b = true := by
  rw [fits_between]
  cases h <;> omega

theorem Unfinished.fitting (h : Unfinished cut s) : Fitting .between cut := by
  induction h with
  | lead h => exact ⟨h.fits, trivial⟩
  | more h howed hb ih =>
    rw [fitting_append, h.settled_eq.2]
    exact ⟨ih, fits_owing.2 hb, trivial⟩

theorem fitting_encodeChar (c : Char) : Fitting .between (encodeChar c) := by
  by_cases hc : c.toNat < 0x80
  · obtain ⟨b, hb⟩ := exists_byte (by omega : c.toNat < 0x100)
    rw [encodeChar_ascii hc, ofNat_eq hb.symm]
    exact ⟨fits_between.2 (.inl (hb ▸ hc)), trivial⟩
  · obtain ⟨cut, b, value, low, high, hbytes, hcut, hb, -⟩ := exists_cut (Nat.not_lt.1 hc)
    rw [hbytes, fitting_append, hcut.settled_eq.2]
    exact ⟨hcut.fitting, fits_owing.2 hb, trivial⟩

theorem fitting_encode_append (cs : List Char) : Fitting .between (encode cs ++ bs) ↔ Fitting .between bs := by
  induction cs with
  | nil => exact Iff.rfl
  | cons c cs ih =>
    rw [encode_cons, List.append_assoc, fitting_append, (settled_encodeChar c).2, ih,
      and_iff_right (fitting_encodeChar c)]

theorem encode_concat (cs : List Char) (c : Char) : encode (cs ++ [c]) = encode cs ++ encodeChar c := by
  simp [encode]

theorem Fitting.text (h : Fitting .between bs) : ∃ cs cut, bs = encode cs ++ cut ∧
    (cut = [] ∧ after .between bs = .between ∨ Unfinished cut (after .between bs)) := by
  induction bs using List.reverseRecOn with
  | nil => exact ⟨[], [], rfl, .inl ⟨rfl, rfl⟩⟩
  | append_singleton bs b ih =>
    obtain ⟨hbs, hfits, -⟩ := fitting_append.1 h
    obtain ⟨cs, cut, hbytes, hcut⟩ := ih hbs
    rw [after_concat, hbytes, List.append_assoc]
    rw [hbytes] at hcut hfits
    rcases hcut with ⟨rfl, hbetween⟩ | hcut
    · rw [hbetween] at hfits ⊢
      rcases start_cases b with hascii | ⟨s, hlead⟩ | ⟨hneither, -⟩
      · refine ⟨cs ++ [Char.ofNat b.toNat], [], ?_, .inl ⟨rfl, congrArg Prod.snd (start_ascii hascii)⟩⟩
        have hchar : (Char.ofNat b.toNat).toNat = b.toNat := toNat_char (by omega)
        rw [encode_concat, encodeChar_ascii (by omega), ofNat_eq hchar, List.append_nil]
        rfl
      · refine ⟨cs, [b], rfl, .inr ?_⟩
        rw [step, hlead.start_eq]
        exact .lead hlead
      · exact absurd (fits_between.1 hfits) hneither
    · obtain ⟨value, owed, low, high, hs, -⟩ := hcut.owes
      rw [hs] at hcut hfits ⊢
      have hb := fits_owing.1 hfits
      by_cases howed : 1 < owed
      · refine ⟨cs, cut ++ [b], rfl, .inr ?_⟩
        rw [step_fits hb howed]
        exact hcut.more howed hb
      · refine ⟨cs ++ [Char.ofNat (value * 0x40 + (b.toNat - 0x80))], [], ?_, .inl ⟨rfl, ?_⟩⟩
        · rw [encode_concat, ← hcut.completes (by omega) hb, List.append_nil]
        · rw [step_last hb (by omega)]

theorem Fitting.before_cut (h : Fitting .between (front ++ cut)) (hcut : Unfinished cut s) : ∃ cs, front = encode cs := by
  obtain ⟨hfront, hrest⟩ := fitting_append.1 h
  obtain ⟨cs, left, rfl, ⟨rfl, -⟩ | hleft⟩ := hfront.text
  · exact ⟨cs, List.append_nil _⟩
  · obtain ⟨b, bs, rfl, hlead⟩ := hcut.head
    obtain ⟨value, owed, low, high, hs, -, -, -, -, hhigh⟩ := hleft.owes
    have hb := fits_owing.1 (hs ▸ hrest.1)
    omega

end Fitting

section Whole

theorem wholeFrom_unfit {sure pending : Nat} (h : ¬ Fitting s bs) :
    wholeFrom s sure pending bs = sure + pending + bs.length := by
  induction bs generalizing s sure pending with
  | nil => exact absurd trivial h
  | cons b bs ih =>
    rw [wholeFrom, List.length_cons]
    by_cases hfits : fits s b = true
    · have hbs : ¬ Fitting (step s b).2 bs := fun hbs ↦ h ⟨hfits, hbs⟩
      rw [if_pos hfits]
      split
      · rename_i hs
        rw [ih (hs ▸ hbs)]
        omega
      · rw [ih hbs]
        omega
    · rw [if_neg hfits]
      omega

theorem Unfinished.wholeFrom_append (h : Unfinished cut s) (sure : Nat) (bs : List UInt8) :
    wholeFrom .between sure 0 (cut ++ bs) = wholeFrom s sure cut.length bs := by
  induction h generalizing bs with
  | lead h =>
    obtain ⟨value, owed, low, high, rfl, -⟩ := (Unfinished.lead h).owes
    rw [List.singleton_append, wholeFrom, if_pos h.fits, step, h.start_eq]
    rfl
  | more h howed hb ih =>
    rw [List.append_assoc, ih, List.singleton_append, wholeFrom, if_pos (fits_owing.2 hb), step_fits hb howed,
      List.length_append]
    rfl

theorem wholeFrom_encodeChar_append (c : Char) (sure : Nat) (bs : List UInt8) :
    wholeFrom .between sure 0 (encodeChar c ++ bs) = wholeFrom .between (sure + (encodeChar c).length) 0 bs := by
  by_cases hc : c.toNat < 0x80
  · obtain ⟨b, hb⟩ := exists_byte (by omega : c.toNat < 0x100)
    have hascii : b.toNat < 0x80 := hb ▸ hc
    rw [encodeChar_ascii hc, ofNat_eq hb.symm, List.singleton_append, wholeFrom, if_pos (fits_between.2 (.inl hascii)), step,
      start_ascii hascii]
    rfl
  · obtain ⟨cut, b, value, low, high, hbytes, hcut, hb, -⟩ := exists_cut (Nat.not_lt.1 hc)
    rw [hbytes, List.append_assoc, hcut.wholeFrom_append, List.singleton_append, wholeFrom, if_pos (fits_owing.2 hb),
      step_last hb (Nat.le_refl 1), List.length_append, Nat.add_assoc]
    rfl

theorem wholeFrom_encode_append (cs : List Char) (sure : Nat) (bs : List UInt8) :
    wholeFrom .between sure 0 (encode cs ++ bs) = wholeFrom .between (sure + (encode cs).length) 0 bs := by
  induction cs generalizing sure with
  | nil => rfl
  | cons c cs ih =>
    rw [encode_cons, List.append_assoc, wholeFrom_encodeChar_append, ih, List.length_append, Nat.add_assoc]

theorem wholeLength_unfit (h : ¬ Fitting .between bs) : wholeLength bs = bs.length := by
  rw [wholeLength, wholeFrom_unfit h, Nat.zero_add]

theorem wholeLength_text (cs : List Char) (hcut : cut = [] ∨ ∃ s, Unfinished cut s) :
    wholeLength (encode cs ++ cut) = (encode cs).length := by
  rw [wholeLength, wholeFrom_encode_append, Nat.zero_add]
  rcases hcut with rfl | ⟨s, hcut⟩
  · rfl
  · have hend := hcut.wholeFrom_append (encode cs).length []
    rwa [List.append_nil] at hend

/-- The bytes up to their whole length are all of them, or a text that at most three bytes follow. -/
theorem take_wholeLength (bs : List UInt8) : (¬ Fitting .between bs ∧ bs.take (wholeLength bs) = bs) ∨
    ∃ cs cut, bs = encode cs ++ cut ∧ (cut = [] ∨ ∃ s, Unfinished cut s) ∧ cut.length ≤ 3 ∧
      bs.take (wholeLength bs) = encode cs := by
  by_cases h : Fitting .between bs
  · obtain ⟨cs, cut, rfl, hcut⟩ := h.text
    have hcut' : cut = [] ∨ ∃ s, Unfinished cut s := hcut.imp And.left (⟨_, ·⟩)
    refine .inr ⟨cs, cut, rfl, hcut', ?_, ?_⟩
    · rcases hcut' with rfl | ⟨s, hcut⟩
      · exact Nat.zero_le 3
      · obtain ⟨_, _, _, _, _, hpos, -, hle, -⟩ := hcut.owes
        omega
    · rw [wholeLength_text cs hcut', List.take_left]
  · exact .inl ⟨h, by rw [wholeLength_unfit h, List.take_length]⟩

end Whole

end Text.Utf8

open Text Text.Utf8

variable {max : Nat} {chunks : List (List UInt8)} {xs bytes : List UInt8}

section Reading

-- The loop invariant: what is kept is the first `max` bytes of all that came, marked when there were more.
theorem Captured.read_take (max : Nat) (bytes chunk : List UInt8) :
    Captured.read max ⟨bytes.take max, decide (max < bytes.length)⟩ chunk =
      ⟨(bytes ++ chunk).take max, decide (max < (bytes ++ chunk).length)⟩ := by
  have hroom : max - min max bytes.length = max - bytes.length := by omega
  have hlength : (decide (max < bytes.length) || decide (max - bytes.length < chunk.length)) =
      decide (max < bytes.length + chunk.length) := by
    rw [← Bool.decide_or, decide_eq_decide]
    omega
  rw [Captured.read]
  dsimp only
  rw [List.length_take, hroom, hlength, List.take_append, List.length_append]

theorem Captured.foldl_read (max : Nat) (bytes : List UInt8) (chunks : List (List UInt8)) :
    chunks.foldl (Captured.read max) ⟨bytes.take max, decide (max < bytes.length)⟩ =
      ⟨(bytes ++ chunks.flatten).take max, decide (max < (bytes ++ chunks.flatten).length)⟩ := by
  induction chunks generalizing bytes with
  | nil => rw [List.foldl_nil, List.flatten_nil, List.append_nil]
  | cons chunk chunks ih => rw [List.foldl_cons, read_take, ih, List.flatten_cons, List.append_assoc]

theorem capture_eq (max : Nat) (chunks : List (List UInt8)) :
    capture max chunks = Captured.text ⟨chunks.flatten.take max, decide (max < chunks.flatten.length)⟩ := by
  have hstart : Captured.empty = ⟨([] : List UInt8).take max, decide (max < ([] : List UInt8).length)⟩ := by
    simp [Captured.empty]
  rw [capture, hstart, Captured.foldl_read, List.nil_append]

theorem capture_all (h : chunks.flatten.length ≤ max) : capture max chunks = String.ofList (decode chunks.flatten) := by
  rw [capture_eq, Captured.text, if_neg (by simpa using h), List.take_of_length_le h]

theorem capture_truncated (h : max < chunks.flatten.length) : capture max chunks =
    String.ofList (decode ((chunks.flatten.take max).take (wholeLength (chunks.flatten.take max)))) ++ Captured.mark := by
  rw [capture_eq, Captured.text, if_pos (by simpa using h)]

end Reading

section Bound

theorem decode_whole_front {text : String} (h : bytes = text.toUTF8.data.toList) (hxs : xs <+: bytes) :
    decode (xs.take (wholeLength xs)) <+: text.toList := by
  rw [h, ← encode_eq] at hxs
  obtain ⟨cs, cut, hcs, rfl, hcut⟩ := prefix_encode hxs
  rw [wholeLength_text cs hcut, List.take_left, decode_encode]
  exact hcs

theorem count_mark : Captured.mark.toList.count replacement = 0 := by decide

/-- What is captured depends on the bytes and not on the reads they come in. Either all of them are shown, or a front
of at most `max` bytes that lacks at most three of them, with a mark; and a text is shown as it is. -/
theorem capture_determined (max : Nat) (chunks : List (List UInt8)) :
    (∀ chunks', chunks'.flatten = chunks.flatten → capture max chunks' = capture max chunks) ∧
    (chunks.flatten.length ≤ max → capture max chunks = String.ofList (decode chunks.flatten)) ∧
    (max < chunks.flatten.length → ∃ kept, kept <+: chunks.flatten ∧ kept.length ≤ max ∧ max < kept.length + 4 ∧
      capture max chunks = String.ofList (decode kept) ++ Captured.mark ∧
      ∀ text : String, chunks.flatten = text.toUTF8.data.toList → decode kept <+: text.toList) ∧
    ∀ text : String, chunks.flatten = text.toUTF8.data.toList →
      (capture max chunks).toList.count replacement ≤ text.toList.count replacement := by
  have hfront : chunks.flatten.take max <+: chunks.flatten := List.take_prefix _ _
  refine ⟨fun chunks' h ↦ by rw [capture_eq, capture_eq, h], capture_all, fun hmax ↦ ?_, fun text htext ↦ ?_⟩
  · refine ⟨_, (List.take_prefix _ _).trans hfront, ?_, ?_, capture_truncated hmax, fun text htext ↦ ?_⟩
    · rw [List.length_take, List.length_take]
      omega
    · have hlength : (chunks.flatten.take max).length = max := List.length_take_of_le (Nat.le_of_lt hmax)
      rcases take_wholeLength (chunks.flatten.take max) with ⟨-, hall⟩ | ⟨cs, cut, hbytes, -, hcut, hwhole⟩
      · rw [hall]
        omega
      · rw [hbytes, List.length_append] at hlength
        rw [hwhole]
        omega
    · exact decode_whole_front htext hfront
  · rcases Nat.lt_or_ge max chunks.flatten.length with hmax | hmax
    · rw [capture_truncated hmax, String.toList_append, String.toList_ofList, List.count_append, count_mark, Nat.add_zero]
      exact (decode_whole_front htext hfront).sublist.count_le _
    · refine Nat.le_of_eq ?_
      rw [capture_all hmax, String.toList_ofList, htext, ← encode_eq, decode_encode]

theorem capture_determined_two_reads :
    capture 2 [[0x61, 0xC3], [0xA9, 0x62]] = capture 2 [[0x61, 0xC3, 0xA9, 0x62]] ∧
    (∃ kept, kept <+: [0x61, 0xC3, 0xA9, 0x62] ∧ kept.length ≤ 2 ∧
      capture 2 [[0x61, 0xC3], [0xA9, 0x62]] = String.ofList (decode kept) ++ Captured.mark ∧
      decode kept <+: "aéb".toList) ∧
    (capture 2 [[0x61, 0xC3], [0xA9, 0x62]]).toList.count replacement ≤ "aéb".toList.count replacement := by
  have htext : [[0x61, 0xC3], [0xA9, 0x62]].flatten = "aéb".toUTF8.data.toList := by decide
  obtain ⟨hreads, -, htruncated, hcount⟩ := capture_determined 2 [[0x61, 0xC3], [0xA9, 0x62]]
  obtain ⟨kept, hkept, hle, -, hcapture, hbegins⟩ := htruncated (by decide)
  exact ⟨(hreads [[0x61, 0xC3, 0xA9, 0x62]] rfl).symm, ⟨kept, hkept, hle, hcapture, hbegins _ htext⟩, hcount _ htext⟩

end Bound

section Cut

/-- The bound cuts a character in two, and the bytes before that character are no text. -/
def CutsAfterFault (max : Nat) (bytes : List UInt8) : Prop :=
  ∃ front c rest, bytes = front ++ (encodeChar c ++ rest) ∧ c ≠ replacement ∧ front.length < max ∧
    max < front.length + (encodeChar c).length ∧ ∀ cs, front ≠ encode cs

theorem CutsAfterFault.shown (h : CutsAfterFault max bytes) : ¬ Fitting .between (bytes.take max) ∧
    ∃ front c shown, c ≠ replacement ∧ decode (bytes.take max) = decode front ++ [replacement] ∧
      decode bytes = decode front ++ c :: shown := by
  obtain ⟨front, c, rest, rfl, hc, hfront, hmax, hno⟩ := h
  have hxs : (encodeChar c).take (max - front.length) <+: encodeChar c := List.take_prefix _ _
  have hlength : ((encodeChar c).take (max - front.length)).length = max - front.length :=
    List.length_take_of_le (by omega)
  have hne : (encodeChar c).take (max - front.length) ≠ [] := List.length_pos_iff.1 (by omega)
  obtain ⟨s, hcut⟩ := Unfinished.of_encodeChar hxs hne (by omega)
  have htake : (front ++ (encodeChar c ++ rest)).take max = front ++ (encodeChar c).take (max - front.length) := by
    rw [List.take_append, List.take_of_length_le (Nat.le_of_lt hfront), List.take_append_of_le_length (by omega)]
  refine ⟨fun hfit ↦ ?_, front, c, decode rest, hc, ?_, decode_append_encodeChar front c rest⟩
  · obtain ⟨cs, rfl⟩ := Fitting.before_cut (htake ▸ hfit) hcut
    exact hno cs rfl
  · rw [htake, ← hcut.decode_eq]
    obtain ⟨b, bs, hhead, hlead⟩ := hcut.head
    rw [hhead]
    exact decode_append_lead front (.inr hlead) bs

/-- Bytes that do not fit are shown as they would be without the bound, but for a character that the bound cuts. -/
theorem shown_of_unfit (h : ¬ Fitting .between (bytes.take max)) (hmax : max < bytes.length) :
    (decode (bytes.take max) <+: decode bytes ∨ CutsAfterFault max bytes) ∧
    ∃ whole, whole <+: decode bytes ∧
      (decode (bytes.take max) = whole ∨ decode (bytes.take max) = whole ++ [replacement]) := by
  obtain ⟨xs, rest, hxs, happend⟩ : ∃ xs rest, xs = bytes.take max ∧ xs ++ rest = bytes :=
    ⟨_, _, rfl, List.take_append_drop max bytes⟩
  have hlength : xs.length = max := by rw [hxs, List.length_take_of_le (Nat.le_of_lt hmax)]
  rw [← hxs] at h ⊢
  subst happend
  have hsettled := settled_front xs rest
  rcases exists_unfinished xs with hbetween | ⟨front, cut, rfl, hcut⟩
  · have hall : decode xs = settled .between xs := by rw [decode_eq, hbetween, flush, List.append_nil]
    rw [hall]
    exact ⟨.inl hsettled, _, hsettled, .inl rfl⟩
  · have hshown : decode (front ++ cut) = settled .between (front ++ cut) ++ [replacement] := by
      rw [decode_eq, hcut.flush_eq]
    refine ⟨?_, _, hsettled, .inr hshown⟩
    rw [hshown, decode, decodeFrom_append, List.prefix_append_right_inj]
    rcases hcut.followed rest with ⟨shown, hread⟩ | ⟨c, more, left, rfl, hmore, hchar, hread⟩
    · rw [hread]
      exact .inl (List.prefix_append [replacement] shown)
    · by_cases hc : c = replacement
      · rw [hread, hc]
        exact .inl (List.prefix_append [replacement] _)
      · refine .inr ⟨front, c, left, ?_, hc, ?_, ?_, ?_⟩
        · rw [← hchar, List.append_assoc, List.append_assoc]
        · obtain ⟨_, _, _, _, _, -, hpos, -⟩ := hcut.owes
          rw [List.length_append] at hlength
          omega
        · have hpos := List.length_pos_iff.2 hmore
          rw [← hchar, ← hlength, List.length_append, List.length_append]
          omega
        · rintro cs rfl
          exact h ((fitting_encode_append cs).2 hcut.fitting)

/-- What is shown before the mark begins the text of the whole stream, but for one replacement at its end. That one is
there exactly when the bound cuts a character and the bytes before it are no text. -/
theorem truncated_shown (max : Nat) (chunks : List (List UInt8)) (hmax : max < chunks.flatten.length) :
    ∃ shown, capture max chunks = String.ofList shown ++ Captured.mark ∧
      (∃ whole, whole <+: decode chunks.flatten ∧ (shown = whole ∨ shown = whole ++ [replacement])) ∧
      (shown <+: decode chunks.flatten ↔ ¬ CutsAfterFault max chunks.flatten) := by
  refine ⟨_, capture_truncated hmax, ?_⟩
  rcases take_wholeLength (chunks.flatten.take max) with ⟨hunfit, hall⟩ | ⟨cs, cut, hbytes, hcut, -, hwhole⟩
  · obtain ⟨hbegins, hshown⟩ := shown_of_unfit hunfit hmax
    rw [hall]
    refine ⟨hshown, fun h hcuts ↦ ?_, hbegins.resolve_right⟩
    obtain ⟨-, front, c, shown, hc, htake, hflat⟩ := hcuts.shown
    rw [htake, hflat, List.prefix_append_right_inj, List.cons_prefix_cons] at h
    exact hc h.1.symm
  · have hbegins : decode (encode cs) <+: decode chunks.flatten := by
      rw [decode_encode, ← List.take_append_drop max chunks.flatten, hbytes, List.append_assoc, decode_encode_append]
      exact List.prefix_append _ _
    rw [hwhole]
    refine ⟨⟨_, hbegins, .inl rfl⟩, fun _ hcuts ↦ hcuts.shown.1 ?_, fun _ ↦ hbegins⟩
    rw [hbytes, fitting_encode_append]
    rcases hcut with rfl | ⟨s, hcut⟩
    · trivial
    · exact hcut.fitting

theorem truncated_shown_fault : 2 < [[0xFF, 0xC3], [0xA9]].flatten.length ∧
    ∃ shown, capture 2 [[0xFF, 0xC3], [0xA9]] = String.ofList shown ++ Captured.mark ∧
      ¬ shown <+: decode [0xFF, 0xC3, 0xA9] := by
  have hcuts : CutsAfterFault 2 [0xFF, 0xC3, 0xA9] := by
    refine ⟨[0xFF], 'é', [], by decide, by decide, by decide, by decide, fun cs h ↦ ?_⟩
    have hdecode : decode [0xFF] = cs := h ▸ decode_encode cs
    rw [← hdecode] at h
    revert h
    decide
  obtain ⟨shown, hcapture, -, hiff⟩ := truncated_shown 2 [[0xFF, 0xC3], [0xA9]] (by decide)
  exact ⟨by decide, shown, hcapture, fun h ↦ hiff.1 h hcuts⟩

end Cut

end CodeRepair
