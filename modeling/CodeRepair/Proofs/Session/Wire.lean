import CodeRepair.Proofs.Schema.RoundTrip
import CodeRepair.Report

/-!
Attempts, summaries and reports come back from their texts as they were.
-/
namespace CodeRepair

open Schema Json

section Laws

instance : LawfulShape ExecutionStage := ⟨fun s ↦ by cases s <;> rfl⟩

instance : LawfulShape FailureReason := ⟨fun r ↦ by cases r <;> rfl⟩

instance : LawfulShape Provenance := ⟨fun p ↦ by cases p <;> rfl⟩

instance : LawfulShape Severity := ⟨fun s ↦ by cases s <;> rfl⟩

instance : LawfulShape SessionState := ⟨fun s ↦ by cases s <;> rfl⟩

instance : LawfulShape Language := ⟨fun l ↦ by cases l <;> rfl⟩

instance : LawfulShape ExecutionResult where
  ofDatum?_toDatum r :=
    bind_field (ofDatum?_toDatum r.succeeded) <|
    bind_field (ofDatum?_toDatum r.stdout) <|
    bind_field (ofDatum?_toDatum r.stderr) <|
    bind_field (ofDatum?_toDatum r.failureReason) <|
    bind_field (ofDatum?_toDatum r.stage) <|
    bind_field (optionOf?_ofOption .int intOf? (fun _ ↦ rfl) r.exitCode) <|
    bind_field (natOf?_ofNat r.durationMs) rfl

instance : LawfulShape Fix where
  ofDatum?_toDatum f :=
    bind_field (ofDatum?_toDatum f.explanation) <|
    bind_field (ofDatum?_toDatum f.fixedCode) <|
    bind_field (ofDatum?_toDatum f.confidence) <|
    bind_field (ofDatum?_toDatum f.provenance) <|
    bind_field (ofDatum?_toDatum f.provider) rfl

instance : LawfulShape Diagnostic where
  ofDatum?_toDatum d :=
    bind_field (natOf?_ofNat d.line) <|
    bind_field (optionOf?_ofOption ofNat natOf? natOf?_ofNat d.column) <|
    bind_field (ofDatum?_toDatum d.severity) <|
    bind_field (ofDatum?_toDatum d.message) rfl

instance : LawfulShape Attempt where
  ofDatum?_toDatum a :=
    bind_field (natOf?_ofNat a.index) <|
    bind_field (ofDatum?_toDatum a.codeUsed) <|
    bind_field (ofDatum?_toDatum a.result) <|
    bind_field (ofDatum?_toDatum a.fix) <|
    bind_field (ofDatum?_toDatum a.diagnostics) <|
    bind_field (ofDatum?_toDatum a.timestamp) <|
    bind_field (ofDatum?_toDatum a.succeeded) rfl

instance : LawfulShape Summary where
  ofDatum?_toDatum s :=
    bind_field (ofDatum?_toDatum s.sessionId) <|
    bind_field (ofDatum?_toDatum s.language) <|
    bind_field (ofDatum?_toDatum s.initialCode) <|
    bind_field (ofDatum?_toDatum s.finalCode) <|
    bind_field (natOf?_ofNat s.maxAttempts) <|
    bind_field (natOf?_ofNat s.totalAttempts) <|
    bind_field (ofDatum?_toDatum s.state) <|
    bind_field (ofDatum?_toDatum s.isComplete) <|
    bind_field (ofDatum?_toDatum s.succeeded) <|
    bind_field (ofDatum?_toDatum s.startedAt) <|
    bind_field (ofDatum?_toDatum s.elapsedSeconds) <|
    bind_field (ofDatum?_toDatum s.attempts) rfl

instance : LawfulShape Report where
  ofDatum?_toDatum r :=
    bind_field (ofDatum?_toDatum r.result) <|
    bind_field (ofDatum?_toDatum r.diagnostics) <|
    bind_field (ofDatum?_toDatum r.fix) rfl

end Laws

section Ranges

structure Diagnostic.InRange (d : Diagnostic) : Prop where
  line : d.line < Nat.pow 2 32
  column : ∀ n ∈ d.column, n < Nat.pow 2 32

structure ExecutionResult.InRange (r : ExecutionResult) : Prop where
  exitCode : ∀ n ∈ r.exitCode, -(Nat.pow 2 31) ≤ n ∧ n < Nat.pow 2 31
  duration : r.durationMs < Nat.pow 2 64

/-- An attempt with its numbers in their ranges, its time in the years of four digits, and a confidence that survives
its own text. -/
structure Attempt.InRange (a : Attempt) : Prop where
  index : a.index < Nat.pow 2 32
  result : a.result.InRange
  confidence : ∀ f ∈ a.fix, ∀ x ∈ f.confidence, Survives x
  diagnostics : ∀ d ∈ a.diagnostics, d.InRange
  timestamp : a.timestamp.Written

structure Summary.InRange (s : Summary) : Prop where
  maxAttempts : s.maxAttempts < Nat.pow 2 32
  totalAttempts : s.totalAttempts < Nat.pow 2 32
  startedAt : s.startedAt.Written
  elapsed : Survives s.elapsedSeconds
  attempts : ∀ a ∈ s.attempts, a.InRange

structure Report.InRange (r : Report) : Prop where
  result : r.result.InRange
  diagnostics : ∀ d ∈ r.diagnostics, d.InRange
  confidence : ∀ f ∈ r.fix, ∀ x ∈ f.confidence, Survives x

variable {d : Diagnostic} {r : ExecutionResult} {f : Fix} {a : Attempt} {s : Summary}

theorem fits_unsigned {range : IntRange} {bits n : Nat} (h : n < Nat.pow 2 bits)
    (hrange : range.low = 0 ∧ range.high = Nat.pow 2 bits - 1 := by exact ⟨rfl, rfl⟩) :
    (Shape.integer range).Fits (ofNat n) := by
  refine .integer ⟨?_, ?_⟩
  · rw [hrange.1]
    exact Int.natCast_nonneg n
  · rw [hrange.2]
    exact Int.le_sub_one_of_lt (Int.ofNat_lt.2 h)

theorem fits_ofOption {α : Type} {shape : Shape} {g : α → Datum} {o : Option α} (h : ∀ a ∈ o, shape.Fits (g a)) :
    (Shape.optional shape).Fits (ofOption g o) := by
  cases o with
  | none => exact .absent _
  | some a => exact .present (h a rfl)

theorem fits_stage (stage : ExecutionStage) : Fits stage := by
  cases stage <;> exact .choice (by decide)

theorem fits_reason (reason : FailureReason) : Fits reason := by
  cases reason <;> exact .tagged _ rfl

theorem fits_provenance (provenance : Provenance) : Fits provenance := by
  cases provenance <;> exact .choice (by decide)

theorem fits_severity (severity : Severity) : Fits severity := by
  cases severity <;> exact .choice (by decide)

theorem fits_state (state : SessionState) : Fits state := by
  cases state <;> exact .choice (by decide)

theorem fits_language (language : Language) : Fits language := by
  cases language <;> exact .choice (by decide)

theorem Diagnostic.InRange.fits (h : d.InRange) : Fits d := by
  have hcolumn : (Shape.optional (.integer .u32)).Fits (ofOption ofNat d.column) :=
    fits_ofOption fun n hn ↦ fits_unsigned (h.column n hn)
  exact .record <| .cons (fits_unsigned h.line) <| .cons hcolumn <| .cons (fits_severity _) <|
    .cons (fits_string _) .nil

theorem ExecutionResult.InRange.fits (h : r.InRange) : Fits r := by
  have hcode : (Shape.optional (.integer .i32)).Fits (ofOption .int r.exitCode) :=
    fits_ofOption fun n hn ↦ .integer ⟨(h.exitCode n hn).1, Int.le_sub_one_of_lt (h.exitCode n hn).2⟩
  exact .record <| .cons (fits_bool _) <| .cons (fits_string _) <| .cons (fits_string _) <|
    .cons (fits_option fun _ _ ↦ fits_reason _) <| .cons (fits_stage _) <| .cons hcode <|
    .cons (fits_unsigned h.duration) .nil

theorem Fix.fits (h : ∀ x ∈ f.confidence, Survives x) : Fits f :=
  .record <| .cons (fits_string _) <| .cons (fits_string _) <|
    .cons (fits_option fun x hx ↦ fits_float32 (h x hx)) <| .cons (fits_provenance _) <|
    .cons (fits_option fun _ _ ↦ fits_string _) .nil

theorem Attempt.InRange.fits (h : a.InRange) : Fits a :=
  .record <| .cons (fits_unsigned h.index) <| .cons (fits_string _) <| .cons h.result.fits <|
    .cons (fits_option fun f hf ↦ Fix.fits (h.confidence f hf)) <|
    .cons (fits_list fun d hd ↦ (h.diagnostics d hd).fits) <| .cons (.time h.timestamp) <| .cons (fits_bool _) .nil

theorem Summary.InRange.fits (h : s.InRange) : Fits s :=
  .record <| .cons (fits_string _) <| .cons (fits_language _) <| .cons (fits_string _) <| .cons (fits_string _) <|
    .cons (fits_unsigned h.maxAttempts) <| .cons (fits_unsigned h.totalAttempts) <| .cons (fits_state _) <|
    .cons (fits_bool _) <|
    .cons (fits_bool _) <| .cons (.time h.startedAt) <| .cons (fits_float h.elapsed) <|
    .cons (fits_list fun a ha ↦ (h.attempts a ha).fits) .nil

theorem Report.InRange.fits {r : Report} (h : r.InRange) : Fits r :=
  .record <| .cons h.result.fits <| .cons (fits_list fun d hd ↦ (h.diagnostics d hd).fits) <|
    .cons (fits_option fun f hf ↦ Fix.fits (h.confidence f hf)) .nil

end Ranges

/-- The text of an attempt, of a summary and of a report is read as that attempt, summary and report, although what is
absent of a result and of a fix is left out, and only an internal failure has a detail. -/
theorem wire_texts_survive :
    (∀ a : Attempt, a.InRange → parse Attempt (toText a) = .ok a) ∧
      (∀ s : Summary, s.InRange → parse Summary (toText s) = .ok s) ∧
      (∀ r : Report, r.InRange → parse Report (toText r) = .ok r) ∧
      (∀ r : ExecutionResult, ((toJson r).get? "failure_reason").isSome = r.failureReason.isSome ∧
        ((toJson r).get? "exit_code").isSome = r.exitCode.isSome) ∧
      (∀ f : Fix, ((toJson f).get? "confidence").isSome = f.confidence.isSome ∧
        ((toJson f).get? "provider").isSome = f.provider.isSome) ∧
      ∀ reason : FailureReason, ∃ kind, toJson reason = .object (("kind", .string kind) ::
        match reason with
        | .internal message => [("detail", .string message)]
        | _ => []) := by
  refine ⟨fun a h ↦ survives_of_fits (by decide) h.fits, fun s h ↦ survives_of_fits (by decide) h.fits,
    fun r h ↦ survives_of_fits (by decide) h.fits, ?_, ?_, ?_⟩
  · rintro ⟨_, _, _, reason, _, code, _⟩
    cases reason <;> cases code <;> exact ⟨rfl, rfl⟩
  · rintro ⟨_, _, confidence, _, provider⟩
    cases confidence <;> cases provider <;> exact ⟨rfl, rfl⟩
  · intro reason
    cases reason <;> exact ⟨_, rfl⟩

/-- An internal failure whose message has quotes, a line break and a control character. -/
def loggedAttempt : Attempt where
  index := 2
  codeUsed := "print(\"a\tb\")\n"
  result := ⟨false, "", "bad \x01 byte", some (.internal "spawn \"python\" failed\n"), .setup, none, 17⟩
  fix := some ⟨"", "print(1)", none, .fallback, some "openai:gpt"⟩
  diagnostics := [⟨3, some 7, .error, "name \\ expected"⟩, ⟨4, none, .warning, ""⟩]
  timestamp := ⟨1700000000, 250000000⟩
  succeeded := false

def loggedSummary : Summary where
  sessionId := "RETRY_0"
  language := .python
  initialCode := "print(\"a\tb\")\n"
  finalCode := "print(1)"
  maxAttempts := 3
  totalAttempts := 1
  state := .running
  isComplete := false
  succeeded := false
  startedAt := ⟨1700000000, 0⟩
  elapsedSeconds := 0.25
  attempts := [loggedAttempt]

theorem loggedAttempt_inRange : loggedAttempt.InRange where
  index := by decide
  result := ⟨nofun, by decide⟩
  confidence := by
    rintro f ⟨⟩ x ⟨⟩
  diagnostics := by
    intro d hd
    rcases List.mem_cons.1 hd with rfl | hd
    · exact ⟨by decide, by rintro n ⟨⟩; decide⟩
    · cases List.mem_singleton.1 hd
      exact ⟨by decide, nofun⟩
  timestamp := ⟨.inl (by decide), by decide⟩

theorem loggedSummary_inRange : loggedSummary.InRange where
  maxAttempts := by decide
  totalAttempts := by decide
  startedAt := ⟨.inl (by decide), by decide⟩
  elapsed := survives_of_toOption (by decide +kernel)
  attempts := by
    intro a ha
    cases List.mem_singleton.1 ha
    exact loggedAttempt_inRange

theorem wire_texts_survive_logged :
    (loggedAttempt.InRange ∧ parse Attempt (toText loggedAttempt) = .ok loggedAttempt) ∧
      (loggedSummary.InRange ∧ parse Summary (toText loggedSummary) = .ok loggedSummary) ∧
      parse Report (toText (⟨loggedAttempt.result, loggedAttempt.diagnostics, loggedAttempt.fix⟩ : Report)) =
        .ok ⟨loggedAttempt.result, loggedAttempt.diagnostics, loggedAttempt.fix⟩ :=
  have ha := loggedAttempt_inRange
  ⟨⟨ha, wire_texts_survive.1 loggedAttempt ha⟩,
    ⟨loggedSummary_inRange, wire_texts_survive.2.1 loggedSummary loggedSummary_inRange⟩,
    wire_texts_survive.2.2.1 _ ⟨ha.result, ha.diagnostics, ha.confidence⟩⟩

end CodeRepair
