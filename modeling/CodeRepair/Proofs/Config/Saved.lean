import CodeRepair.Config.Check
import CodeRepair.Proofs.Schema.Toml
import CodeRepair.Proofs.Session.Wire

/-!
A configuration that was saved is read back, with the standing fallback where it has none of its own.
-/
namespace CodeRepair

open Schema

section Laws

instance : LawfulShape NoFixPolicy := ⟨fun p ↦ by cases p <;> rfl⟩

instance : LawfulShape ProviderKind := ⟨fun k ↦ by cases k <;> rfl⟩

instance : LawfulShape Limits where
  ofDatum?_toDatum l :=
    bind_field (natOf?_ofNat l.timeoutSecs) <|
    bind_field (natOf?_ofNat l.compileTimeoutSecs) <|
    bind_field (natOf?_ofNat l.maxOutputBytes) rfl

instance : LawfulShape Toolchain where
  ofDatum?_toDatum t :=
    bind_field (ofDatum?_toDatum t.python) <|
    bind_field (ofDatum?_toDatum t.pythonArgs) <|
    bind_field (ofDatum?_toDatum t.cppCompiler) <|
    bind_field (ofDatum?_toDatum t.cppFlags) rfl

instance : LawfulShape SandboxConfig where
  ofDatum?_toDatum c :=
    bind_field (ofDatum?_toDatum c.workDir) <|
    bind_field (ofDatum?_toDatum c.limits) <|
    bind_field (ofDatum?_toDatum c.toolchain) rfl

instance : LawfulShape RetryConfig where
  ofDatum?_toDatum c :=
    bind_field (natOf?_ofNat c.defaultMaxAttempts) <|
    bind_field (natOf?_ofNat c.maxAttemptsLimit) <|
    bind_field (natOf?_ofNat c.maxCodeLength) <|
    bind_field (natOf?_ofNat c.providerTimeoutSecs) <|
    bind_field (ofDatum?_toDatum c.onNoFix) <|
    bind_field (natOf?_ofNat c.maxSessions) rfl

instance : LawfulShape SafetyConfig where
  ofDatum?_toDatum c := bind_field (ofDatum?_toDatum c.extraTerms) rfl

instance : LawfulShape ProviderConfig where
  ofDatum?_toDatum c :=
    bind_field (ofDatum?_toDatum c.kind) <|
    bind_field (ofDatum?_toDatum c.model) <|
    bind_field (ofDatum?_toDatum c.apiKeyEnv) <|
    bind_field (ofDatum?_toDatum c.baseUrl) <|
    bind_field (natOf?_ofNat c.timeoutSecs) rfl

instance : LawfulShape ProvidersConfig where
  ofDatum?_toDatum c :=
    bind_field (ofDatum?_toDatum c.primary) <|
    bind_field (ofDatum?_toDatum c.fallback) rfl

instance : LawfulShape GatewayConfig where
  ofDatum?_toDatum c :=
    bind_field (ofDatum?_toDatum c.host) <|
    bind_field (natOf?_ofNat c.port) <|
    bind_field (ofDatum?_toDatum c.corsOrigins) rfl

instance : LawfulShape Config where
  ofDatum?_toDatum c :=
    bind_field (ofDatum?_toDatum c.sandbox) <|
    bind_field (ofDatum?_toDatum c.retry) <|
    bind_field (ofDatum?_toDatum c.safety) <|
    bind_field (ofDatum?_toDatum c.providers) <|
    bind_field (ofDatum?_toDatum c.gateway) rfl

end Laws

section Ranges

structure Limits.InRange (l : Limits) : Prop where
  timeout : l.timeoutSecs < Nat.pow 2 64
  compileTimeout : l.compileTimeoutSecs < Nat.pow 2 64
  maxOutput : l.maxOutputBytes < Nat.pow 2 64

structure RetryConfig.InRange (c : RetryConfig) : Prop where
  defaultMaxAttempts : c.defaultMaxAttempts < Nat.pow 2 32
  maxAttemptsLimit : c.maxAttemptsLimit < Nat.pow 2 32
  maxCodeLength : c.maxCodeLength < Nat.pow 2 64
  providerTimeout : c.providerTimeoutSecs < Nat.pow 2 64
  maxSessions : c.maxSessions < Nat.pow 2 64

/-- A configuration whose numbers have the widths of their fields. -/
structure Config.InRange (c : Config) : Prop where
  limits : c.sandbox.limits.InRange
  retry : c.retry.InRange
  primary : c.providers.primary.timeoutSecs < Nat.pow 2 64
  fallback : ∀ p ∈ c.providers.fallback, p.timeoutSecs < Nat.pow 2 64
  port : c.gateway.port < Nat.pow 2 16

theorem fits_texts (ss : List String) : Fits ss := fits_list fun s _ ↦ fits_string s

theorem Limits.InRange.fits {l : Limits} (h : l.InRange) : Fits l :=
  .record <| .cons (fits_unsigned h.timeout) <| .cons (fits_unsigned h.compileTimeout) <|
    .cons (fits_unsigned h.maxOutput) .nil

theorem Toolchain.fits (t : Toolchain) : Fits t :=
  .record <| .cons (fits_string _) <| .cons (fits_texts _) <| .cons (fits_string _) <| .cons (fits_texts _) .nil

theorem SandboxConfig.fits {c : SandboxConfig} (h : c.limits.InRange) : Fits c := by
  have hdir : (Shape.optional .path).Fits (toDatum c.workDir) := by
    cases c.workDir with
    | none => exact .absent _
    | some path => exact .present (.path path)
  exact .record <| .cons hdir <| .cons h.fits <| .cons c.toolchain.fits .nil

theorem fits_policy (policy : NoFixPolicy) : Fits policy := by
  cases policy <;> exact .choice (by decide)

theorem fits_kind (kind : ProviderKind) : Fits kind := by
  cases kind <;> exact .choice (by decide)

theorem RetryConfig.InRange.fits {c : RetryConfig} (h : c.InRange) : Fits c :=
  .record <| .cons (fits_unsigned h.defaultMaxAttempts) <| .cons (fits_unsigned h.maxAttemptsLimit) <|
    .cons (fits_unsigned h.maxCodeLength) <| .cons (fits_unsigned h.providerTimeout) <| .cons (fits_policy _) <|
    .cons (fits_unsigned h.maxSessions) .nil

theorem ProviderConfig.fits {c : ProviderConfig} (h : c.timeoutSecs < Nat.pow 2 64) : Fits c :=
  .record <| .cons (fits_kind _) <| .cons (fits_option fun _ _ ↦ fits_string _) <| .cons (fits_string _) <|
    .cons (fits_option fun _ _ ↦ fits_string _) <| .cons (fits_unsigned h) .nil

theorem Config.InRange.fits {c : Config} (h : c.InRange) : Fits c := by
  have hproviders : Fits c.providers :=
    .record <| .cons (ProviderConfig.fits h.primary) <|
      .cons (fits_option fun p hp ↦ ProviderConfig.fits (h.fallback p hp)) .nil
  have hgateway : Fits c.gateway :=
    .record <| .cons (fits_string _) <| .cons (fits_unsigned h.port) <| .cons (fits_texts _) .nil
  have hsafety : Fits c.safety := .record <| .cons (fits_texts _) .nil
  exact .record <| .cons (SandboxConfig.fits h.limits) <| .cons h.retry.fits <| .cons hsafety <| .cons hproviders <|
    .cons hgateway .nil

end Ranges

section Settled

/-- A value that comes back as it was, absent fields included. -/
def Settled {α : Type} [HasShape α] (a : α) : Prop := (shape α).settle (toDatum a) = toDatum a

theorem settled_texts (ss : List String) : Settled ss := by
  have htexts : (ss.map toDatum).map Shape.text.settle = ss.map toDatum := by
    rw [List.map_map]
    rfl
  exact congrArg Datum.list htexts

theorem settled_toolchain (t : Toolchain) : Settled t :=
  congrArg₂ (fun args flags ↦ Datum.record [.text t.python, args, .text t.cppCompiler, flags])
    (settled_texts t.pythonArgs) (settled_texts t.cppFlags)

theorem settled_sandbox (c : SandboxConfig) : Settled c := by
  obtain ⟨workDir, limits, toolchain⟩ := c
  have htoolchain := settled_toolchain toolchain
  cases workDir with
  | none => exact congrArg (fun d ↦ Datum.record [.none, toDatum limits, d]) htoolchain
  | some path => exact congrArg (fun d ↦ Datum.record [.some (.text path), toDatum limits, d]) htoolchain

theorem settled_retry (c : RetryConfig) : Settled c := by
  obtain ⟨_, _, _, _, policy, _⟩ := c
  cases policy <;> rfl

theorem settled_safety (c : SafetyConfig) : Settled c :=
  congrArg (fun terms ↦ Datum.record [terms]) (settled_texts c.extraTerms)

theorem settled_provider (c : ProviderConfig) : Settled c := by
  obtain ⟨kind, model, _, url, _⟩ := c
  cases kind <;> cases model <;> cases url <;> rfl

theorem settled_gateway (c : GatewayConfig) : Settled c :=
  congrArg (fun origins ↦ Datum.record [.text c.host, ofNat c.port, origins]) (settled_texts c.corsOrigins)

def ProvidersConfig.withFallback (c : ProvidersConfig) : ProvidersConfig :=
  { c with fallback := c.fallback.or ProvidersConfig.default.fallback }

def Config.withFallback (c : Config) : Config := { c with providers := c.providers.withFallback }

theorem settle_providers (c : ProvidersConfig) :
    (shape ProvidersConfig).settle (toDatum c) = toDatum c.withFallback := by
  obtain ⟨primary, fallback⟩ := c
  have hprimary := settled_provider primary
  cases fallback with
  | none => exact congrArg (fun d ↦ Datum.record [d, toDatum ProvidersConfig.default.fallback]) hprimary
  | some p => exact congrArg₂ (fun d d' ↦ Datum.record [d, .some d']) hprimary (settled_provider p)

theorem settle_config (c : Config) : (shape Config).settle (toDatum c) = toDatum c.withFallback := by
  have hfields : (shape Config).settle (toDatum c) = .record [(shape SandboxConfig).settle (toDatum c.sandbox),
      (shape RetryConfig).settle (toDatum c.retry), (shape SafetyConfig).settle (toDatum c.safety),
      (shape ProvidersConfig).settle (toDatum c.providers), (shape GatewayConfig).settle (toDatum c.gateway)] := rfl
  rw [hfields, settled_sandbox, settled_retry, settled_safety, settle_providers, settled_gateway]
  rfl

end Settled

section Saved

variable {c : Config} {text : String}

theorem Config.toToml_ok : c.toToml = .ok text ↔ toTomlText? c = some text := by
  unfold Config.toToml
  split
  next h => simp [h]
  next h => simp [h]

theorem Config.validate_ok : c.validate = .ok () ↔ c.faults = [] := by
  unfold Config.validate
  split
  next h => simp [h]
  next h => simp [h]

/-- The standing fallback has no faults, so a configuration that is accepted without one is accepted with it. -/
theorem Config.validate_withFallback (h : c.validate = .ok ()) : c.withFallback.validate = .ok () := by
  rw [Config.validate_ok] at h ⊢
  obtain ⟨sandbox, retry, safety, ⟨primary, fallback⟩, gateway⟩ := c
  cases fallback with
  | none =>
    have hstanding : ProviderConfig.openrouter.faults "providers.fallback" = [] := by decide
    have hfaults : Config.faults (Config.withFallback ⟨sandbox, retry, safety, ⟨primary, none⟩, gateway⟩) =
        Config.sandboxFaults sandbox ++ Config.retryFaults retry ++ primary.faults "providers.primary" ++
          ProviderConfig.openrouter.faults "providers.fallback" ++
          faultIf (Text.blank gateway.host) (.emptyField "gateway.host") := rfl
    rw [hfaults, hstanding]
    exact h
  | some p => exact h

theorem Config.withFallback_eq : c.withFallback = c ↔ c.providers.fallback.isSome = true := by
  obtain ⟨_, _, _, ⟨_, fallback⟩, _⟩ := c
  cases fallback with
  | none => exact ⟨nofun, nofun⟩
  | some p => exact ⟨fun _ ↦ rfl, fun _ ↦ rfl⟩

/-- A configuration that was accepted and saved is read as itself, but for a missing fallback, in whose place the
standing one is read. -/
theorem saved_configuration_read (hrange : c.InRange) (hvalid : c.validate = .ok ()) (hsaved : c.toToml = .ok text) :
    Config.ofToml text = .ok c.withFallback ∧ (Config.ofToml text = .ok c ↔ c.providers.fallback.isSome = true) := by
  have hparse : parseToml Config text = some c.withFallback :=
    parseToml_toTomlText (by decide) (by decide) hrange.fits (settle_config c) (Config.toToml_ok.1 hsaved)
  have hread : Config.ofToml text = .ok c.withFallback := by
    rw [Config.ofToml, hparse]
    simp only [Config.validate_withFallback hvalid]
    rfl
  refine ⟨hread, ?_⟩
  rw [hread, Except.ok.injEq, Config.withFallback_eq]

def unpaired : Config := { Config.default with providers.fallback := none }

theorem unpaired_inRange : unpaired.InRange where
  limits := ⟨by decide, by decide, by decide⟩
  retry := ⟨by decide, by decide, by decide, by decide, by decide⟩
  primary := by decide
  fallback := nofun
  port := by decide

theorem saved_configuration_read_unpaired :
    ∃ text, unpaired.InRange ∧ unpaired.validate = .ok () ∧ unpaired.toToml = .ok text ∧
      Config.ofToml text = .ok Config.default ∧ Config.ofToml text ≠ .ok unpaired := by
  have hvalid : unpaired.validate = .ok () := by decide
  obtain ⟨text, htext⟩ : ∃ text, toTomlText? unpaired = some text := Option.isSome_iff_exists.1 (by decide)
  have hsaved : unpaired.toToml = .ok text := Config.toToml_ok.2 htext
  obtain ⟨hread, hsame⟩ := saved_configuration_read unpaired_inRange hvalid hsaved
  exact ⟨text, unpaired_inRange, hvalid, hsaved, hread, fun h ↦ by cases hsame.1 h⟩

end Saved

end CodeRepair
