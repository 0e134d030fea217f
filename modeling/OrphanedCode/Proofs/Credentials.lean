import OrphanedCode.Proofs.Settings
/-!
The credentials of a full run.

Validation comes before everything a run does. A full run lacking its api key, its application key
or its service name, or holding one made of blanks only, ends on the configuration error that names
all that lack, with no effect: the clock is not read, the service is not asked and the workspace is
not scanned. Past validation the three are present and not blank, so the client for the keys is
built, and what the service answers can fail on the status line, the status code or the body only.
So no run ends on a missing credential, whatever the clock reads and the service answers.
-/

namespace OrphanedCode

/-! ## Failures of the service -/

theorem TelemetryClient.replyTraces_ne_missingCredentials (reply : Reply) (what : String) :
    replyTraces reply ≠ .error (.missingCredentials what) := by
  unfold replyTraces
  dsimp only
  -- a reply fails on its status line, on its status code or on its body
  split_ifs
  · nofun
  · nofun
  · nofun
  · split <;> nofun
  · split <;> nofun

theorem TelemetryClient.gateway_ne_missingCredentials (c : TelemetryClient) (link : ServiceLink Id)
    (service : String) (window : TimeRange) (what : String) :
    (c.gateway link).fetchTraces service window ≠ .error (.missingCredentials what) := by
  show (match link.exchange (c.request service window link.now) with
    | .error detail => (.error (.transport detail) : Except TelemetryError (List TraceRecord))
    | .ok reply => replyTraces reply) ≠ _
  split
  · nofun
  · exact replyTraces_ne_missingCredentials _ what

/-! ## Failures of a run -/

/-- A run ends on a telemetry failure only in a full run: on a time range that does not read, or
on a failure of the gateway. -/
theorem analyzeRun_telemetry_error {config : Config} {mode : RunMode Id} {rootName : String}
    {root : WorkspaceRoot} {e : TelemetryError}
    (h : (analyzeRun config mode rootName root).run = .error (.telemetry e)) :
    ∃ gateway service text, mode = .full gateway service text ∧
      (e = .invalidTimeRange text ∨ ∃ window, gateway.fetchTraces service window = .error e) := by
  cases hthr : checkThreshold config.confidenceThreshold with
  | error e' =>
    rw [analyzeRun_of_threshold_error hthr] at h
    cases h
  | ok u =>
    cases u
    cases hroot : root.isDir with
    | false =>
      rw [analyzeRun_of_not_dir hthr hroot] at h
      cases h
    | true =>
      cases mode with
      | pr =>
        rw [analyzeRun_pr hthr hroot] at h
        cases h
      | full gateway service text =>
        refine ⟨gateway, service, text, rfl, ?_⟩
        cases hrange : TimeRange.parse? text with
        | none =>
          rw [analyzeRun_full_of_invalid hthr hroot hrange] at h
          cases h
          exact .inl rfl
        | some window =>
          rw [analyzeRun_full hthr hroot hrange] at h
          -- only the gateway's own failure is left to end the run
          cases hanswer : gateway.fetchTraces service window with
          | error e' =>
            simp only [hanswer] at h
            cases h
            exact .inr ⟨window, hanswer⟩
          | ok traces =>
            simp only [hanswer] at h
            cases h

section Settings

variable {m : Type → Type} [Monad m] [LawfulMonad m] {config : Config} {link : ServiceLink m}
  {rootName : String} {root : WorkspaceRoot}

theorem Config.run_of_validate_error {e : ConfigError} (h : config.validate = .error e) :
    (config.run link rootName root).run = pure (.error (.config e)) := by
  simp [Config.run, h]

omit [LawfulMonad m] in
theorem Config.run_pr (hvalid : config.validate = .ok ()) (hmode : config.mode = .pr) :
    (config.run link rootName root).run = (analyzeRun config .pr rootName root).run := by
  simp [Config.run, hvalid, hmode]

theorem Config.run_full {api app service : String} (hvalid : config.validate = .ok ())
    (hmode : config.mode = .full) (hapi : config.telemetry.apiKey = some api)
    (happ : config.telemetry.appKey = some app) (hservice : config.telemetry.serviceName = some service) :
    (config.run link rootName root).run =
      (analyzeRun config (.full ((⟨TelemetryClient.siteUrl config.telemetry.site, api, app⟩ : TelemetryClient).gateway link)
        service config.telemetry.timeRange) rootName root).run := by
  simp [Config.run, hvalid, hmode, TelemetryClient.ofSettings, hapi, happ, hservice]

end Settings

/-- A setting that is not blank is present. -/
theorem exists_of_not_blankSetting {v : Option String} (h : ¬BlankSetting v) :
    ∃ s, v = some s ∧ ¬BlankSetting (some s) := by
  cases v with
  | none => exact absurd (by simp [BlankSetting]) h
  | some s => exact ⟨s, rfl, h⟩

/-- No credential lacks exactly when none of the three is absent or blank. -/
theorem TelemetrySettings.missing_eq_nil_iff {t : TelemetrySettings} :
    t.missing = [] ↔
      ¬BlankSetting t.apiKey ∧ ¬BlankSetting t.appKey ∧ ¬BlankSetting t.serviceName := by
  obtain ⟨hapi, happ, hservice⟩ := t.mem_missing
  constructor
  · intro hnone
    rw [hnone] at hapi happ hservice
    exact ⟨by simpa using hapi, by simpa using happ, by simpa using hservice⟩
  · rintro ⟨hapi', happ', hservice'⟩
    -- whatever is named as lacking is one of the three, and each of them is set
    refine List.eq_nil_iff_forall_not_mem.2 fun what hwhat => ?_
    have hthree := t.missing_sublist.subset hwhat
    simp only [List.mem_cons, List.not_mem_nil, or_false] at hthree
    rcases hthree with rfl | rfl | rfl
    · exact hapi' (hapi.1 hwhat)
    · exact happ' (happ.1 hwhat)
    · exact hservice' (hservice.1 hwhat)

/-- Settings that pass validation for a full run hold all three credentials, none blank. -/
theorem Config.credentials_of_validate {config : Config} (hvalid : config.validate = .ok ())
    (hmode : config.mode = .full) :
    ∃ api app service, config.telemetry.apiKey = some api ∧ config.telemetry.appKey = some app ∧
      config.telemetry.serviceName = some service ∧
      ¬BlankSetting (some api) ∧ ¬BlankSetting (some app) ∧ ¬BlankSetting (some service) := by
  obtain ⟨hapi, happ, hservice⟩ :=
    TelemetrySettings.missing_eq_nil_iff.1 ((validate_eq_ok_iff.1 hvalid).2 hmode).1
  obtain ⟨api, hapi', hapi''⟩ := exists_of_not_blankSetting hapi
  obtain ⟨app, happ', happ''⟩ := exists_of_not_blankSetting happ
  obtain ⟨service, hservice', hservice''⟩ := exists_of_not_blankSetting hservice
  exact ⟨api, app, service, hapi', happ', hservice', hapi'', happ'', hservice''⟩

/-- A full run's credentials are checked by validation before anything else is done. Settings that
pass validation for a full run hold the api key, the application key and the service name, none of
them blank. With a threshold in `[0, 1]`, a full run lacking any of them ends on the configuration
error that names all that lack, with no effect at all: the clock is not read, the service is not
asked and the workspace is not scanned. And whatever the clock reads and the service answers, no
run ends on a missing credential. -/
theorem Config.run_checks_credentials_first (config : Config) (rootName : String)
    (root : WorkspaceRoot) :
    (config.validate = .ok () → config.mode = .full →
      ∃ api app service, config.telemetry.apiKey = some api ∧ config.telemetry.appKey = some app ∧
        config.telemetry.serviceName = some service ∧
        ¬BlankSetting (some api) ∧ ¬BlankSetting (some app) ∧ ¬BlankSetting (some service)) ∧
    (∀ {m : Type → Type} [Monad m] [LawfulMonad m] (link : ServiceLink m),
      (0.0 ≤ config.confidenceThreshold ∧ config.confidenceThreshold ≤ 1.0) →
      config.mode = .full →
      (BlankSetting config.telemetry.apiKey ∨ BlankSetting config.telemetry.appKey ∨
        BlankSetting config.telemetry.serviceName) →
      (config.run link rootName root).run =
        pure (.error (.config (.missingTelemetry config.telemetry.missing)))) ∧
    (∀ (link : ServiceLink Id) (what : String),
      (config.run link rootName root).run ≠ .error (.telemetry (.missingCredentials what))) := by
  refine ⟨credentials_of_validate, ?_, ?_⟩
  · intro m _ _ link hthr hmode hblank
    have hmissing : config.telemetry.missing ≠ [] := by
      rw [Ne, TelemetrySettings.missing_eq_nil_iff]
      rintro ⟨hapi, happ, hservice⟩
      rcases hblank with h | h | h
      · exact hapi h
      · exact happ h
      · exact hservice h
    exact run_of_validate_error (validate_of_missing hthr hmode hmissing)
  · intro link what
    cases hvalid : config.validate with
    | error e =>
      rw [run_of_validate_error hvalid]
      nofun
    | ok u =>
      cases u
      cases hmode : config.mode with
      | pr =>
        rw [run_pr hvalid hmode]
        intro h
        obtain ⟨_, _, _, hfull, -⟩ := analyzeRun_telemetry_error h
        cases hfull
      | full =>
        -- validation has seen the three credentials, so the client is built and asks the service
        obtain ⟨api, app, service, hapi, happ, hservice, -⟩ := credentials_of_validate hvalid hmode
        rw [run_full hvalid hmode hapi happ hservice]
        intro h
        obtain ⟨_, _, _, hfull, hcause⟩ := analyzeRun_telemetry_error h
        cases hfull
        rcases hcause with hrange | ⟨window, hfetch⟩
        · cases hrange
        · exact TelemetryClient.gateway_ne_missingCredentials _ link _ window what hfetch

end OrphanedCode
