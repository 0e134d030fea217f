import OrphanedCode.Analysis.Run
import OrphanedCode.Proofs.Evidence
import OrphanedCode.Proofs.Scan
/-!
Whole detection runs. A run checks the threshold, then the root, then in a full run the time range,
and the first check that fails ends it before the gateway is asked anything; a full run that
passes them asks the gateway once, for the window its time range reads as, and ends with the
gateway's failure as it is. A run whose checks pass returns the analysis of the scanned inventory.
Over telemetry, the analysis is fixed by the traces alone: nothing is said about functions, the
active usage is the aggregated traces, and the endpoints reported are those no trace served, all
for `no traces`, so a full run never reports an endpoint for zero hits. Over static evidence, an
endpoint whose handler a file declares beside a route naming it is never reported, and one whose
handler is not a word always is, as no function bears such a name.
-/

namespace OrphanedCode

/-! ## The checks of a run -/

theorem checkThreshold_eq_ok {t : Float} (h : 0.0 ≤ t ∧ t ≤ 1.0) : checkThreshold t = .ok () := by
  simp [checkThreshold, h]

theorem checkThreshold_eq_error {t : Float} (h : ¬(0.0 ≤ t ∧ t ≤ 1.0)) :
    checkThreshold t = .error (.thresholdOutOfRange t) := by
  simp [checkThreshold, h]

section Checks

variable {m : Type → Type} [Monad m] [LawfulMonad m] {config : Config} {rootName : String}
  {root : WorkspaceRoot}

theorem analyzeRun_of_threshold_error {mode : RunMode m} {e : ConfigError}
    (h : checkThreshold config.confidenceThreshold = .error e) :
    (analyzeRun config mode rootName root).run = pure (.error (.config e)) := by
  simp [analyzeRun, h]

theorem analyzeRun_of_not_dir {mode : RunMode m}
    (hthr : checkThreshold config.confidenceThreshold = .ok ()) (hroot : root.isDir = false) :
    (analyzeRun config mode rootName root).run = pure (.error (.missingRoot rootName)) := by
  simp [analyzeRun, hthr, hroot]

omit [LawfulMonad m] in
theorem analyzeRun_pr (hthr : checkThreshold config.confidenceThreshold = .ok ())
    (hroot : root.isDir = true) :
    (analyzeRun config (.pr : RunMode m) rootName root).run =
      pure (.ok (Evidence.static.analyze config
        (Inventory.scan ⟨config.exclude, config.respectGitignore⟩ rootName root))) := by
  simp [analyzeRun, hthr, hroot]

theorem analyzeRun_full_of_invalid {gateway : UsageGateway m} {service text : String}
    (hthr : checkThreshold config.confidenceThreshold = .ok ()) (hroot : root.isDir = true)
    (hrange : TimeRange.parse? text = none) :
    (analyzeRun config (.full gateway service text) rootName root).run =
      pure (.error (.telemetry (.invalidTimeRange text))) := by
  simp [analyzeRun, hthr, hroot, hrange]

/-- A full run past its checks asks the gateway once, for the window its time range reads as:
the usage method reads the same range again and cannot fail on it. -/
theorem analyzeRun_full {gateway : UsageGateway m} {service text : String} {window : TimeRange}
    (hthr : checkThreshold config.confidenceThreshold = .ok ()) (hroot : root.isDir = true)
    (hrange : TimeRange.parse? text = some window) :
    (analyzeRun config (.full gateway service text) rootName root).run = (do
      match ← gateway.fetchTraces service window with
      | .error e => pure (.error (.telemetry e))
      | .ok traces =>
        pure (.ok (.ofJudged config .full
          (Inventory.scan ⟨config.exclude, config.respectGitignore⟩ rootName root)
          (judgeByUsage (aggregateUsage traces)
            (Inventory.scan ⟨config.exclude, config.respectGitignore⟩ rootName root))))) := by
  simp only [analyzeRun, hthr, hroot, Bool.not_true, Bool.false_eq_true, ↓reduceIte, hrange,
    Option.isNone_some, UsageGateway.endpointUsage, bind_pure_comp, ExceptT.run_map,
    ExceptT.run_mk, liftM_map, bind_map_left]
  simp only [liftM, monadLift, MonadLift.monadLift, ExceptT.run_bind, ExceptT.run_lift,
    bind_map_left]
  -- what is left is the branch on the gateway's answer, the same on both sides
  congr 1
  funext answer
  cases answer <;> rfl

/-- A run checks, in this order and stopping at the first failure, that the threshold lies in
`[0, 1]`, that the root is a directory, and in a full run that the time range reads; a failed
check is the run's error, and the gateway is not asked. A full run past its checks asks the
gateway once, for the window read from the time range, and ends with the gateway's failure
unchanged or with the analysis of the traces it returns. A pull-request run asks no gateway. -/
theorem analyzeRun_checks_in_order (config : Config) (mode : RunMode m) (rootName : String)
    (root : WorkspaceRoot) :
    (analyzeRun config mode rootName root).run =
      if ¬(0.0 ≤ config.confidenceThreshold ∧ config.confidenceThreshold ≤ 1.0) then
        pure (.error (.config (.thresholdOutOfRange config.confidenceThreshold)))
      else if root.isDir = false then pure (.error (.missingRoot rootName))
      else
        match mode with
        | .pr => pure (.ok (Evidence.static.analyze config
            (Inventory.scan ⟨config.exclude, config.respectGitignore⟩ rootName root)))
        | .full gateway service text =>
          match TimeRange.parse? text with
          | none => pure (.error (.telemetry (.invalidTimeRange text)))
          | some window => (do
            match ← gateway.fetchTraces service window with
            | .error e => pure (.error (.telemetry e))
            | .ok traces =>
              pure (.ok (.ofJudged config .full
                (Inventory.scan ⟨config.exclude, config.respectGitignore⟩ rootName root)
                (judgeByUsage (aggregateUsage traces)
                  (Inventory.scan ⟨config.exclude, config.respectGitignore⟩ rootName root))))) := by
  by_cases hthr : 0.0 ≤ config.confidenceThreshold ∧ config.confidenceThreshold ≤ 1.0
  · have hok := checkThreshold_eq_ok hthr
    rw [if_neg (not_not.2 hthr)]
    cases hroot : root.isDir with
    | false => exact analyzeRun_of_not_dir hok hroot
    | true =>
      rw [if_neg nofun]
      cases mode with
      | pr => exact analyzeRun_pr hok hroot
      | full gateway service text =>
        dsimp only
        cases hrange : TimeRange.parse? text with
        | none => exact analyzeRun_full_of_invalid hok hroot hrange
        | some window => exact analyzeRun_full hok hroot hrange
  · rw [if_pos hthr]
    exact analyzeRun_of_threshold_error (checkThreshold_eq_error hthr)

end Checks

/-- A full run whose gateway counts its requests and refuses them: the gateway is asked once, and
its refusal is the run's error. -/
theorem analyzeRun_checks_in_order_failing_gateway :
    LawfulMonad (StateM Nat) ∧
      ((analyzeRun (m := StateM Nat) {}
          (.full ⟨fun _ _ => modify (· + 1) *> pure (.error (.status 403 "denied"))⟩ "api" "1d")
          "repo" (.dir [])).run.run 0) =
        (.error (.telemetry (.status 403 "denied")), 1) :=
  ⟨inferInstance, by rw [analyzeRun_checks_in_order]; rfl⟩

theorem detect_of_threshold_error {config : Config} {evidence : Evidence} {rootName : String}
    {root : WorkspaceRoot} {e : ConfigError} (h : checkThreshold config.confidenceThreshold = .error e) :
    detect config evidence rootName root = .error (.config e) :=
  analyzeRun_of_threshold_error (m := Id) h

section Checked

variable {config : Config} {rootName : String} {entries : List Entry}
  (hthr : checkThreshold config.confidenceThreshold = .ok ())

include hthr

/-- A static run over a directory whose threshold passes is the analysis of its inventory. -/
theorem detect_static :
    detect config .static rootName (.dir entries) =
      .ok (Evidence.static.analyze config
        (Inventory.scan ⟨config.exclude, config.respectGitignore⟩ rootName (.dir entries))) :=
  analyzeRun_pr (m := Id) hthr rfl

/-- A telemetry run over a directory whose threshold passes and whose time range reads is the
analysis of its inventory. -/
theorem detect_telemetry {traces : List TraceRecord} {timeRange : String}
    (hrange : (TimeRange.parse? timeRange).isSome = true) :
    detect config (.telemetry traces timeRange) rootName (.dir entries) =
      .ok ((Evidence.telemetry traces timeRange).analyze config
        (Inventory.scan ⟨config.exclude, config.respectGitignore⟩ rootName (.dir entries))) := by
  obtain ⟨window, hwindow⟩ := Option.isSome_iff_exists.1 hrange
  exact analyzeRun_full (m := Id) hthr rfl hwindow

end Checked

/-! ## What an analysis reports -/

section Analysis

variable (config : Config) (inv : Inventory)

@[simp] theorem analyze_orphanedEndpoints (evidence : Evidence) :
    (evidence.analyze config inv).orphanedEndpoints =
      keepConfident config.confidenceThreshold (evidence.judge inv).1 := rfl

@[simp] theorem analyze_orphanedFunctions (evidence : Evidence) :
    (evidence.analyze config inv).orphanedFunctions =
      keepConfident config.confidenceThreshold (evidence.judge inv).2.1 := rfl

@[simp] theorem analyze_activeEndpoints (evidence : Evidence) :
    (evidence.analyze config inv).activeEndpoints = (evidence.judge inv).2.2 := rfl

@[simp] theorem judge_static :
    Evidence.static.judge inv =
      (StaticEvidence.orphanedEndpoints inv.endpoints inv.functions,
        StaticEvidence.orphanedFunctions inv.functions inv.endpoints, []) := rfl

@[simp] theorem judge_telemetry (traces : List TraceRecord) (timeRange : String) :
    (Evidence.telemetry traces timeRange).judge inv =
      (TelemetryEvidence.orphanedEndpoints (aggregateUsage traces) inv.endpoints, [],
        aggregateUsage traces) := rfl

end Analysis

/-! ## Full runs -/

/-- A full run over any workspace, with a threshold in `[0, 1]` and a time range that reads,
succeeds. It reports no function, reports the usage aggregated from the traces as active, and
reports for `no traces`, in scan order, exactly the scanned endpoints that no trace served: all of
them when the threshold is at most 0.9, none otherwise. No endpoint is reported for zero hits. -/
theorem telemetryRun_reports_unserved_endpoints (config : Config) (traces : List TraceRecord)
    (timeRange rootName : String) (entries : List Entry)
    (hthr : 0.0 ≤ config.confidenceThreshold ∧ config.confidenceThreshold ≤ 1.0)
    (hrange : (TimeRange.parse? timeRange).isSome = true) :
    ∃ r, detect config (.telemetry traces timeRange) rootName (.dir entries) = .ok r ∧
      r.orphanedFunctions = [] ∧ r.activeEndpoints = aggregateUsage traces ∧
      r.orphanedEndpoints =
        (if config.confidenceThreshold ≤ 0.9 then
          (((Inventory.scan ⟨config.exclude, config.respectGitignore⟩ rootName (.dir entries)).endpoints.filter
            fun e => !traces.any (·.serves e)).map fun e => .make (.endpoint e) .noTraces)
        else []) ∧
      ∀ f ∈ r.orphanedEndpoints, f.reason ≠ .zeroHits := by
  have hreport := TelemetryEvidence.orphanedEndpoints_aggregateUsage traces
    (Inventory.scan ⟨config.exclude, config.respectGitignore⟩ rootName (.dir entries)).endpoints
  have hendpoints :
      ((Evidence.telemetry traces timeRange).analyze config
        (Inventory.scan ⟨config.exclude, config.respectGitignore⟩ rootName (.dir entries))).orphanedEndpoints =
        (if config.confidenceThreshold ≤ 0.9 then
          (((Inventory.scan ⟨config.exclude, config.respectGitignore⟩ rootName (.dir entries)).endpoints.filter
            fun e => !traces.any (·.serves e)).map fun e => .make (.endpoint e) .noTraces)
        else []) := by
    rw [analyze_orphanedEndpoints, judge_telemetry, hreport]
    apply keepConfident_of_confidence
    intro f hf
    obtain ⟨e, -, rfl⟩ := List.mem_map.1 hf
    rfl
  refine ⟨_, detect_telemetry (checkThreshold_eq_ok hthr) hrange, rfl, rfl, hendpoints, ?_⟩
  -- every reported finding is one of the `no traces` findings built above
  intro f hf
  rw [hendpoints] at hf
  split at hf
  · obtain ⟨e, -, rfl⟩ := List.mem_map.1 hf
    simp [OrphanFinding.make]
  · cases hf

/-- The default threshold with a week of traces, over a workspace with one express route. -/
theorem telemetryRun_reports_unserved_endpoints_express :
    (0.0 ≤ ({} : Config).confidenceThreshold ∧ ({} : Config).confidenceThreshold ≤ 1.0) ∧
      (TimeRange.parse? "7d").isSome = true ∧
      ∃ r, detect {} (.telemetry [⟨"/users/42", some "get", 0.0, 4.0⟩] "7d") "app"
          (.dir [.file "server.js" "app.get('/users/:id', getUser);".toUTF8.toList]) = .ok r ∧
        r.orphanedFunctions = [] ∧ r.activeEndpoints = aggregateUsage [⟨"/users/42", some "get", 0.0, 4.0⟩] ∧
        r.orphanedEndpoints =
          (if ({} : Config).confidenceThreshold ≤ 0.9 then
            (((Inventory.scan ⟨({} : Config).exclude, ({} : Config).respectGitignore⟩ "app"
              (.dir [.file "server.js" "app.get('/users/:id', getUser);".toUTF8.toList])).endpoints.filter
              fun e => !([(⟨"/users/42", some "get", 0.0, 4.0⟩ : TraceRecord)].any (·.serves e))).map
                fun e => .make (.endpoint e) .noTraces)
          else []) ∧
        ∀ f ∈ r.orphanedEndpoints, f.reason ≠ .zeroHits :=
  ⟨by decide, by decide, telemetryRun_reports_unserved_endpoints {} _ "7d" "app" _ (by decide) (by decide)⟩

/-! ## Static runs -/

theorem detect_of_threshold_out_of_range {config : Config} {evidence : Evidence}
    {rootName : String} {root : WorkspaceRoot}
    (h : ¬(0.0 ≤ config.confidenceThreshold ∧ config.confidenceThreshold ≤ 1.0)) :
    detect config evidence rootName root =
      .error (.config (.thresholdOutOfRange config.confidenceThreshold)) :=
  detect_of_threshold_error (by simp [checkThreshold, h])

/-- A static run over a directory ends on a threshold outside `[0, 1]`, and otherwise returns the
analysis of its inventory. -/
theorem detect_static_cases (config : Config) (rootName : String) (entries : List Entry) :
    (¬(0.0 ≤ config.confidenceThreshold ∧ config.confidenceThreshold ≤ 1.0) ∧
        detect config .static rootName (.dir entries) =
          .error (.config (.thresholdOutOfRange config.confidenceThreshold))) ∨
      detect config .static rootName (.dir entries) =
        .ok (Evidence.static.analyze config
          (Inventory.scan ⟨config.exclude, config.respectGitignore⟩ rootName (.dir entries))) := by
  by_cases hthr : 0.0 ≤ config.confidenceThreshold ∧ config.confidenceThreshold ≤ 1.0
  · exact .inr (detect_static (checkThreshold_eq_ok hthr))
  · exact .inl ⟨hthr, detect_of_threshold_out_of_range hthr⟩

/-- At a threshold of at most 0.9, a static run reports every scanned endpoint whose handler is
not a word as one whose handler is not found, with confidence 0.9, whatever functions the
workspace declares: every function name is a word. A negative threshold ends the run instead. -/
theorem staticRun_reports_nonword_handlers (config : Config) (rootName : String)
    (entries : List Entry) (hle : config.confidenceThreshold ≤ 0.9) :
    (¬(0.0 ≤ config.confidenceThreshold ∧ config.confidenceThreshold ≤ 1.0) ∧
        detect config .static rootName (.dir entries) =
          .error (.config (.thresholdOutOfRange config.confidenceThreshold))) ∨
      ∃ res, detect config .static rootName (.dir entries) = .ok res ∧
        ∀ e ∈ (Inventory.scan ⟨config.exclude, config.respectGitignore⟩ rootName
          (.dir entries)).endpoints,
        ∀ h, e.handler = some h → Text.isWord h.toList = false →
          ∃ x ∈ res.orphanedEndpoints, x.item = .endpoint e ∧ x.reason = .handlerNotFound ∧
            x.confidence = 0.9 := by
  rcases detect_static_cases config rootName entries with hfail | hok
  · exact .inl hfail
  · refine .inr ⟨_, hok, ?_⟩
    intro e he h hh hw
    refine ⟨.make (.endpoint e) .handlerNotFound, ?_, rfl, rfl, rfl⟩
    rw [analyze_orphanedEndpoints, judge_static, mem_keepConfident]
    refine ⟨StaticEvidence.mem_orphanedEndpoints.2 ⟨e, he, h, hh, .inl ⟨?_, rfl⟩⟩, hle⟩
    -- no function bears the handler's name, since every function name is a word
    rw [StaticEvidence.handlerUsed?_eq_none_iff]
    intro f hf hname
    have hword := Inventory.isWord_name_of_mem_scan hf
    rw [hname, hw] at hword
    cases hword

/-- The default threshold over a workspace with a route to a dotted handler. -/
theorem staticRun_reports_nonword_handlers_default :
    ({} : Config).confidenceThreshold ≤ 0.9 ∧
      ((¬(0.0 ≤ ({} : Config).confidenceThreshold ∧ ({} : Config).confidenceThreshold ≤ 1.0) ∧
          detect {} .static "app" (.dir [.file "routes.js" "app.put('/users/:id', users.update);".toUTF8.toList]) =
            .error (.config (.thresholdOutOfRange ({} : Config).confidenceThreshold))) ∨
        ∃ res, detect {} .static "app" (.dir [.file "routes.js" "app.put('/users/:id', users.update);".toUTF8.toList]) = .ok res ∧
          ∀ e ∈ (Inventory.scan ⟨({} : Config).exclude, ({} : Config).respectGitignore⟩ "app"
            (.dir [.file "routes.js" "app.put('/users/:id', users.update);".toUTF8.toList])).endpoints,
          ∀ h, e.handler = some h → Text.isWord h.toList = false →
            ∃ x ∈ res.orphanedEndpoints, x.item = .endpoint e ∧ x.reason = .handlerNotFound ∧
              x.confidence = 0.9) :=
  ⟨by decide, staticRun_reports_nonword_handlers {} "app" _ (by decide)⟩

end OrphanedCode
