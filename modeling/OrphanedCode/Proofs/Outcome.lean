import OrphanedCode.Proofs.Run
import OrphanedCode.Proofs.Binary64Order
/-!
What a finished run reports, and what its threshold does to it.

A finding is as its reason makes it: the reason's confidence and message, and the usage of its
route exactly when the route was seen without hits. Each kind of evidence reports declarations of
the scan in the scan's order, none twice, with reasons of its own. A run past its threshold check
is its judgement followed by the threshold, so a run that returns a result is consistent with the
inventory it scanned, and the threshold only filters: raising it within `[0, 1]` keeps, in order,
exactly the findings that reach the higher value and changes nothing else but the count of
findings and the threshold itself.
-/

namespace OrphanedCode

/-! ## Findings as their reasons make them -/

namespace OrphanFinding

/-- A finding as its reason makes it: the reason's confidence and message, and the usage of its
route exactly when the reason is `zero hits`. -/
structure Fixed (f : OrphanFinding) : Prop where
  confidence : f.confidence = f.reason.confidence
  message : f.message = f.reason.message
  usageCount : f.usageCount.isSome = true ↔ f.reason = .zeroHits
  lastAccessed : f.lastAccessed.isSome = true ↔ f.reason = .zeroHits

theorem make_fixed {item : CodeItem} {reason : OrphanReason} (h : reason ≠ .zeroHits) :
    (make item reason).Fixed :=
  ⟨rfl, rfl, by simp [make, h], by simp [make, h]⟩

theorem withUsage_make_fixed {item : CodeItem} {u : TelemetryUsage} :
    ((make item .zeroHits).withUsage u).Fixed :=
  ⟨rfl, rfl, by simp [make, withUsage], by simp [make, withUsage]⟩

end OrphanFinding

/-! ## What each evidence reports -/

theorem map_filterMap_sublist {α β γ : Type} {f : α → Option β} {h : β → γ} {g : α → γ}
    (hfg : ∀ a b, f a = some b → h b = g a) (l : List α) :
    ((l.filterMap f).map h).Sublist (l.map g) := by
  induction l with
  | nil => simp
  | cons a l ih =>
    rw [List.filterMap_cons]
    cases hfa : f a with
    | none => exact ih.cons (g a)
    | some b =>
      rw [List.map_cons, List.map_cons, hfg a b hfa]
      exact ih.cons_cons (g a)

namespace StaticEvidence

variable {endpoints : List CodeEndpoint} {functions : List CodeFunction}

theorem fixed_of_mem_orphanedEndpoints {x : OrphanFinding}
    (hx : x ∈ orphanedEndpoints endpoints functions) :
    x.Fixed ∧ (x.reason = .handlerNotFound ∨ x.reason = .handlerUnreferenced) := by
  obtain ⟨e, -, h, -, (⟨-, rfl⟩ | ⟨-, rfl⟩)⟩ := mem_orphanedEndpoints.1 hx
  · exact ⟨OrphanFinding.make_fixed (by decide), .inl rfl⟩
  · exact ⟨OrphanFinding.make_fixed (by decide), .inr rfl⟩

theorem items_orphanedEndpoints_sublist :
    ((orphanedEndpoints endpoints functions).map (·.item)).Sublist
      (endpoints.map .endpoint) := by
  refine map_filterMap_sublist (fun e x hx => ?_) endpoints
  split at hx
  · cases hx
  · split at hx <;> cases hx <;> rfl

theorem fixed_of_mem_orphanedFunctions {x : OrphanFinding}
    (hx : x ∈ orphanedFunctions functions endpoints) :
    x.Fixed ∧ x.reason = .minimalReferences := by
  obtain ⟨f, -, rfl⟩ := List.mem_map.1 hx
  exact ⟨OrphanFinding.make_fixed (by decide), rfl⟩

theorem items_orphanedFunctions_sublist :
    ((orphanedFunctions functions endpoints).map (·.item)).Sublist
      (functions.map .function) := by
  rw [orphanedFunctions, List.map_map]
  exact List.filter_sublist.map _

end StaticEvidence

namespace TelemetryEvidence

variable {usage : List TelemetryUsage} {endpoints : List CodeEndpoint}

theorem fixed_of_mem_orphanedEndpoints {x : OrphanFinding}
    (hx : x ∈ orphanedEndpoints usage endpoints) :
    x.Fixed ∧ (x.reason = .noTraces ∨ x.reason = .zeroHits) := by
  obtain ⟨e, -, hx⟩ := List.mem_filterMap.1 hx
  split at hx
  · cases hx
    exact ⟨OrphanFinding.make_fixed (by decide), .inl rfl⟩
  · split at hx
    · cases hx
      exact ⟨OrphanFinding.withUsage_make_fixed, .inr rfl⟩
    · cases hx

theorem items_orphanedEndpoints_sublist :
    ((orphanedEndpoints usage endpoints).map (·.item)).Sublist (endpoints.map .endpoint) := by
  refine map_filterMap_sublist (fun e x hx => ?_) endpoints
  split at hx
  · cases hx; rfl
  · split at hx
    · cases hx; rfl
    · cases hx

end TelemetryEvidence

/-! ## A run judges, then filters -/

section OfJudged

variable (config : Config) (mode : AnalysisMode) (inv : Inventory)
  (endpoints functions : List OrphanFinding) (active : List TelemetryUsage)

@[simp] theorem ofJudged_orphanedEndpoints :
    (AnalysisResult.ofJudged config mode inv (endpoints, functions, active)).orphanedEndpoints =
      keepConfident config.confidenceThreshold endpoints := rfl

@[simp] theorem ofJudged_orphanedFunctions :
    (AnalysisResult.ofJudged config mode inv (endpoints, functions, active)).orphanedFunctions =
      keepConfident config.confidenceThreshold functions := rfl

@[simp] theorem ofJudged_activeEndpoints :
    (AnalysisResult.ofJudged config mode inv (endpoints, functions, active)).activeEndpoints =
      active := rfl

@[simp] theorem ofJudged_summary :
    (AnalysisResult.ofJudged config mode inv (endpoints, functions, active)).summary =
      { totalEndpoints := inv.endpoints.length, totalFunctions := inv.functions.length,
        orphanedCount := (keepConfident config.confidenceThreshold endpoints).length +
          (keepConfident config.confidenceThreshold functions).length,
        confidenceThreshold := config.confidenceThreshold, analysisMode := mode } := rfl

end OfJudged

/-- What a run with a gateway without effects finds before its threshold: the error that ends it,
or the judged findings of the scanned inventory with the active usage. -/
def RunMode.judged (mode : RunMode Id) (opts : Workspace.WalkOptions) (rootName : String)
    (root : WorkspaceRoot) :
    Except RunError (List OrphanFinding × List OrphanFinding × List TelemetryUsage) :=
  if root.isDir = false then .error (.missingRoot rootName)
  else
    match mode with
    | .pr => .ok (Evidence.static.judge (Inventory.scan opts rootName root))
    | .full gateway service text =>
      match TimeRange.parse? text with
      | none => .error (.telemetry (.invalidTimeRange text))
      | some window =>
        match gateway.fetchTraces service window with
        | .error e => .error (.telemetry e)
        | .ok traces => .ok (judgeByUsage (aggregateUsage traces) (Inventory.scan opts rootName root))

/-- Past its threshold check, a run is its judgement followed by the threshold: the threshold
decides nothing but which findings are kept and what the figures say of it. -/
theorem analyzeRun_eq_judged {config : Config} {mode : RunMode Id} {rootName : String}
    {root : WorkspaceRoot} (hthr : checkThreshold config.confidenceThreshold = .ok ()) :
    (analyzeRun config mode rootName root).run =
      (mode.judged ⟨config.exclude, config.respectGitignore⟩ rootName root).map
        (.ofJudged config mode.analysisMode
          (Inventory.scan ⟨config.exclude, config.respectGitignore⟩ rootName root)) := by
  unfold RunMode.judged
  cases hroot : root.isDir with
  | false => exact analyzeRun_of_not_dir hthr hroot
  | true =>
    rw [if_neg nofun]
    cases mode with
    | pr => exact analyzeRun_pr hthr hroot
    | full gateway service text =>
      dsimp only
      cases hrange : TimeRange.parse? text with
      | none => exact analyzeRun_full_of_invalid hthr hroot hrange
      | some window =>
        rw [analyzeRun_full hthr hroot hrange]
        dsimp only
        cases gateway.fetchTraces service window <;> rfl

/-- A judgement is that of static evidence in a pull-request run, and that of some usage in a full
run. -/
theorem RunMode.judged_eq_ok {mode : RunMode Id} {opts : Workspace.WalkOptions} {rootName : String}
    {root : WorkspaceRoot} {judged : List OrphanFinding × List OrphanFinding × List TelemetryUsage}
    (h : mode.judged opts rootName root = .ok judged) :
    (mode = .pr ∧ judged = Evidence.static.judge (Inventory.scan opts rootName root)) ∨
      ∃ usage, mode.analysisMode = .full ∧
        judged = judgeByUsage usage (Inventory.scan opts rootName root) := by
  unfold RunMode.judged at h
  split at h
  · cases h
  · split at h
    · cases h
      exact .inl ⟨rfl, rfl⟩
    · split at h
      · cases h
      · split at h
        · cases h
        · cases h
          exact .inr ⟨_, rfl, rfl⟩

/-! ## What a finished run reports -/

/-- What the result of a run owes to its settings, its mode of analysis and the inventory it
scanned. -/
structure AnalysisResult.Consistent (r : AnalysisResult) (config : Config) (mode : AnalysisMode)
    (inv : Inventory) : Prop where
  count : r.summary.orphanedCount = r.orphanedEndpoints.length + r.orphanedFunctions.length
  totalEndpoints : r.summary.totalEndpoints = inv.endpoints.length
  totalFunctions : r.summary.totalFunctions = inv.functions.length
  threshold : r.summary.confidenceThreshold = config.confidenceThreshold
  analysisMode : r.summary.analysisMode = mode
  /-- Every finding is as its reason makes it and reaches the threshold. -/
  findings : ∀ f ∈ r.findings, f.Fixed ∧ config.confidenceThreshold ≤ f.confidence
  /-- The endpoints reported are scanned ones, in the scan's order, none twice. -/
  endpoints : (r.orphanedEndpoints.map (·.item)).Sublist (inv.endpoints.map .endpoint)
  /-- The functions reported are scanned ones, in the scan's order, none twice. -/
  functions : (r.orphanedFunctions.map (·.item)).Sublist (inv.functions.map .function)
  pr : mode = .pr →
    (∀ f ∈ r.orphanedEndpoints, f.reason = .handlerNotFound ∨ f.reason = .handlerUnreferenced) ∧
      (∀ f ∈ r.orphanedFunctions, f.reason = .minimalReferences) ∧ r.activeEndpoints = []
  full : mode = .full →
    (∀ f ∈ r.orphanedEndpoints, f.reason = .noTraces ∨ f.reason = .zeroHits) ∧
      r.orphanedFunctions = []

theorem keepConfident_items_sublist (threshold : Float) (fs : List OrphanFinding) :
    ((keepConfident threshold fs).map (·.item)).Sublist (fs.map (·.item)) :=
  List.filter_sublist.map _

/-- The result of judged findings is consistent with its inventory when the findings are as their
reasons make them, for declarations of the inventory in its order, with the reasons of the mode. -/
theorem ofJudged_consistent {config : Config} {mode : AnalysisMode} {inv : Inventory}
    {endpoints functions : List OrphanFinding} {active : List TelemetryUsage}
    (hfixed : ∀ f ∈ endpoints ++ functions, f.Fixed)
    (hendpoints : (endpoints.map (·.item)).Sublist (inv.endpoints.map .endpoint))
    (hfunctions : (functions.map (·.item)).Sublist (inv.functions.map .function))
    (hpr : mode = .pr →
      (∀ f ∈ endpoints, f.reason = .handlerNotFound ∨ f.reason = .handlerUnreferenced) ∧
        (∀ f ∈ functions, f.reason = .minimalReferences) ∧ active = [])
    (hfull : mode = .full →
      (∀ f ∈ endpoints, f.reason = .noTraces ∨ f.reason = .zeroHits) ∧ functions = []) :
    (AnalysisResult.ofJudged config mode inv (endpoints, functions, active)).Consistent
      config mode inv where
  count := rfl
  totalEndpoints := rfl
  totalFunctions := rfl
  threshold := rfl
  analysisMode := rfl
  findings := by
    intro f hf
    simp only [AnalysisResult.findings, ofJudged_orphanedEndpoints, ofJudged_orphanedFunctions,
      List.mem_append, mem_keepConfident] at hf
    rcases hf with ⟨hf, hle⟩ | ⟨hf, hle⟩
    · exact ⟨hfixed f (List.mem_append_left _ hf), hle⟩
    · exact ⟨hfixed f (List.mem_append_right _ hf), hle⟩
  endpoints := (keepConfident_items_sublist _ endpoints).trans hendpoints
  functions := (keepConfident_items_sublist _ functions).trans hfunctions
  pr := by
    intro hmode
    obtain ⟨hends, hfuns, hactive⟩ := hpr hmode
    exact ⟨fun f hf => hends f (mem_keepConfident.1 hf).1,
      fun f hf => hfuns f (mem_keepConfident.1 hf).1, hactive⟩
  full := by
    intro hmode
    obtain ⟨hends, hfuns⟩ := hfull hmode
    refine ⟨fun f hf => hends f (mem_keepConfident.1 hf).1, ?_⟩
    rw [ofJudged_orphanedFunctions, hfuns]
    rfl

/-- The static evidence of an inventory, past the threshold, is a consistent pull-request
result. -/
theorem ofJudged_static_consistent (config : Config) (inv : Inventory) :
    (AnalysisResult.ofJudged config .pr inv (Evidence.static.judge inv)).Consistent
      config .pr inv := by
  refine ofJudged_consistent (fun f hf => ?_) StaticEvidence.items_orphanedEndpoints_sublist
    StaticEvidence.items_orphanedFunctions_sublist
    (fun _ => ⟨fun f hf => (StaticEvidence.fixed_of_mem_orphanedEndpoints hf).2,
      fun f hf => (StaticEvidence.fixed_of_mem_orphanedFunctions hf).2, rfl⟩) nofun
  rcases List.mem_append.1 hf with hf | hf
  · exact (StaticEvidence.fixed_of_mem_orphanedEndpoints hf).1
  · exact (StaticEvidence.fixed_of_mem_orphanedFunctions hf).1

/-- The judgement of an inventory by any usage, past the threshold, is a consistent full
result. -/
theorem ofJudged_usage_consistent (config : Config) (usage : List TelemetryUsage)
    (inv : Inventory) :
    (AnalysisResult.ofJudged config .full inv (judgeByUsage usage inv)).Consistent
      config .full inv := by
  refine ofJudged_consistent (fun f hf => ?_) TelemetryEvidence.items_orphanedEndpoints_sublist
    (by simp) nofun
    (fun _ => ⟨fun f hf => (TelemetryEvidence.fixed_of_mem_orphanedEndpoints hf).2, rfl⟩)
  rw [List.append_nil] at hf
  exact (TelemetryEvidence.fixed_of_mem_orphanedEndpoints hf).1

/-- Whatever the settings, root and mode, a run that returns a result is consistent with the
inventory it scanned: its figures count the scan and the findings and repeat the threshold and the
mode; every finding carries its reason's confidence and message, reaches the threshold, and
carries usage exactly when its route was seen without hits; the findings are for scanned
declarations in the scan's order, none twice; a pull-request run reports handlers and barely used
functions and no usage, a full run endpoints without traces or hits and no function. -/
theorem analyzeRun_result_consistent (config : Config) (mode : RunMode Id) (rootName : String)
    (root : WorkspaceRoot) (r : AnalysisResult)
    (hok : (analyzeRun config mode rootName root).run = .ok r) :
    r.Consistent config mode.analysisMode
      (Inventory.scan ⟨config.exclude, config.respectGitignore⟩ rootName root) := by
  -- a threshold outside `[0, 1]` would have ended the run
  have hthr : checkThreshold config.confidenceThreshold = .ok () := by
    cases h : checkThreshold config.confidenceThreshold with
    | error e =>
      rw [analyzeRun_of_threshold_error h] at hok
      cases hok
    | ok u => rfl
  rw [analyzeRun_eq_judged hthr] at hok
  cases hjudged : mode.judged ⟨config.exclude, config.respectGitignore⟩ rootName root with
  | error e =>
    rw [hjudged] at hok
    cases hok
  | ok judged =>
    rw [hjudged] at hok
    cases hok
    rcases RunMode.judged_eq_ok hjudged with ⟨rfl, rfl⟩ | ⟨usage, hmode, rfl⟩
    · exact ofJudged_static_consistent config _
    · rw [hmode]
      exact ofJudged_usage_consistent config usage _

theorem analyzeRun_result_consistent_route :
    ∃ r, (analyzeRun (m := Id) {} .pr "app"
        (.dir [.file "server.js" "app.get('/users/:id', getUser);".toUTF8.toList])).run = .ok r ∧
      r.Consistent {} (RunMode.pr : RunMode Id).analysisMode (Inventory.scan ⟨[], false⟩ "app"
        (.dir [.file "server.js" "app.get('/users/:id', getUser);".toUTF8.toList])) :=
  ⟨_, rfl, analyzeRun_result_consistent {} .pr "app" _ _ rfl⟩

/-! ## Raising the threshold -/

/-- A higher threshold keeps, in order, the findings of a lower one that reach it. -/
theorem keepConfident_raise {t1 t2 : Float} (h12 : t1 ≤ t2) (fs : List OrphanFinding) :
    keepConfident t2 fs = (keepConfident t1 fs).filter fun f => t2 ≤ f.confidence := by
  unfold keepConfident
  rw [List.filter_filter]
  refine List.filter_congr fun f _ => ?_
  by_cases h : t2 ≤ f.confidence
  · simp [h, Binary64.float_le_trans h12 h]
  · simp [h]

/-- Two runs that differ only in their thresholds `t1 ≤ t2` within `[0, 1]`, with a gateway that
answers both alike, fail alike or both return a result; the findings at `t2` are then exactly the
findings at `t1` that reach `t2`, in the same order, and the active usage and the figures of the
scan and the mode are the same. -/
theorem analyzeRun_raised_threshold_filters (config : Config) (mode : RunMode Id)
    (rootName : String) (root : WorkspaceRoot) (t1 t2 : Float) (h0 : 0.0 ≤ t1) (h12 : t1 ≤ t2)
    (h1 : t2 ≤ 1.0) :
    (∃ e, (analyzeRun { config with confidenceThreshold := t1 } mode rootName root).run = .error e ∧
        (analyzeRun { config with confidenceThreshold := t2 } mode rootName root).run = .error e) ∨
      ∃ r1 r2, (analyzeRun { config with confidenceThreshold := t1 } mode rootName root).run = .ok r1 ∧
        (analyzeRun { config with confidenceThreshold := t2 } mode rootName root).run = .ok r2 ∧
        r2.orphanedEndpoints = r1.orphanedEndpoints.filter (fun f => t2 ≤ f.confidence) ∧
        r2.orphanedFunctions = r1.orphanedFunctions.filter (fun f => t2 ≤ f.confidence) ∧
        r2.activeEndpoints = r1.activeEndpoints ∧
        r2.summary.totalEndpoints = r1.summary.totalEndpoints ∧
        r2.summary.totalFunctions = r1.summary.totalFunctions ∧
        r2.summary.analysisMode = r1.summary.analysisMode := by
  have hthr1 : checkThreshold t1 = .ok () :=
    checkThreshold_eq_ok ⟨h0, Binary64.float_le_trans h12 h1⟩
  have hthr2 : checkThreshold t2 = .ok () :=
    checkThreshold_eq_ok ⟨Binary64.float_le_trans h0 h12, h1⟩
  rw [@analyzeRun_eq_judged { config with confidenceThreshold := t1 } mode rootName root hthr1,
    @analyzeRun_eq_judged { config with confidenceThreshold := t2 } mode rootName root hthr2]
  -- the two settings scan alike: only their thresholds differ
  dsimp only
  -- both runs judge alike; the thresholds only filter
  cases mode.judged ⟨config.exclude, config.respectGitignore⟩ rootName root with
  | error e => exact .inl ⟨e, rfl, rfl⟩
  | ok judged =>
    obtain ⟨endpoints, functions, active⟩ := judged
    refine .inr ⟨_, _, rfl, rfl, ?_⟩
    simp only [ofJudged_orphanedEndpoints, ofJudged_orphanedFunctions, ofJudged_activeEndpoints,
      ofJudged_summary, and_true]
    exact ⟨keepConfident_raise h12 endpoints, keepConfident_raise h12 functions⟩

/-- Thresholds `0.65` and `0.8` over a workspace with a finding on each side of both: a handler
that no function declares (`0.9`), a handler declared in another file and used nowhere (`0.7`),
and a private function used nowhere (`0.6`). -/
theorem analyzeRun_raised_threshold_filters_mixed :
    let root : WorkspaceRoot := .dir
      [.file "a.js" "app.get('/gone', missing);\napp.get('/idle', idle);".toUTF8.toList,
       .file "b.js" "function idle() {}\nfunction helper() {}".toUTF8.toList]
    (0.0 : Float) ≤ 0.65 ∧ (0.65 : Float) ≤ 0.8 ∧ (0.8 : Float) ≤ 1.0 ∧
      ((∃ e, (analyzeRun { ({} : Config) with confidenceThreshold := 0.65 } (.pr : RunMode Id) "app"
            root).run = .error e ∧
          (analyzeRun { ({} : Config) with confidenceThreshold := 0.8 } (.pr : RunMode Id) "app"
            root).run = .error e) ∨
        ∃ r1 r2, (analyzeRun { ({} : Config) with confidenceThreshold := 0.65 } (.pr : RunMode Id)
            "app" root).run = .ok r1 ∧
          (analyzeRun { ({} : Config) with confidenceThreshold := 0.8 } (.pr : RunMode Id) "app"
            root).run = .ok r2 ∧
          r2.orphanedEndpoints = r1.orphanedEndpoints.filter (fun f => 0.8 ≤ f.confidence) ∧
          r2.orphanedFunctions = r1.orphanedFunctions.filter (fun f => 0.8 ≤ f.confidence) ∧
          r2.activeEndpoints = r1.activeEndpoints ∧
          r2.summary.totalEndpoints = r1.summary.totalEndpoints ∧
          r2.summary.totalFunctions = r1.summary.totalFunctions ∧
          r2.summary.analysisMode = r1.summary.analysisMode) :=
  ⟨by decide, by decide, by decide,
    analyzeRun_raised_threshold_filters {} .pr "app" _ 0.65 0.8 (by decide) (by decide)
      (by decide)⟩

end OrphanedCode
