import OrphanedCode.Proofs.Run
import OrphanedCode.Proofs.Text
import OrphanedCode.Proofs.Binary64Order
/-!
Validation of the settings of a run.

Validation is a case analysis in a fixed order that stops at the first failure: a threshold outside
`[0, 1]` is refused first, not-a-number included since it compares with nothing; then, in a full
run only, the credentials that are absent or made of blanks, all named at once and always in the
order api key, application key, service name; then, in a full run only, a time range that does not
read. A pull-request run looks at no telemetry setting at all.
-/

namespace OrphanedCode

/-- Not-a-number lies outside `[0, 1]`: it is above nothing, zero included. -/
theorem Binary64.not_zero_le_of_isNaN {t : Float} (h : t.isNaN = true) : ¬0.0 ≤ t := by
  rw [Binary64.le_iff_unpack, Binary64.le_iff_orderKey]
  rintro ⟨_, _, -, hkey, -⟩
  have hnan : t.toModel.unpack = .notANumber := by
    simp only [Float.isNaN, Float.Model.isNaN] at h
    cases hu : t.toModel.unpack <;> simp_all [Float.Model.UnpackedFloat.isNaN]
  rw [hnan] at hkey
  cases hkey

/-- A setting that is absent, or present with `White_Space` characters only. -/
def BlankSetting (v : Option String) : Prop :=
  ∀ s ∈ v, ∀ c ∈ s.toList, c.toNat ∈ Text.blankCodePoints

theorem isUnset_iff (v : Option String) : isUnset v = true ↔ BlankSetting v := by
  cases v <;> simp [isUnset, BlankSetting, Text.isBlankText, List.all_eq_true, Text.isBlank_iff]

namespace TelemetrySettings

variable (t : TelemetrySettings)

/-- The lacking credentials are named in the fixed order of the three. -/
theorem missing_sublist : t.missing.Sublist ["api key", "application key", "service name"] := by
  unfold missing
  split <;> split <;> split <;> simp

/-- A credential is named as lacking exactly when its setting is absent or blank. -/
theorem mem_missing :
    ("api key" ∈ t.missing ↔ BlankSetting t.apiKey) ∧
    ("application key" ∈ t.missing ↔ BlankSetting t.appKey) ∧
    ("service name" ∈ t.missing ↔ BlankSetting t.serviceName) := by
  simp only [← isUnset_iff, missing]
  split <;> split <;> split <;> simp_all

end TelemetrySettings

namespace Config

variable {c : Config}

/-! ## One lemma per outcome -/

theorem validate_of_threshold_out (h : ¬(0.0 ≤ c.confidenceThreshold ∧ c.confidenceThreshold ≤ 1.0)) :
    c.validate = .error (.thresholdOutOfRange c.confidenceThreshold) := by
  simp [validate, checkThreshold_eq_error h, bind, Except.bind]

theorem validate_of_pr (h : 0.0 ≤ c.confidenceThreshold ∧ c.confidenceThreshold ≤ 1.0)
    (hmode : c.mode = .pr) : c.validate = .ok () := by
  simp [validate, checkThreshold_eq_ok h, hmode]

theorem validate_of_missing (h : 0.0 ≤ c.confidenceThreshold ∧ c.confidenceThreshold ≤ 1.0)
    (hmode : c.mode = .full) (hmissing : c.telemetry.missing ≠ []) :
    c.validate = .error (.missingTelemetry c.telemetry.missing) := by
  simp [validate, checkThreshold_eq_ok h, hmode, hmissing, bind, Except.bind, throw, throwThe,
    MonadExceptOf.throw]

theorem validate_of_time_range (h : 0.0 ≤ c.confidenceThreshold ∧ c.confidenceThreshold ≤ 1.0)
    (hmode : c.mode = .full) (hmissing : c.telemetry.missing = []) :
    c.validate = match TimeRange.parse? c.telemetry.timeRange with
      | some _ => .ok ()
      | none => .error (.invalidTimeRange c.telemetry.timeRange) := by
  simp only [validate, checkThreshold_eq_ok h, hmode, hmissing]
  cases TimeRange.parse? c.telemetry.timeRange <;> rfl

/-- Validation passes exactly when the threshold lies in `[0, 1]` and, in a full run, no credential
lacks and the time range reads. -/
theorem validate_eq_ok_iff :
    c.validate = .ok () ↔ (0.0 ≤ c.confidenceThreshold ∧ c.confidenceThreshold ≤ 1.0) ∧
      (c.mode = .full → c.telemetry.missing = [] ∧ (TimeRange.parse? c.telemetry.timeRange).isSome) := by
  by_cases h : 0.0 ≤ c.confidenceThreshold ∧ c.confidenceThreshold ≤ 1.0
  · cases hmode : c.mode with
    | pr => simp [validate_of_pr h hmode, h]
    | full =>
      by_cases hmissing : c.telemetry.missing = []
      · rw [validate_of_time_range h hmode hmissing]
        cases TimeRange.parse? c.telemetry.timeRange <;> simp [h, hmissing]
      · simp [validate_of_missing h hmode hmissing, hmissing]
  · simp [validate_of_threshold_out h, h]

/-- A pull-request run is validated without its telemetry settings. -/
theorem validate_telemetry_of_pr (hmode : c.mode = .pr) (tel : TelemetrySettings) :
    { c with telemetry := tel }.validate = c.validate := by
  simp [validate, hmode]

/-- Validation checks the threshold, then in a full run the credentials, then in a full run the
time range, and reports the first that fails: a threshold outside `[0, 1]`, not-a-number included,
and nothing else is refused as such; the credentials that are absent or made of `White_Space` are
named all at once, in the fixed order of the three; a time range that does not read is refused with
its text; otherwise the settings pass; and a pull-request run never looks at the telemetry
settings. -/
theorem validate_reports_first_failure (c : Config) :
    (c.validate = .error (.thresholdOutOfRange c.confidenceThreshold) ↔
      ¬(0.0 ≤ c.confidenceThreshold ∧ c.confidenceThreshold ≤ 1.0)) ∧
    (c.confidenceThreshold.isNaN = true →
      c.validate = .error (.thresholdOutOfRange c.confidenceThreshold)) ∧
    (c.telemetry.missing.Sublist ["api key", "application key", "service name"] ∧
      ("api key" ∈ c.telemetry.missing ↔ BlankSetting c.telemetry.apiKey) ∧
      ("application key" ∈ c.telemetry.missing ↔ BlankSetting c.telemetry.appKey) ∧
      ("service name" ∈ c.telemetry.missing ↔ BlankSetting c.telemetry.serviceName)) ∧
    ((0.0 ≤ c.confidenceThreshold ∧ c.confidenceThreshold ≤ 1.0) → c.mode = .full →
      c.telemetry.missing ≠ [] → c.validate = .error (.missingTelemetry c.telemetry.missing)) ∧
    ((0.0 ≤ c.confidenceThreshold ∧ c.confidenceThreshold ≤ 1.0) → c.mode = .full →
      c.telemetry.missing = [] → TimeRange.parse? c.telemetry.timeRange = none →
      c.validate = .error (.invalidTimeRange c.telemetry.timeRange)) ∧
    (c.validate = .ok () ↔ (0.0 ≤ c.confidenceThreshold ∧ c.confidenceThreshold ≤ 1.0) ∧
      (c.mode = .full → c.telemetry.missing = [] ∧ (TimeRange.parse? c.telemetry.timeRange).isSome)) ∧
    (c.mode = .pr → ∀ tel : TelemetrySettings, { c with telemetry := tel }.validate = c.validate) := by
  refine ⟨⟨fun hval hin => ?_, validate_of_threshold_out⟩,
    fun hnan => validate_of_threshold_out fun hin => Binary64.not_zero_le_of_isNaN hnan hin.1,
    ⟨c.telemetry.missing_sublist, c.telemetry.mem_missing⟩, validate_of_missing,
    fun h hmode hmissing hrange => by rw [validate_of_time_range h hmode hmissing, hrange],
    validate_eq_ok_iff, validate_telemetry_of_pr⟩
  -- within range, validation passes or fails on telemetry, never on the threshold
  cases hmode : c.mode with
  | pr => rw [validate_of_pr hin hmode] at hval; cases hval
  | full =>
    by_cases hmissing : c.telemetry.missing = []
    · rw [validate_of_time_range hin hmode hmissing] at hval
      split at hval <;> cases hval
    · rw [validate_of_missing hin hmode hmissing] at hval
      cases hval

end Config

end OrphanedCode
