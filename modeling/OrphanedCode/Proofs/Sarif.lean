import OrphanedCode.Report.Sarif
import OrphanedCode.Proofs.JsonRoundTrip
import Mathlib.Data.List.Forall2
/-!
The SARIF log of a run, read as a code-scanning dashboard reads it.

A dashboard looks fields up by name: the one run of the log, the driver's rules with their ids and
default levels, and the results with their rule, level, message, file and lines. Read so, the log
lists one rule per reason, in code order, under the reasons' pairwise distinct codes, and one
result per finding, endpoints first and in order. Each result names its finding's code, which is
the id of exactly one rule, carries that rule's default level, the message `label: message`, the
file relative to the workspace root, and the finding's first and last lines.

The log's indented text reads back as the log when the findings carry their reasons' confidences
and their lines fit 64 bits, so a dashboard that parses the text reads the same rules and results.
-/

namespace OrphanedCode

namespace Json

/-- The value of the field named `key` of an object; none for any other value. -/
def field? (key : String) : Json → Option Json
  | .obj fs => fs.lookup key
  | _ => none

/-- The elements of an array; none for any other value. -/
def items? : Json → Option (List Json)
  | .arr vs => some vs
  | _ => none

/-- The text of a string; none for any other value. -/
def text? : Json → Option String
  | .str s => some s
  | _ => none

/-- The natural number a value is; none for any other value. -/
def count? : Json → Option Nat
  | .nat n => some n
  | _ => none

end Json

/-- Distinct reasons have distinct codes. -/
theorem OrphanReason.code_injective : Function.Injective OrphanReason.code := by
  intro a b h
  cases a <;> cases b <;> simp_all [OrphanReason.code]

theorem OrphanReason.nodup_codes : (OrphanReason.every.map OrphanReason.code).Nodup := by
  decide

namespace Report

/-- What a dashboard reads of a rule: its id and its default level. -/
structure RuleView where
  id : String
  level : String
  deriving DecidableEq

/-- What a dashboard reads of a result: its rule, its level, its message, the file it is in and its
first and last lines. -/
structure ResultView where
  ruleId : String
  level : String
  text : String
  uri : String
  startLine : Nat
  endLine : Nat
  deriving DecidableEq

/-- Reads a rule. -/
def readRule (j : Json) : Option RuleView := do
  let id ← (j.field? "id").bind Json.text?
  let config ← j.field? "defaultConfiguration"
  let level ← (config.field? "level").bind Json.text?
  pure ⟨id, level⟩

/-- Reads a result with exactly one location. -/
def readResult (j : Json) : Option ResultView := do
  let ruleId ← (j.field? "ruleId").bind Json.text?
  let level ← (j.field? "level").bind Json.text?
  let message ← j.field? "message"
  let text ← (message.field? "text").bind Json.text?
  let [location] ← (j.field? "locations").bind Json.items? | none
  let physical ← location.field? "physicalLocation"
  let artifact ← physical.field? "artifactLocation"
  let uri ← (artifact.field? "uri").bind Json.text?
  let region ← physical.field? "region"
  let startLine ← (region.field? "startLine").bind Json.count?
  let endLine ← (region.field? "endLine").bind Json.count?
  pure ⟨ruleId, level, text, uri, startLine, endLine⟩

/-- Reads a log with exactly one run: the rules of its driver and its results. -/
def readLog (j : Json) : Option (List RuleView × List ResultView) := do
  let [run] ← (j.field? "runs").bind Json.items? | none
  let tool ← run.field? "tool"
  let driver ← tool.field? "driver"
  let rules ← (driver.field? "rules").bind Json.items?
  let results ← (run.field? "results").bind Json.items?
  pure (← rules.mapM readRule, ← results.mapM readResult)

/-! ## Rules and results read back -/

theorem readRule_sarifRule (reason : OrphanReason) :
    readRule (sarifRule reason) = some ⟨reason.code, sarifLevel reason.severity⟩ := by
  dsimp only [readRule, sarifRule, Json.field?, List.lookup, Option.bind_eq_bind, Option.bind_some,
    Json.text?, Option.pure_def, String.reduceBEq]

theorem readResult_sarifResult (root : String) (f : OrphanFinding) :
    readResult (sarifResult root f) =
      some ⟨f.reason.code, sarifLevel f.reason.severity, f.item.label ++ ": " ++ f.message,
        relativePath root f.item.file, f.item.startLine, f.item.endLine⟩ := by
  -- every step is a lookup among literal keys or a bind of a present value: all by definition
  dsimp only [readResult, sarifResult, Json.field?, List.lookup, Option.bind_eq_bind,
    Option.bind_some, Json.text?, Json.items?, Json.count?, Option.pure_def, String.reduceBEq,
    OrphanFinding.severity]

theorem readLog_sarif (root : String) (r : AnalysisResult) :
    readLog (sarif root r) =
      some (OrphanReason.every.map fun reason => ⟨reason.code, sarifLevel reason.severity⟩,
        r.findings.map fun f => ⟨f.reason.code, sarifLevel f.reason.severity,
          f.item.label ++ ": " ++ f.message, relativePath root f.item.file, f.item.startLine,
          f.item.endLine⟩) := by
  -- each rule and each result reads back on its own, so the lists read back element by element
  have hmap : ∀ {α β : Type} (f : α → β) (l : List α), l.mapM (fun a => some (f a)) = some (l.map f) :=
    fun _ _ => List.mapM_pure
  dsimp only [readLog, sarif, Json.field?, List.lookup, Option.bind_eq_bind, Option.bind_some,
    Json.items?, String.reduceBEq]
  simp only [List.mapM_map, Function.comp_def, readRule_sarifRule, readResult_sarifResult, hmap,
    Option.bind_some, Option.pure_def]

/-! ## Rules named by codes -/

/-- A reason's code is the id of exactly one rule of the log. -/
theorem countP_rules_code (reason : OrphanReason) :
    (OrphanReason.every.map fun reason' => (⟨reason'.code, sarifLevel reason'.severity⟩ : RuleView)).countP
      (·.id == reason.code) = 1 := by
  cases reason <;> decide

/-- Read by field names, the SARIF log of a run has one run, whose rules are one per reason in
code order with pairwise distinct ids, and whose results are one per finding, endpoints first and
in order. Each result names the code of its finding's reason, which is the id of exactly one rule;
it carries that rule's default level, the message `label: message`, the finding's file relative
to the workspace root, and its first and last lines. -/
theorem sarif_results_name_their_rules (root : String) (r : AnalysisResult) :
    ∃ rules results, readLog (sarif root r) = some (rules, results) ∧
      rules.map RuleView.id = OrphanReason.every.map OrphanReason.code ∧
      (rules.map RuleView.id).Nodup ∧
      List.Forall₂ (fun f res =>
        res.ruleId = f.reason.code ∧
          rules.countP (·.id == res.ruleId) = 1 ∧
          (∀ rule ∈ rules, rule.id = res.ruleId → res.level = rule.level) ∧
          res.text = f.item.label ++ ": " ++ f.message ∧
          res.uri = relativePath root f.item.file ∧
          res.startLine = f.item.startLine ∧ res.endLine = f.item.endLine)
        r.findings results := by
  have hids : (OrphanReason.every.map fun reason =>
      (⟨reason.code, sarifLevel reason.severity⟩ : RuleView)).map RuleView.id =
      OrphanReason.every.map OrphanReason.code := by
    simp [Function.comp_def]
  refine ⟨_, _, readLog_sarif root r, hids, hids ▸ OrphanReason.nodup_codes, ?_⟩
  rw [List.forall₂_map_right_iff, List.forall₂_same]
  intro f _
  refine ⟨rfl, countP_rules_code f.reason, ?_, rfl, rfl, rfl, rfl⟩
  -- the one rule with the finding's code is the rule of the finding's reason
  intro rule hrule hid
  obtain ⟨reason, -, rfl⟩ := List.mem_map.1 hrule
  rw [OrphanReason.code_injective hid]

/-! ## The log as text -/

/-- Each reason's confidence, written `0.9`, `0.7`, `0.6` or `0.8`, reads back as itself. -/
theorem numberReadsBack_confidence (reason : OrphanReason) : Json.NumberReadsBack reason.confidence := by
  have hdigit : ∀ d : UInt8, Json.isDigitByte d = true → ∀ b ∈ [d], Json.isDigitByte b = true :=
    fun d hd b hb => by rw [List.mem_singleton.1 hb]; exact hd
  cases reason
  case handlerNotFound | noTraces =>
    exact Json.numberReadsBack_of_fraction [57] (hdigit 57 rfl) (List.cons_ne_nil _ _) (by decide)
      (by decide +kernel) (by rw [Json.scaleDown]; rfl)
  case handlerUnreferenced =>
    exact Json.numberReadsBack_of_fraction [55] (hdigit 55 rfl) (List.cons_ne_nil _ _) (by decide)
      (by decide +kernel) (by rw [Json.scaleDown]; rfl)
  case minimalReferences =>
    exact Json.numberReadsBack_of_fraction [54] (hdigit 54 rfl) (List.cons_ne_nil _ _) (by decide)
      (by decide +kernel) (by rw [Json.scaleDown]; rfl)
  case zeroHits =>
    exact Json.numberReadsBack_of_fraction [56] (hdigit 56 rfl) (List.cons_ne_nil _ _) (by decide)
      (by decide +kernel) (by rw [Json.scaleDown]; rfl)

theorem readable_sarifRule (reason : OrphanReason) : Json.Readable (sarifRule reason) := by
  simp [sarifRule]

theorem readable_sarifResult (root : String) {f : OrphanFinding}
    (hconf : f.confidence = f.reason.confidence)
    (hlines : f.item.startLine < Nat.pow 2 64 ∧ f.item.endLine < Nat.pow 2 64) :
    Json.Readable (sarifResult root f) := by
  simp [sarifResult, hconf, hlines, numberReadsBack_confidence]

theorem readable_sarif (root : String) {r : AnalysisResult}
    (hconf : ∀ f ∈ r.findings, f.confidence = f.reason.confidence)
    (hlines : ∀ f ∈ r.findings, f.item.startLine < Nat.pow 2 64 ∧ f.item.endLine < Nat.pow 2 64) :
    Json.Readable (sarif root r) := by
  have hresults : ∀ f ∈ r.findings, Json.Readable (sarifResult root f) :=
    fun f hf => readable_sarifResult root (hconf f hf) (hlines f hf)
  simpa [sarif, readable_sarifRule] using hresults

theorem nesting_sarif (root : String) (r : AnalysisResult) : Json.nesting (sarif root r) ≤ 9 := by
  have hrules : Json.nestingItems (OrphanReason.every.map sarifRule) ≤ 2 :=
    Json.nestingItems_le fun v hv => by
      obtain ⟨reason, -, rfl⟩ := List.mem_map.1 hv
      simp [sarifRule, Json.nesting, Json.nestingFields]
  have hresults : Json.nestingItems (r.findings.map (sarifResult root)) ≤ 5 :=
    Json.nestingItems_le fun v hv => by
      obtain ⟨f, -, rfl⟩ := List.mem_map.1 hv
      simp [sarifResult, Json.nesting, Json.nestingFields, Json.nestingItems]
  simp only [sarif, Json.nesting, Json.nestingFields, Json.nestingItems]
  omega

/-- The SARIF text of a run reads back as its log, when its findings carry their reasons'
confidences and their lines fit 64 bits. -/
theorem readDocument_sarifText (root : String) {r : AnalysisResult}
    (hconf : ∀ f ∈ r.findings, f.confidence = f.reason.confidence)
    (hlines : ∀ f ∈ r.findings, f.item.startLine < Nat.pow 2 64 ∧ f.item.endLine < Nat.pow 2 64) :
    Json.readDocument (sarifText root r) = .ok (sarif root r) :=
  Json.readDocument_pretty (readable_sarif root hconf hlines)
    (Nat.lt_of_le_of_lt (nesting_sarif root r) (by decide))

/-- A dashboard that parses the SARIF text of a run reads from it one rule per reason and one
result per finding, as from the log itself. -/
theorem readLog_sarifText (root : String) {r : AnalysisResult}
    (hconf : ∀ f ∈ r.findings, f.confidence = f.reason.confidence)
    (hlines : ∀ f ∈ r.findings, f.item.startLine < Nat.pow 2 64 ∧ f.item.endLine < Nat.pow 2 64) :
    (Json.readDocument (sarifText root r)).toOption.bind readLog =
      some (OrphanReason.every.map fun reason => ⟨reason.code, sarifLevel reason.severity⟩,
        r.findings.map fun f => ⟨f.reason.code, sarifLevel f.reason.severity,
          f.item.label ++ ": " ++ f.message, relativePath root f.item.file, f.item.startLine,
          f.item.endLine⟩) := by
  rw [readDocument_sarifText root hconf hlines]
  exact readLog_sarif root r

end Report

end OrphanedCode
