import OrphanedCode.Proofs.Index
import OrphanedCode.Proofs.Usage
import OrphanedCode.Proofs.Route
/-!
How the two kinds of evidence judge endpoints.

Telemetry, once the traces are aggregated, reduces to the traces themselves: an endpoint meets a
usage record exactly when some trace was a request to its route, and since no record has zero
hits, the endpoints reported are exactly the ones no trace served, each for `no traces`. Static
evidence reports an endpoint only through its handler: not found when no function bears the name,
unreferenced when every function of that name is unused; a handler that some used function bears
keeps every endpoint naming it out of the report. The confidence filter keeps the findings that
reach the threshold, in order.
-/

namespace OrphanedCode

/-! ## The confidence filter -/

theorem mem_keepConfident {threshold : Float} {fs : List OrphanFinding} {f : OrphanFinding} :
    f ∈ keepConfident threshold fs ↔ f ∈ fs ∧ threshold ≤ f.confidence := by
  simp [keepConfident]

/-- Findings of one confidence are kept all together or not at all. -/
theorem keepConfident_of_confidence {threshold c : Float} {fs : List OrphanFinding}
    (hc : ∀ f ∈ fs, f.confidence = c) :
    keepConfident threshold fs = if threshold ≤ c then fs else [] := by
  unfold keepConfident
  split
  · rename_i h
    exact List.filter_eq_self.2 fun f hf => by simpa [hc f hf] using h
  · rename_i h
    exact List.filter_eq_nil_iff.2 fun f hf => by simpa [hc f hf] using h

/-! ## Telemetry evidence over aggregated traces -/

/-- Whether a trace was a request to the route an endpoint declares: the trace names a resource,
its method key is the endpoint's method, and its resource has the canonical key of the route. -/
def TraceRecord.serves (t : TraceRecord) (e : CodeEndpoint) : Bool :=
  !t.resource.isEmpty && t.methodKey == e.method.name &&
    Route.canonical t.resource == Route.canonical e.route

theorem serves_iff (t : TraceRecord) (e : CodeEndpoint) :
    t.serves e = true ↔ t.resource ≠ "" ∧ t.methodKey = e.method.name ∧
      Route.canonical t.resource = Route.canonical e.route := by
  simp [TraceRecord.serves, and_assoc]

namespace TelemetryEvidence

/-- An endpoint meets a usage record of aggregated traces exactly when a trace served it. -/
theorem usageOf?_aggregateUsage_eq_none (traces : List TraceRecord) (e : CodeEndpoint) :
    usageOf? (aggregateUsage traces) e = none ↔ traces.any (·.serves e) = false := by
  rw [usageOf?_eq_find?, List.find?_eq_none, ← Bool.not_eq_true, List.any_eq_true]
  constructor
  · rintro hnone ⟨t, ht, hs⟩
    obtain ⟨hr, hm, hc⟩ := (serves_iff t e).1 hs
    obtain ⟨u, hu, he, hm'⟩ := (exists_usage_iff traces _ _).2 ⟨t, ht, hr, rfl, rfl⟩
    apply hnone u hu
    rw [he, hm', Route.canonical_normalizeResource, hm, hc]
    simp
  · rintro hnone u hu hmatch
    simp only [Bool.and_eq_true, beq_iff_eq] at hmatch
    obtain ⟨t, ht, hr, he, hm⟩ := (exists_usage_iff traces u.endpoint u.method).1 ⟨u, hu, rfl, rfl⟩
    refine hnone ⟨t, ht, (serves_iff t e).2 ⟨hr, hm.trans hmatch.1, ?_⟩⟩
    rw [← Route.canonical_normalizeResource, he, hmatch.2]

/-- Against aggregated traces, the endpoints reported are those no trace served, in order, each
for `no traces`: a usage record, having hits, never reports its endpoint. -/
theorem orphanedEndpoints_aggregateUsage (traces : List TraceRecord) (endpoints : List CodeEndpoint) :
    orphanedEndpoints (aggregateUsage traces) endpoints =
      (endpoints.filter fun e => !traces.any (·.serves e)).map
        fun e => .make (.endpoint e) .noTraces := by
  induction endpoints with
  | nil => rfl
  | cons e es ih =>
    rw [orphanedEndpoints, List.filterMap_cons, ← orphanedEndpoints, ih, List.filter_cons]
    cases hu : usageOf? (aggregateUsage traces) e with
    | none =>
      have hany := (usageOf?_aggregateUsage_eq_none traces e).1 hu
      simp [hany]
    | some u =>
      have hany : traces.any (·.serves e) = true := by
        rw [← Bool.not_eq_false, ← usageOf?_aggregateUsage_eq_none, hu]
        simp
      have hpos := hitCount_pos (List.mem_of_find?_eq_some ((usageOf?_eq_find? _ e).symm.trans hu))
      have hne : (u.hitCount == 0) = false := by simpa using Nat.pos_iff_ne_zero.1 hpos
      simp [hany, hne]

end TelemetryEvidence

/-! ## Static evidence -/

namespace StaticEvidence

theorem handlerUsed?_eq_none_iff (functions : List CodeFunction) (h : String) :
    handlerUsed? functions h = none ↔ ∀ f ∈ functions, f.name ≠ h := by
  rw [handlerUsed?_eq]
  split
  · rename_i hn
    simpa using hn
  · rename_i hn
    simpa using hn

/-- A finding on endpoints is for an endpoint with a handler that no function bears, or that only
unused functions bear. -/
theorem mem_orphanedEndpoints {endpoints : List CodeEndpoint} {functions : List CodeFunction}
    {x : OrphanFinding} :
    x ∈ orphanedEndpoints endpoints functions ↔ ∃ e ∈ endpoints, ∃ h, e.handler = some h ∧
      ((handlerUsed? functions h = none ∧ x = .make (.endpoint e) .handlerNotFound) ∨
        (handlerUsed? functions h = some false ∧ x = .make (.endpoint e) .handlerUnreferenced)) := by
  rw [orphanedEndpoints, List.mem_filterMap]
  apply exists_congr
  intro e
  apply and_congr_right
  intro _
  cases e.handler with
  | none => simp
  | some h =>
    simp only [Option.some.injEq, exists_eq_left']
    cases handlerUsed? functions h with
    | none => simp [eq_comm]
    | some b => cases b <;> simp [eq_comm]

end StaticEvidence

end OrphanedCode
