import OrphanedCode.Proofs.Index
import OrphanedCode.Analysis.Run
import Mathlib.Data.List.Basic
/-!
The two strategies, said without their indexes.

Static evidence judges an endpoint by the functions that bear its handler's name: not found when
none does, unreferenced when all of them are unused, nothing to report when one of them has a use.
It reports a function when it is private, no endpoint names it as handler, and it is used at most
once. Both judgements ask only which declarations are present, so neither depends on the order of
the other list or on repetitions in it.

Telemetry judges an endpoint by the first usage, in list order, of the endpoint's method with the
canonical key of its route: none calls for `no traces`, one without hits for `zero hits` with that
usage's evidence, any other for nothing. It never reports a function.
-/

namespace OrphanedCode

/-! ## Static evidence -/

namespace StaticEvidence

/-- The finding that the declared functions call for on an endpoint: none when it names no
handler, `handler not found` when no function bears the handler's name, `handler unreferenced`
when every function of that name has no use, and none otherwise. -/
def endpointFinding (functions : List CodeFunction) (e : CodeEndpoint) : Option OrphanFinding :=
  match e.handler with
  | none => none
  | some h =>
    if ∀ f ∈ functions, f.name ≠ h then some (.make (.endpoint e) .handlerNotFound)
    else if ∀ f ∈ functions, f.name = h → f.references = [] then
      some (.make (.endpoint e) .handlerUnreferenced)
    else none

/-- Whether the declared routes leave a function barely used: it is not exported, no endpoint
names it as handler, and its name has at most one use. -/
def barelyUsed (endpoints : List CodeEndpoint) (f : CodeFunction) : Bool :=
  decide (f.isExported = false ∧ (∀ e ∈ endpoints, e.handler ≠ some f.name) ∧
    f.references.length ≤ 1)

/-- The index answers for a name by membership: absent when no function bears it, and otherwise
whether some function of that name has a use. -/
theorem handlerUsed?_eq_decide (functions : List CodeFunction) (h : String) :
    handlerUsed? functions h =
      if ∀ f ∈ functions, f.name ≠ h then none
      else some (decide (∃ f ∈ functions, f.name = h ∧ f.references ≠ [])) := by
  rw [handlerUsed?_eq]
  by_cases hn : ∀ f ∈ functions, f.name ≠ h
  · have hnamed : functions.any (·.name == h) = false := by simpa using hn
    rw [if_pos hn, hnamed]
    rfl
  · have hnamed : functions.any (·.name == h) = true := by simpa using hn
    rw [if_neg hn, if_pos hnamed, Option.some.injEq, Bool.eq_iff_iff]
    simp

/-- Static evidence reports on endpoints, in order, the findings their handlers call for. -/
theorem orphanedEndpoints_eq_filterMap (endpoints : List CodeEndpoint)
    (functions : List CodeFunction) :
    orphanedEndpoints endpoints functions = endpoints.filterMap (endpointFinding functions) := by
  rw [orphanedEndpoints]
  apply List.filterMap_congr
  intro e _
  unfold endpointFinding
  cases e.handler with
  | none => rfl
  | some h =>
    dsimp only
    rw [handlerUsed?_eq_decide]
    by_cases hn : ∀ f ∈ functions, f.name ≠ h
    · rw [if_pos hn, if_pos hn]
    · rw [if_neg hn, if_neg hn]
      -- a used function of that name is exactly what keeps the endpoint out of the report
      by_cases hu : ∃ f ∈ functions, f.name = h ∧ f.references ≠ []
      · have hall : ¬∀ f ∈ functions, f.name = h → f.references = [] := by
          obtain ⟨f, hf, hname, hr⟩ := hu
          exact fun hall => hr (hall f hf hname)
        rw [decide_eq_true hu, if_neg hall]
      · have hall : ∀ f ∈ functions, f.name = h → f.references = [] := by
          intro f hf hname
          exact Classical.byContradiction fun hr => hu ⟨f, hf, hname, hr⟩
        rw [decide_eq_false hu, if_pos hall]

/-- Static evidence reports, in order, the functions that the routes leave barely used. -/
theorem orphanedFunctions_eq_barelyUsed (functions : List CodeFunction)
    (endpoints : List CodeEndpoint) :
    orphanedFunctions functions endpoints =
      (functions.filter (barelyUsed endpoints)).map
        fun f => .make (.function f) .minimalReferences := by
  rw [orphanedFunctions_eq_filter]
  congr 1
  apply List.filter_congr
  intro f _
  rw [Bool.eq_iff_iff]
  simp [barelyUsed, List.mem_filterMap, and_assoc]

/-- The finding an endpoint calls for depends only on which functions are declared. -/
theorem endpointFinding_congr {functions functions' : List CodeFunction}
    (hmem : ∀ f, f ∈ functions' ↔ f ∈ functions) :
    endpointFinding functions' = endpointFinding functions := by
  funext e
  simp only [endpointFinding, hmem]

/-- Whether a function is barely used depends only on which routes are declared. -/
theorem barelyUsed_congr {endpoints endpoints' : List CodeEndpoint}
    (hmem : ∀ e, e ∈ endpoints' ↔ e ∈ endpoints) :
    barelyUsed endpoints' = barelyUsed endpoints := by
  funext f
  simp only [barelyUsed, hmem]

/-- Static evidence, said without its index: endpoints are reported in order for the findings
their handlers call for, functions in order when the routes leave them barely used, each with its
reason's message and confidence and no usage; and each report stays the same when the other list
is permuted or has members repeated or dropped as long as the same declarations remain. -/
theorem findings_as_declaration_search (endpoints : List CodeEndpoint)
    (functions : List CodeFunction) :
    orphanedEndpoints endpoints functions = endpoints.filterMap (endpointFinding functions) ∧
      orphanedFunctions functions endpoints =
        (functions.filter (barelyUsed endpoints)).map
          (fun f => .make (.function f) .minimalReferences) ∧
      (∀ functions' : List CodeFunction, (∀ f, f ∈ functions' ↔ f ∈ functions) →
        orphanedEndpoints endpoints functions' = orphanedEndpoints endpoints functions) ∧
      (∀ endpoints' : List CodeEndpoint, (∀ e, e ∈ endpoints' ↔ e ∈ endpoints) →
        orphanedFunctions functions endpoints' = orphanedFunctions functions endpoints) := by
  refine ⟨orphanedEndpoints_eq_filterMap endpoints functions,
    orphanedFunctions_eq_barelyUsed functions endpoints, fun functions' hmem => ?_,
    fun endpoints' hmem => ?_⟩
  · rw [orphanedEndpoints_eq_filterMap, orphanedEndpoints_eq_filterMap, endpointFinding_congr hmem]
  · rw [orphanedFunctions_eq_barelyUsed, orphanedFunctions_eq_barelyUsed, barelyUsed_congr hmem]

end StaticEvidence

/-! ## Telemetry evidence -/

namespace TelemetryEvidence

/-- Telemetry, said without its index: each endpoint, in order, is judged by the first usage of
its method with the canonical key of its route. With no such usage it is reported for `no traces`
with confidence 0.9 and no usage; with one that has no hits, for `zero hits` with confidence 0.8,
that usage's last access and a count of 0; otherwise it is not reported. No function is ever
reported. -/
theorem findings_first_usage_match (usage : List TelemetryUsage)
    (endpoints : List CodeEndpoint) :
    orphanedEndpoints usage endpoints = endpoints.filterMap (fun e =>
      match usage.find? (fun u => decide (u.method = e.method.name ∧
          Route.canonical u.endpoint = Route.canonical e.route)) with
      | none => some ⟨.endpoint e, .noTraces, OrphanReason.noTraces.message, 0.9, none, none⟩
      | some u =>
        if u.hitCount = 0 then
          some ⟨.endpoint e, .zeroHits, OrphanReason.zeroHits.message, 0.8, some u.lastAccessed,
            some 0⟩
        else none) ∧
      ∀ inv : Inventory, (judgeByUsage usage inv).2.1 = [] := by
  refine ⟨?_, fun _ => rfl⟩
  rw [orphanedEndpoints]
  apply List.filterMap_congr
  intro e _
  have hfind : usageOf? usage e = usage.find? fun u => decide (u.method = e.method.name ∧
      Route.canonical u.endpoint = Route.canonical e.route) := by
    rw [usageOf?_eq_find?]
    congr
    funext u
    rw [Bool.eq_iff_iff]
    simp
  rw [hfind]
  cases usage.find? _ with
  | none => rfl
  | some u =>
    by_cases h0 : u.hitCount = 0
    · simp [h0, OrphanFinding.make, OrphanFinding.withUsage, OrphanReason.confidence]
    · simp [h0]

end TelemetryEvidence

end OrphanedCode
