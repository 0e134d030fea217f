import OrphanedCode.Analysis.Static
import OrphanedCode.Analysis.Join
import Std.Data.HashMap.Lemmas
import Std.Data.HashSet.Lemmas
/-!
The hashed indexes of the evidence, read as searches over lists.

The usage index files a usage under its key only while the key is free, so a lookup finds the
first usage of the list with that key: the same answer as a search from the front. The index of
function names joins the use flags of same-named functions by `or`, so a lookup finds whether the
name is borne at all and, if it is, whether some function of that name has a use. The set of
handler names holds exactly the handlers of the endpoints. Each fact is an invariant of the loop
that builds the index, carried by induction over the list with the index as accumulator.
-/

namespace OrphanedCode

/-! ## The usage index -/

namespace TelemetryEvidence

/-- Filing usages one after another keeps every entry of the index and adds, under a free key,
the first usage of the list with that key. -/
theorem foldl_fileUsage_getElem? (usage : List TelemetryUsage)
    (index : Std.HashMap (String × String) TelemetryUsage) (k : String × String) :
    (usage.foldl fileUsage index)[k]? =
      index[k]?.or (usage.find? fun u => (u.method, Route.canonical u.endpoint) == k) := by
  induction usage generalizing index with
  | nil => simp
  | cons u us ih =>
    rw [List.foldl_cons, ih, List.find?_cons, fileUsage, Std.HashMap.getElem?_insertIfNew]
    by_cases hk : (u.method, Route.canonical u.endpoint) = k
    · -- after `u` is filed the key is taken, by `u` or by the entry that was there before
      subst hk
      rw [beq_self_eq_true]
      cases hi : index[(u.method, Route.canonical u.endpoint)]? with
      | none =>
        have hfree : (u.method, Route.canonical u.endpoint) ∉ index := by
          simp [Std.HashMap.mem_iff_isSome_getElem?, hi]
        rw [if_pos ⟨rfl, hfree⟩]
        rfl
      | some v =>
        have htaken : (u.method, Route.canonical u.endpoint) ∈ index := by
          simp [Std.HashMap.mem_iff_isSome_getElem?, hi]
        rw [if_neg fun h => h.2 htaken]
        rfl
    · have hne : ((u.method, Route.canonical u.endpoint) == k) = false := by simpa using hk
      rw [hne, if_neg (by simp)]

/-- The index holds, under each key, the first usage of the list with that key. -/
theorem usageIndex_getElem? (usage : List TelemetryUsage) (k : String × String) :
    (usageIndex usage)[k]? = usage.find? fun u => (u.method, Route.canonical u.endpoint) == k := by
  rw [usageIndex, foldl_fileUsage_getElem?, Std.HashMap.getElem?_empty, Option.none_or]

/-- An endpoint meets the first usage whose method is the endpoint's method name and whose route
has the canonical key of the endpoint's route. -/
theorem usageOf?_eq_find? (usage : List TelemetryUsage) (e : CodeEndpoint) :
    usageOf? usage e = usage.find? fun u =>
      u.method == e.method.name && Route.canonical u.endpoint == Route.canonical e.route := by
  rw [usageOf?, usageIndex_getElem?]
  -- pairs compare component by component
  rfl

end TelemetryEvidence

/-! ## The index of function names and the set of handlers -/

namespace StaticEvidence

/-- Entering functions one after another leaves a name that none of them bears as it was, and
joins by `or` the flag the index held for a name with the uses of the functions that bear it. -/
theorem foldl_noteFunction_getElem? (functions : List CodeFunction)
    (index : Std.HashMap String Bool) (h : String) :
    (functions.foldl noteFunction index)[h]? =
      if functions.any (·.name == h) then
        some (index[h]?.getD false || functions.any fun f => f.name == h && !f.references.isEmpty)
      else index[h]? := by
  induction functions generalizing index with
  | nil => simp
  | cons f fs ih =>
    rw [List.foldl_cons, ih]
    by_cases hf : f.name = h
    · -- the name is borne from `f` on, and `f`'s own flag joins it
      subst hf
      rw [noteFunction, Std.HashMap.getElem?_alter_self]
      cases hany : fs.any (·.name == f.name) with
      | true => simp [Bool.or_assoc]
      | false =>
        have hnone : (fs.any fun g => g.name == f.name && !g.references.isEmpty) = false := by
          simp only [List.any_eq_false, Bool.and_eq_true, not_and] at hany ⊢
          exact fun g hg hname => absurd hname (hany g hg)
        simp [hnone]
    · have hne : (f.name == h) = false := by simpa using hf
      simp [noteFunction, Std.HashMap.getElem?_alter, hne]

/-- A name that no function bears is absent from the index; a borne name maps to whether some
function of that name has a use. -/
theorem handlerUsed?_eq (functions : List CodeFunction) (h : String) :
    handlerUsed? functions h =
      if functions.any (·.name == h) then
        some (functions.any fun f => f.name == h && !f.references.isEmpty)
      else none := by
  rw [handlerUsed?, referencedIndex, foldl_noteFunction_getElem?, Std.HashMap.getElem?_empty]
  simp

/-- The functions reported are those that are private, named by no endpoint as its handler, and
used at most once: the set of handlers answers as the list of handlers does. -/
theorem orphanedFunctions_eq_filter (functions : List CodeFunction)
    (endpoints : List CodeEndpoint) :
    orphanedFunctions functions endpoints =
      (functions.filter fun f => !f.isExported &&
          !(endpoints.filterMap (·.handler)).contains f.name && f.references.length ≤ 1).map
        fun f => .make (.function f) .minimalReferences := by
  simp only [orphanedFunctions, Std.HashSet.contains_ofList]

end StaticEvidence

end OrphanedCode
