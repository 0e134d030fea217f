import OrphanedCode.Telemetry.Usage
/-!
What the aggregated usage holds. Keys are ordered by resource, then by method, as texts, and a
trace is put in front of a group with a larger key, counted at a group with its key, or carried past
a group with a smaller one. Grouping keeps one group per key: a key has a group exactly when some
trace with a resource has that key, and every group has counted at least one trace. Read
through the usage records: a route and method appear among them exactly when a trace named that
resource form and method, and no record has zero hits.
-/

namespace OrphanedCode

/-! ## Group keys -/

theorem compareKeys_eq_iff {a b : String × String} : compareKeys a b = .eq ↔ a = b := by
  obtain ⟨a1, a2⟩ := a
  obtain ⟨b1, b2⟩ := b
  unfold compareKeys
  cases h : compare a1 b1 with
  | eq =>
    have := Std.LawfulEqOrd.eq_of_compare h
    simp [this]
  | lt =>
    have : a1 ≠ b1 := fun e => by subst e; simp [Std.ReflOrd.compare_self] at h
    simp [this]
  | gt =>
    have : a1 ≠ b1 := fun e => by subst e; simp [Std.ReflOrd.compare_self] at h
    simp [this]

/-- The order of group keys: by resource, then by method, each in the order of texts. -/
def KeyLt (a b : String × String) : Prop :=
  Prod.Lex (· < ·) (· < ·) a b

theorem KeyLt.trans {a b c : String × String} (hab : KeyLt a b) (hbc : KeyLt b c) : KeyLt a c := by
  unfold KeyLt at *
  rw [Prod.lex_def] at *
  rcases hab with h1 | ⟨e1, h1⟩ <;> rcases hbc with h2 | ⟨e2, h2⟩
  · exact .inl (String.lt_trans h1 h2)
  · exact .inl (e2 ▸ h1)
  · exact .inl (e1 ▸ h2)
  · exact .inr ⟨e1.trans e2, String.lt_trans h1 h2⟩

theorem KeyLt.irrefl (a : String × String) : ¬KeyLt a a := by
  unfold KeyLt
  rw [Prod.lex_def]
  rintro (h | ⟨-, h⟩) <;> exact String.lt_irrefl _ h

theorem string_compare_eq_lt {a b : String} : compare a b = .lt ↔ a < b :=
  compareOfLessAndEq_eq_lt

theorem compareKeys_eq_lt {a b : String × String} : compareKeys a b = .lt ↔ KeyLt a b := by
  obtain ⟨a1, a2⟩ := a
  obtain ⟨b1, b2⟩ := b
  simp only [KeyLt, Prod.lex_def]
  cases h : compare a1 b1 with
  | lt => simp [compareKeys, h, string_compare_eq_lt.1 h]
  | eq =>
    obtain rfl := Std.LawfulEqOrd.eq_of_compare h
    simp [compareKeys, string_compare_eq_lt]
  | gt =>
    have hba : b1 < a1 := by rw [← string_compare_eq_lt, Std.OrientedOrd.eq_swap, h]; rfl
    simp [compareKeys, h, String.lt_asymm hba, (String.ne_of_lt hba).symm]

theorem compareKeys_swap (a b : String × String) : compareKeys b a = (compareKeys a b).swap := by
  unfold compareKeys
  rw [Std.OrientedOrd.eq_swap (a := b.1), Std.OrientedOrd.eq_swap (a := b.2)]
  cases compare a.1 b.1 <;> rfl

theorem compareKeys_eq_gt {a b : String × String} : compareKeys a b = .gt ↔ KeyLt b a := by
  rw [← compareKeys_eq_lt, compareKeys_swap, Ordering.swap_eq_gt]

/-! ## One trace -/

section Step

variable (key : String × String) (t : TraceRecord)

/-- What adding a trace does at a group with key `k`: a smaller key goes in front of it, the same
key is counted there, and a larger key goes on past it. -/
theorem addToGroups_cons (k : String × String) (a : Tally) (gs : List ((String × String) × Tally)) :
    (KeyLt key k ∧ addToGroups key t ((k, a) :: gs) = (key, Tally.first t) :: (k, a) :: gs) ∨
      (key = k ∧ addToGroups key t ((k, a) :: gs) = (k, a.add t) :: gs) ∨
      (KeyLt k key ∧ addToGroups key t ((k, a) :: gs) = (k, a) :: addToGroups key t gs) := by
  cases h : compareKeys key k with
  | lt => exact .inl ⟨compareKeys_eq_lt.1 h, by rw [addToGroups, h]⟩
  | eq => exact .inr (.inl ⟨compareKeys_eq_iff.1 h, by rw [addToGroups, h]⟩)
  | gt => exact .inr (.inr ⟨compareKeys_eq_gt.1 h, by rw [addToGroups, h]⟩)

/-- Adding a trace adds its key and keeps every other key. -/
theorem mem_keys_addToGroups (gs : List ((String × String) × Tally)) (k : String × String) :
    k ∈ (addToGroups key t gs).map Prod.fst ↔ k = key ∨ k ∈ gs.map Prod.fst := by
  induction gs with
  | nil => simp [addToGroups]
  | cons g gs ih =>
    obtain ⟨k', a⟩ := g
    rcases addToGroups_cons key t k' a gs with ⟨-, hadd⟩ | ⟨rfl, hadd⟩ | ⟨-, hadd⟩ <;>
      rw [hadd]
    · simp
    · simp
    · simp only [List.map_cons, List.mem_cons, ih]
      exact or_left_comm

/-- Adding a trace to groups that all counted a trace leaves groups that all counted one. -/
theorem hits_pos_addToGroups (gs : List ((String × String) × Tally))
    (hgs : ∀ g ∈ gs, 0 < g.2.hits) : ∀ g ∈ addToGroups key t gs, 0 < g.2.hits := by
  induction gs with
  | nil => simp [addToGroups, Tally.first]
  | cons g gs ih =>
    obtain ⟨k', a⟩ := g
    have hrest : ∀ g ∈ gs, 0 < g.2.hits := fun g hg => hgs g (List.mem_cons_of_mem _ hg)
    rcases addToGroups_cons key t k' a gs with ⟨-, hadd⟩ | ⟨-, hadd⟩ | ⟨-, hadd⟩ <;>
      rw [hadd] <;> intro g hg <;> rcases List.mem_cons.1 hg with rfl | hg
    · simp [Tally.first]
    · exact hgs g hg
    · simp [Tally.add]
    · exact hrest g hg
    · exact hgs _ List.mem_cons_self
    · exact ih hrest g hg

end Step

/-! ## All traces -/

theorem mem_keys_foldl (ts : List TraceRecord) (gs : List ((String × String) × Tally))
    (k : String × String) :
    k ∈ (ts.foldl (fun gs t => addToGroups t.groupKey t gs) gs).map Prod.fst ↔
      (∃ t ∈ ts, t.groupKey = k) ∨ k ∈ gs.map Prod.fst := by
  induction ts generalizing gs with
  | nil => simp
  | cons t ts ih =>
    rw [List.foldl_cons, ih, mem_keys_addToGroups]
    simp only [List.mem_cons, exists_eq_or_imp]
    constructor
    · rintro (h | rfl | h)
      · exact .inl (.inr h)
      · exact .inl (.inl rfl)
      · exact .inr h
    · rintro ((rfl | h) | h)
      · exact .inr (.inl rfl)
      · exact .inl h
      · exact .inr (.inr h)

theorem hits_pos_foldl (ts : List TraceRecord) (gs : List ((String × String) × Tally))
    (hgs : ∀ g ∈ gs, 0 < g.2.hits) :
    ∀ g ∈ ts.foldl (fun gs t => addToGroups t.groupKey t gs) gs, 0 < g.2.hits := by
  induction ts generalizing gs with
  | nil => exact hgs
  | cons t ts ih => exact ih _ (hits_pos_addToGroups _ _ gs hgs)

/-- A key has a group exactly when a trace with a resource has that key. -/
theorem mem_keys_groupTraces (traces : List TraceRecord) (k : String × String) :
    k ∈ (groupTraces traces).map Prod.fst ↔ ∃ t ∈ traces, t.resource ≠ "" ∧ t.groupKey = k := by
  rw [groupTraces, mem_keys_foldl]
  simp [List.mem_filter, and_assoc]

theorem hits_pos_groupTraces (traces : List TraceRecord) :
    ∀ g ∈ groupTraces traces, 0 < g.2.hits :=
  hits_pos_foldl _ [] (by simp)

/-! ## Usage records -/

theorem mem_aggregateUsage {traces : List TraceRecord} {u : TelemetryUsage}
    (hu : u ∈ aggregateUsage traces) :
    ∃ g ∈ groupTraces traces, g.1 = (u.endpoint, u.method) ∧ g.2.hits = u.hitCount := by
  obtain ⟨⟨⟨e, m⟩, a⟩, hg, rfl⟩ := List.mem_map.1 hu
  exact ⟨_, hg, rfl, rfl⟩

/-- The usage names a route and method exactly when a trace with a resource has that resource
form and method key. -/
theorem exists_usage_iff (traces : List TraceRecord) (e m : String) :
    (∃ u ∈ aggregateUsage traces, u.endpoint = e ∧ u.method = m) ↔
      ∃ t ∈ traces, t.resource ≠ "" ∧ Route.normalizeResource t.resource = e ∧ t.methodKey = m := by
  have hkeys := mem_keys_groupTraces traces (e, m)
  simp only [TraceRecord.groupKey, Prod.mk.injEq] at hkeys
  rw [← hkeys]
  constructor
  · rintro ⟨u, hu, rfl, rfl⟩
    obtain ⟨g, hg, hk, -⟩ := mem_aggregateUsage hu
    exact List.mem_map.2 ⟨g, hg, hk⟩
  · intro h
    obtain ⟨⟨⟨e', m'⟩, a⟩, hg, hk⟩ := List.mem_map.1 h
    cases hk
    exact ⟨_, List.mem_map.2 ⟨_, hg, rfl⟩, rfl, rfl⟩

/-- Every usage record counts at least one trace. -/
theorem hitCount_pos {traces : List TraceRecord} {u : TelemetryUsage}
    (hu : u ∈ aggregateUsage traces) : 0 < u.hitCount := by
  obtain ⟨g, hg, -, hh⟩ := mem_aggregateUsage hu
  exact hh ▸ hits_pos_groupTraces traces g hg

end OrphanedCode
