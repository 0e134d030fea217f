import OrphanedCode.Proofs.Usage
import OrphanedCode.Proofs.Text
import OrphanedCode.Proofs.Binary64Order
/-!
The aggregated usage in full.

Grouping keeps its groups strictly increasing in their keys, and the tally of a key is the tally
of that key's traces counted in the order they came. So a usage record counts exactly the traces
of its route and method, the counts add up to the traces that name a resource, and when no start
time of a group is not-a-number its last access is the timestamp of a greatest start time. Keys
increase in the order of texts, which is the order of their UTF-8 bytes. Two greatest start times
are one value or two zeros and write one timestamp, so reordering the traces changes no route,
method, count or last access of a group without not-a-number.
-/

namespace OrphanedCode

/-! ## One trace -/

/-- Groups whose keys strictly increase. -/
def KeysIncrease (gs : List ((String × String) × Tally)) : Prop :=
  (gs.map Prod.fst).Pairwise KeyLt

/-- A group's tally with one more trace; the first trace starts it. -/
def Tally.push : Option Tally → TraceRecord → Tally
  | none, t => Tally.first t
  | some a, t => a.add t

section Step

variable (key : String × String) (t : TraceRecord)

theorem keysIncrease_addToGroups {gs : List ((String × String) × Tally)} (h : KeysIncrease gs) :
    KeysIncrease (addToGroups key t gs) := by
  induction gs with
  | nil => simp [addToGroups, KeysIncrease]
  | cons g gs ih =>
    obtain ⟨k, a⟩ := g
    unfold KeysIncrease at *
    rw [List.map_cons, List.pairwise_cons] at h
    obtain ⟨hk, hgs⟩ := h
    rcases addToGroups_cons key t k a gs with ⟨hlt, hadd⟩ | ⟨rfl, hadd⟩ | ⟨hgt, hadd⟩ <;>
      rw [hadd]
    · -- the new key goes first: it is below `k`, and so below every later key
      refine List.pairwise_cons.2 ⟨?_, List.pairwise_cons.2 ⟨hk, hgs⟩⟩
      intro k' hk'
      rcases List.mem_cons.1 hk' with rfl | hk'
      · exact hlt
      · exact hlt.trans (hk k' hk')
    · exact List.pairwise_cons.2 ⟨hk, hgs⟩
    · refine List.pairwise_cons.2 ⟨fun k' hk' => ?_, ih hgs⟩
      rcases (mem_keys_addToGroups key t gs k').1 hk' with rfl | hk'
      · exact hgt
      · exact hk k' hk'

theorem lookup_eq_none_of_keyLt {key : String × String} {gs : List ((String × String) × Tally)}
    (h : ∀ k ∈ gs.map Prod.fst, KeyLt key k) : gs.lookup key = none := by
  rw [List.lookup_eq_none_iff]
  intro g hg
  have hne : key ≠ g.1 := fun e => KeyLt.irrefl key (e ▸ h g.1 (List.mem_map_of_mem hg))
  simpa using hne

/-- Adding a trace pushes it onto the tally of its key and keeps every other tally. -/
theorem lookup_addToGroups {gs : List ((String × String) × Tally)} (h : KeysIncrease gs)
    (k : String × String) :
    (addToGroups key t gs).lookup k =
      if k = key then some (Tally.push (gs.lookup key) t) else gs.lookup k := by
  induction gs with
  | nil => by_cases hk : k = key <;> simp [addToGroups, hk, Tally.push]
  | cons g gs ih =>
    obtain ⟨k', a⟩ := g
    unfold KeysIncrease at h
    rw [List.map_cons, List.pairwise_cons] at h
    obtain ⟨hk', hgs⟩ := h
    rcases addToGroups_cons key t k' a gs with ⟨hlt, hadd⟩ | ⟨rfl, hadd⟩ | ⟨hgt, hadd⟩ <;>
      rw [hadd]
    · -- the key is new: it is below every key there
      have hnone : ((k', a) :: gs).lookup key = none := by
        refine lookup_eq_none_of_keyLt fun k'' hk'' => ?_
        rcases List.mem_cons.1 hk'' with rfl | hk''
        · exact hlt
        · exact hlt.trans (hk' k'' hk'')
      by_cases hk : k = key
      · subst hk
        simp [hnone, Tally.push]
      · simp [List.lookup_cons, beq_false_of_ne hk, hk]
    · by_cases hk : k = key
      · subst hk
        simp [Tally.push]
      · simp [List.lookup_cons, beq_false_of_ne hk, hk]
    · have hne : key ≠ k' := fun e => KeyLt.irrefl k' (e ▸ hgt)
      by_cases hk : k = k'
      · subst hk
        simp [hne.symm]
      · simp [List.lookup_cons, beq_false_of_ne hk, beq_false_of_ne hne, ih hgs]

theorem sum_hits_addToGroups (gs : List ((String × String) × Tally)) :
    ((addToGroups key t gs).map (·.2.hits)).sum = (gs.map (·.2.hits)).sum + 1 := by
  induction gs with
  | nil => simp [addToGroups, Tally.first]
  | cons g gs ih =>
    obtain ⟨k, a⟩ := g
    rcases addToGroups_cons key t k a gs with ⟨-, hadd⟩ | ⟨-, hadd⟩ | ⟨-, hadd⟩ <;>
      simp [hadd, Tally.first, Tally.add, ih] <;> omega

end Step

/-! ## The tally of a key -/

/-- The tally of traces counted in the order they came, when there is any. -/
def tallyOf (ts : List TraceRecord) : Option Tally :=
  ts.foldl (fun o t => some (Tally.push o t)) none

@[simp] theorem tallyOf_nil : tallyOf [] = none := rfl

@[simp] theorem tallyOf_append_singleton (ts : List TraceRecord) (t : TraceRecord) :
    tallyOf (ts ++ [t]) = some (Tally.push (tallyOf ts) t) := by
  simp [tallyOf, List.foldl_append]

/-- The traces that the record of route `e` and method `m` counts: those that name a resource
whose route form is `e` and whose method key is `m`. -/
def TraceRecord.InGroup (e m : String) (t : TraceRecord) : Prop :=
  t.resource ≠ "" ∧ Route.normalizeResource t.resource = e ∧ t.methodKey = m

instance (e m : String) : DecidablePred (TraceRecord.InGroup e m) :=
  fun _ => inferInstanceAs (Decidable (_ ∧ _ ∧ _))

/-- The traces of one group, in the order they came. -/
def groupOf (traces : List TraceRecord) (e m : String) : List TraceRecord :=
  traces.filter fun t => t.InGroup e m

/-- Groups that hold, under increasing keys, the tally of each key's traces among those seen. -/
structure Tallies (gs : List ((String × String) × Tally)) (seen : List TraceRecord) : Prop where
  increase : KeysIncrease gs
  lookup_eq : ∀ k, gs.lookup k = tallyOf (seen.filter (·.groupKey == k))

theorem Tallies.nil : Tallies [] [] :=
  ⟨List.Pairwise.nil, fun k => by simp⟩

theorem Tallies.addToGroups {gs : List ((String × String) × Tally)} {seen : List TraceRecord}
    (h : Tallies gs seen) (t : TraceRecord) :
    Tallies (OrphanedCode.addToGroups t.groupKey t gs) (seen ++ [t]) where
  increase := keysIncrease_addToGroups _ _ h.increase
  lookup_eq k := by
    rw [lookup_addToGroups _ _ h.increase, List.filter_append]
    by_cases hk : k = t.groupKey
    · subst hk
      simp [h.lookup_eq]
    · have hk' : (t.groupKey == k) = false := by simpa using Ne.symm hk
      simp [hk, hk', h.lookup_eq]

/-- The run: folding traces into groups that hold the tallies of those seen. -/
theorem Tallies.foldl {gs : List ((String × String) × Tally)} {seen : List TraceRecord}
    (h : Tallies gs seen) (ts : List TraceRecord) :
    Tallies (ts.foldl (fun gs t => OrphanedCode.addToGroups t.groupKey t gs) gs) (seen ++ ts) := by
  induction ts generalizing gs seen with
  | nil => simpa using h
  | cons t ts ih => simpa using ih (h.addToGroups t)

theorem tallies_groupTraces (traces : List TraceRecord) :
    Tallies (groupTraces traces) (traces.filter (!·.resource.isEmpty)) := by
  simpa [groupTraces] using Tallies.nil.foldl (traces.filter (!·.resource.isEmpty))

theorem filter_groupKey (traces : List TraceRecord) (e m : String) :
    (traces.filter (!·.resource.isEmpty)).filter (·.groupKey == (e, m)) = groupOf traces e m := by
  rw [List.filter_filter, groupOf]
  refine List.filter_congr fun t _ => ?_
  rw [Bool.eq_iff_iff, decide_eq_true_iff, Bool.and_eq_true, beq_iff_eq, Bool.not_eq_true',
    TraceRecord.InGroup, ne_eq, ← String.isEmpty_iff, Bool.not_eq_true, TraceRecord.groupKey,
    Prod.mk.injEq]
  exact and_comm

theorem mem_iff_lookup {gs : List ((String × String) × Tally)} (h : KeysIncrease gs)
    {k : String × String} {a : Tally} : (k, a) ∈ gs ↔ gs.lookup k = some a := by
  induction gs with
  | nil => simp
  | cons g gs ih =>
    obtain ⟨k', a'⟩ := g
    unfold KeysIncrease at h
    rw [List.map_cons, List.pairwise_cons] at h
    obtain ⟨hk', hgs⟩ := h
    by_cases hk : k = k'
    · subst hk
      -- a later group has a larger key
      have hlater : (k, a) ∉ gs := fun hm => KeyLt.irrefl k (hk' k (List.mem_map_of_mem hm))
      simp [hlater, eq_comm]
    · simp [List.lookup_cons, beq_false_of_ne hk, hk, ih hgs]

/-- A key has a group exactly when its traces have a tally, and the group holds that tally. -/
theorem mem_groupTraces_iff {traces : List TraceRecord} {e m : String} {a : Tally} :
    ((e, m), a) ∈ groupTraces traces ↔ tallyOf (groupOf traces e m) = some a := by
  have h := tallies_groupTraces traces
  rw [mem_iff_lookup h.increase, h.lookup_eq, filter_groupKey]

/-! ## What a tally counts -/

theorem hits_push (o : Option Tally) (t : TraceRecord) :
    (Tally.push o t).hits = (o.map Tally.hits).getD 0 + 1 := by
  cases o <;> rfl

/-- A tally counts its traces. -/
theorem hits_tallyOf (ts : List TraceRecord) : ((tallyOf ts).map Tally.hits).getD 0 = ts.length := by
  induction ts using List.reverseRecOn with
  | nil => rfl
  | append_singleton ts t ih => simp [hits_push, ih]

theorem tallyOf_eq_none_iff {ts : List TraceRecord} : tallyOf ts = none ↔ ts = [] := by
  cases ts using List.reverseRecOn with
  | nil => simp
  | append_singleton ts t => simp

/-- `x` is a greatest start time of the traces: the start time of one of them, and no start time
is above it. -/
def GreatestStart (ts : List TraceRecord) (x : Float) : Prop :=
  (∃ t ∈ ts, t.startTime = x) ∧ ∀ t ∈ ts, t.startTime ≤ x

theorem GreatestStart.perm {ts ts' : List TraceRecord} {x : Float} (h : ts.Perm ts')
    (hx : GreatestStart ts x) : GreatestStart ts' x := by
  obtain ⟨⟨t, ht, htx⟩, hle⟩ := hx
  exact ⟨⟨t, h.subset ht, htx⟩, fun t' ht' => hle t' (h.symm.subset ht')⟩

/-- Pushing a trace onto a tally whose latest start is a greatest one keeps it a greatest one. -/
theorem greatestStart_push {ts : List TraceRecord} {t : TraceRecord}
    (hnan : ∀ t' ∈ ts ++ [t], t'.startTime.isNaN = false)
    (h : ∀ a, tallyOf ts = some a → GreatestStart ts a.latest) :
    GreatestStart (ts ++ [t]) (Tally.push (tallyOf ts) t).latest := by
  have ht : t.startTime.isNaN = false := hnan t (by simp)
  cases hts : tallyOf ts with
  | none =>
    obtain rfl := tallyOf_eq_none_iff.1 hts
    exact ⟨⟨t, by simp, rfl⟩, fun t' ht' => by
      obtain rfl : t' = t := by simpa using ht'
      exact Binary64.float_le_refl ht⟩
  | some a =>
    obtain ⟨⟨t₀, ht₀, hlatest⟩, hle⟩ := h a hts
    have hnan₀ : a.latest.isNaN = false := hlatest ▸ hnan t₀ (by simp [ht₀])
    simp only [Tally.push, Tally.add, GT.gt]
    split
    · -- a strictly later start replaces the latest
      rename_i hlt
      refine ⟨⟨t, by simp, rfl⟩, fun t' ht' => ?_⟩
      rcases List.mem_append.1 ht' with ht' | ht'
      · exact Binary64.float_le_trans (hle t' ht') (Binary64.float_le_of_lt hlt)
      · obtain rfl : t' = t := by simpa using ht'
        exact Binary64.float_le_refl ht
    · rename_i hnlt
      refine ⟨⟨t₀, by simp [ht₀], hlatest⟩, fun t' ht' => ?_⟩
      rcases List.mem_append.1 ht' with ht' | ht'
      · exact hle t' ht'
      · obtain rfl : t' = t := by simpa using ht'
        exact Binary64.float_le_of_not_lt hnan₀ ht hnlt

/-- Among start times that are numbers, the latest start of a tally is a greatest one. -/
theorem greatestStart_tallyOf {ts : List TraceRecord} (hnan : ∀ t ∈ ts, t.startTime.isNaN = false)
    {a : Tally} (h : tallyOf ts = some a) : GreatestStart ts a.latest := by
  induction ts using List.reverseRecOn generalizing a with
  | nil => simp at h
  | append_singleton ts t ih =>
    rw [tallyOf_append_singleton, Option.some.injEq] at h
    subst h
    exact greatestStart_push hnan fun b hb => ih (fun t' ht' => hnan t' (by simp [ht'])) hb

/-! ## Timestamps of equal times -/

/-- The timestamp of a time depends only on the value it stands for. -/
theorem format_congr {a b : Float} (h : a.toModel.unpack = b.toModel.unpack) :
    Timestamp.format a = Timestamp.format b := by
  have hmul : a * 1000.0 = b * 1000.0 := by
    show Float.ofModel (Float.Model.pack (Float.Model.UnpackedFloat.mul _ a.toModel.unpack _)) =
      Float.ofModel (Float.Model.pack (Float.Model.UnpackedFloat.mul _ b.toModel.unpack _))
    rw [h]
  rw [Timestamp.format, Timestamp.format, hmul]

/-- Both zeros write the timestamp of positive zero. -/
theorem format_of_zero {a : Float} {s : Float.Model.UnpackedFloat.Sign}
    (h : a.toModel.unpack = .zero s) : Timestamp.format a = Timestamp.format 0.0 := by
  cases s with
  | positive => exact format_congr h
  | negative =>
    have hneg : Timestamp.format (-0.0) = Timestamp.format 0.0 := by decide +kernel
    exact (format_congr h).trans hneg

/-- Two times each no later than the other write one timestamp. -/
theorem format_eq_of_le_of_le {a b : Float} (ha : a.isNaN = false) (hab : a ≤ b) (hba : b ≤ a) :
    Timestamp.format a = Timestamp.format b := by
  rcases Binary64.float_eq_or_zeros_of_le_of_le ha hab hba with h | ⟨⟨s, hs⟩, ⟨s', hs'⟩⟩
  · exact format_congr h
  · rw [format_of_zero hs, format_of_zero hs']

theorem GreatestStart.format_eq {ts : List TraceRecord} {x y : Float}
    (hnan : ∀ t ∈ ts, t.startTime.isNaN = false) (hx : GreatestStart ts x)
    (hy : GreatestStart ts y) : Timestamp.format x = Timestamp.format y := by
  obtain ⟨⟨t, ht, rfl⟩, hlex⟩ := hx
  obtain ⟨⟨t', ht', rfl⟩, hley⟩ := hy
  exact format_eq_of_le_of_le (hnan t ht) (hley t ht) (hlex t' ht')

/-! ## Usage records -/

/-- A usage record carries the tally of its group's traces. -/
theorem tally_of_mem_aggregateUsage {traces : List TraceRecord} {u : TelemetryUsage}
    (hu : u ∈ aggregateUsage traces) :
    ∃ a, tallyOf (groupOf traces u.endpoint u.method) = some a ∧ u.hitCount = a.hits ∧
      u.lastAccessed = Timestamp.format a.latest := by
  obtain ⟨⟨⟨e, m⟩, a⟩, hg, rfl⟩ := List.mem_map.1 hu
  exact ⟨a, mem_groupTraces_iff.1 hg, rfl, rfl⟩

theorem hitCount_eq_length {traces : List TraceRecord} {u : TelemetryUsage}
    (hu : u ∈ aggregateUsage traces) : u.hitCount = (groupOf traces u.endpoint u.method).length := by
  obtain ⟨a, ha, hhits, -⟩ := tally_of_mem_aggregateUsage hu
  have := hits_tallyOf (groupOf traces u.endpoint u.method)
  rw [ha] at this
  simpa [hhits] using this

theorem lastAccessed_eq_format {traces : List TraceRecord} {u : TelemetryUsage}
    (hu : u ∈ aggregateUsage traces)
    (hnan : ∀ t ∈ groupOf traces u.endpoint u.method, t.startTime.isNaN = false) :
    (∃ x, GreatestStart (groupOf traces u.endpoint u.method) x) ∧
      ∀ x, GreatestStart (groupOf traces u.endpoint u.method) x →
        u.lastAccessed = Timestamp.format x := by
  obtain ⟨a, ha, -, hlast⟩ := tally_of_mem_aggregateUsage hu
  have hgreatest := greatestStart_tallyOf hnan ha
  exact ⟨⟨a.latest, hgreatest⟩, fun x hx => hlast.trans (hgreatest.format_eq hnan hx)⟩

theorem sum_hits_foldl (ts : List TraceRecord) (gs : List ((String × String) × Tally)) :
    ((ts.foldl (fun gs t => addToGroups t.groupKey t gs) gs).map (·.2.hits)).sum =
      (gs.map (·.2.hits)).sum + ts.length := by
  induction ts generalizing gs with
  | nil => simp
  | cons t ts ih =>
    rw [List.foldl_cons, ih, sum_hits_addToGroups, List.length_cons]
    omega

/-- The hit counts add up to the traces that name a resource. -/
theorem sum_hitCount (traces : List TraceRecord) :
    ((aggregateUsage traces).map (·.hitCount)).sum = (traces.filter (·.resource ≠ "")).length := by
  have h := sum_hits_foldl (traces.filter (!·.resource.isEmpty)) []
  simp only [List.map_nil, List.sum_nil, Nat.zero_add] at h
  have hmap : (aggregateUsage traces).map (·.hitCount) = (groupTraces traces).map (·.2.hits) := by
    simp [aggregateUsage, Function.comp_def]
  rw [hmap, groupTraces, h]
  congr 1
  refine List.filter_congr fun t _ => ?_
  rw [Bool.eq_iff_iff, Bool.not_eq_true', decide_eq_true_iff, ne_eq, ← String.isEmpty_iff,
    Bool.not_eq_true]

/-- The records are strictly increasing in route, then method, in the byte order of texts. -/
theorem aggregateUsage_bytes_increase (traces : List TraceRecord) :
    (aggregateUsage traces).Pairwise fun u v =>
      Prod.Lex Text.BytesLt Text.BytesLt (u.endpoint, u.method) (v.endpoint, v.method) := by
  have h := (tallies_groupTraces traces).increase
  unfold KeysIncrease at h
  rw [List.pairwise_map] at h
  rw [aggregateUsage, List.pairwise_map]
  refine h.imp fun {g g'} hg => ?_
  obtain ⟨⟨e, m⟩, a⟩ := g
  obtain ⟨⟨e', m'⟩, a'⟩ := g'
  simp only [KeyLt, Prod.lex_def, Text.lt_iff_bytesLt] at hg
  simpa only [Prod.lex_def] using hg

/-! ## Reordered traces -/

/-- Two lists of keys that strictly increase and hold the same keys are one list. -/
theorem keys_eq_of_mem_iff {l₁ l₂ : List (String × String)} (h₁ : l₁.Pairwise KeyLt)
    (h₂ : l₂.Pairwise KeyLt) (h : ∀ k, k ∈ l₁ ↔ k ∈ l₂) : l₁ = l₂ := by
  have nodup (l : List (String × String)) (hl : l.Pairwise KeyLt) : l.Nodup :=
    hl.imp fun {a b} hab e => by subst e; exact KeyLt.irrefl a hab
  refine List.Perm.eq_of_pairwise (fun a b _ _ hab hba => ?_) h₁ h₂
    ((List.perm_ext_iff_of_nodup (nodup l₁ h₁) (nodup l₂ h₂)).2 h)
  exact absurd (hab.trans hba) (KeyLt.irrefl a)

theorem keys_groupTraces_perm {traces traces' : List TraceRecord} (h : traces'.Perm traces) :
    (groupTraces traces).map Prod.fst = (groupTraces traces').map Prod.fst :=
  keys_eq_of_mem_iff (tallies_groupTraces traces).increase (tallies_groupTraces traces').increase
    fun k => by simp only [mem_keys_groupTraces, h.mem_iff]

theorem forall₂_of_map_eq {α β γ : Type} {l : List α} {l' : List β} {f : α → γ} {g : β → γ}
    {R : α → β → Prop} (h : l.map f = l'.map g) (hR : ∀ a ∈ l, ∀ b ∈ l', f a = g b → R a b) :
    List.Forall₂ R l l' := by
  induction l generalizing l' with
  | nil =>
    cases l' with
    | nil => exact .nil
    | cons b l' => simp at h
  | cons a l ih =>
    cases l' with
    | nil => simp at h
    | cons b l' =>
      simp only [List.map_cons, List.cons.injEq] at h
      exact .cons (hR a (by simp) b (by simp) h.1)
        (ih h.2 fun a ha b hb => hR a (List.mem_cons_of_mem _ ha) b (List.mem_cons_of_mem _ hb))

/-- Reordering the traces keeps every route, method and count, and the last access of every
group without not-a-number. -/
theorem aggregateUsage_perm {traces traces' : List TraceRecord} (h : traces'.Perm traces) :
    List.Forall₂ (fun u u' => u.endpoint = u'.endpoint ∧ u.method = u'.method ∧
        u.hitCount = u'.hitCount ∧
        ((∀ t ∈ groupOf traces u.endpoint u.method, t.startTime.isNaN = false) →
          u.lastAccessed = u'.lastAccessed))
      (aggregateUsage traces) (aggregateUsage traces') := by
  have hkeys : (aggregateUsage traces).map (fun u => (u.endpoint, u.method)) =
      (aggregateUsage traces').map (fun u => (u.endpoint, u.method)) := by
    simpa [aggregateUsage, Function.comp_def] using keys_groupTraces_perm h
  refine forall₂_of_map_eq hkeys fun u hu u' hu' hkey => ?_
  simp only [Prod.mk.injEq] at hkey
  obtain ⟨he, hm⟩ := hkey
  -- the two groups hold the same traces in another order
  have hgroup : (groupOf traces' u.endpoint u.method).Perm (groupOf traces u.endpoint u.method) :=
    h.filter _
  refine ⟨he, hm, ?_, fun hnan => ?_⟩
  · rw [hitCount_eq_length hu, hitCount_eq_length hu', ← he, ← hm, hgroup.length_eq]
  · have hnan' : ∀ t ∈ groupOf traces' u.endpoint u.method, t.startTime.isNaN = false :=
      fun t ht => hnan t (hgroup.subset ht)
    obtain ⟨⟨x, hx⟩, hlast⟩ := lastAccessed_eq_format hu hnan
    obtain ⟨-, hlast'⟩ := lastAccessed_eq_format hu' (he ▸ hm ▸ hnan')
    rw [hlast x hx, hlast' x (he ▸ hm ▸ hx.perm hgroup.symm)]

/-! ## The usage of the traces -/

/-- The aggregated usage: records strictly increasing in route and method in the byte order of
texts, one for each route form and method key of a trace that names a resource, each counting
exactly its traces, the counts adding up to those traces, the last access written from a greatest
start time of a group without not-a-number, and all of it kept when the traces are reordered. -/
theorem aggregateUsage_groups_traces (traces : List TraceRecord) :
    (aggregateUsage traces).Pairwise (fun u v =>
        Prod.Lex Text.BytesLt Text.BytesLt (u.endpoint, u.method) (v.endpoint, v.method)) ∧
      (∀ e m, (∃ u ∈ aggregateUsage traces, u.endpoint = e ∧ u.method = m) ↔
        ∃ t ∈ traces, t.InGroup e m) ∧
      (∀ u ∈ aggregateUsage traces,
        u.hitCount = (groupOf traces u.endpoint u.method).length ∧ 0 < u.hitCount) ∧
      ((aggregateUsage traces).map (·.hitCount)).sum = (traces.filter (·.resource ≠ "")).length ∧
      (∀ u ∈ aggregateUsage traces,
        (∀ t ∈ groupOf traces u.endpoint u.method, t.startTime.isNaN = false) →
          (∃ x, GreatestStart (groupOf traces u.endpoint u.method) x) ∧
            ∀ x, GreatestStart (groupOf traces u.endpoint u.method) x →
              u.lastAccessed = Timestamp.format x) ∧
      ∀ traces' : List TraceRecord, traces'.Perm traces →
        List.Forall₂ (fun u u' => u.endpoint = u'.endpoint ∧ u.method = u'.method ∧
            u.hitCount = u'.hitCount ∧
            ((∀ t ∈ groupOf traces u.endpoint u.method, t.startTime.isNaN = false) →
              u.lastAccessed = u'.lastAccessed))
          (aggregateUsage traces) (aggregateUsage traces') :=
  ⟨aggregateUsage_bytes_increase traces, exists_usage_iff traces,
    fun _ hu => ⟨hitCount_eq_length hu, hitCount_pos hu⟩, sum_hitCount traces,
    fun _ hu hnan => lastAccessed_eq_format hu hnan, fun _ h => aggregateUsage_perm h⟩

theorem aggregateUsage_groups_traces_swapped :
    let a : TraceRecord := ⟨"/users/42", some "get", 5.0, 1.0⟩
    let b : TraceRecord := ⟨"/users/7", some " GET ", 9.0, 3.0⟩
    (∀ t ∈ [a, b], t.startTime.isNaN = false) ∧
      List.Forall₂ (fun u u' => u.endpoint = u'.endpoint ∧ u.method = u'.method ∧
          u.hitCount = u'.hitCount ∧ u.lastAccessed = u'.lastAccessed)
        (aggregateUsage [a, b]) (aggregateUsage [b, a]) := by
  intro a b
  have hnan : ∀ t ∈ [a, b], t.startTime.isNaN = false := by decide +kernel
  refine ⟨hnan, ((aggregateUsage_groups_traces [a, b]).2.2.2.2.2 [b, a]
    (List.Perm.swap a b [])).imp ?_⟩
  rintro u u' ⟨he, hm, hh, hl⟩
  exact ⟨he, hm, hh, hl fun t ht => hnan t (List.mem_filter.1 ht).1⟩

end OrphanedCode
