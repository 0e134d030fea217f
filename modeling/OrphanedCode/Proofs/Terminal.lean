import OrphanedCode.Report.Terminal
import Mathlib.Data.List.Basic
/-!
The terminal report, file by file.

A run that found something is reported one block per file: the file's path relative to the
workspace root heads the block, and the lines of its findings follow. The report files the
findings one by one, each at the end of the group of its path or in a new group in its place, in
groups kept in ascending order of their paths. Filing one finding keeps the groups a grouping by
path of the findings filed so far, so after the last one they are the grouping of them all: one
group for each path that some finding has, the paths strictly ascending, and in a group exactly
the findings under its path, in report order. Two files whose paths read the same relative to the
root share a group. Such a grouping is unique, and it loses and repeats nothing: the groups
together hold every finding exactly once.
-/

namespace OrphanedCode.Report

/-! ## Grouping by path -/

/-- Findings grouped by their file relative to the root: one group for each path that some finding
has, the paths in strictly ascending order, and in each group exactly the findings under its path,
in their order. -/
structure GroupedByPath (root : String) (findings : List OrphanFinding)
    (groups : List (String × List OrphanFinding)) : Prop where
  ascending : (groups.map Prod.fst).Pairwise (· < ·)
  mem_paths : ∀ p, p ∈ groups.map Prod.fst ↔ ∃ f ∈ findings, relativePath root f.item.file = p
  members : ∀ g ∈ groups, g.2 = findings.filter fun f => relativePath root f.item.file = g.1

section Partition

variable {α β : Type} [DecidableEq β] (key : α → β)

/-- Items filtered by each of distinct keys that cover them all are the items again, up to order. -/
theorem perm_flatMap_filter_key {keys : List β} (hnd : keys.Nodup) {items : List α}
    (hcov : ∀ a ∈ items, key a ∈ keys) :
    (keys.flatMap fun k => items.filter fun a => key a = k).Perm items := by
  induction keys generalizing items with
  | nil =>
    -- with no key to cover it there is no item
    have : items = [] := List.eq_nil_iff_forall_not_mem.2 fun a ha => List.not_mem_nil (hcov a ha)
    simp [this]
  | cons k ks ih =>
    obtain ⟨hk, hnd⟩ := List.nodup_cons.1 hnd
    -- the other keys take from the items that `k` leaves, which they cover
    let rest := items.filter fun a => !decide (key a = k)
    have hrest : (ks.flatMap fun k' => items.filter fun a => key a = k') =
        ks.flatMap fun k' => rest.filter fun a => key a = k' := by
      refine List.flatMap_congr fun k' hk' => ?_
      rw [List.filter_filter]
      refine List.filter_congr fun a _ => ?_
      by_cases h : key a = k'
      · simp [h, show k' ≠ k from fun h' => hk (h' ▸ hk')]
      · simp [h]
    have hcov' : ∀ a ∈ rest, key a ∈ ks := by
      intro a ha
      obtain ⟨hmem, hne⟩ := List.mem_filter.1 ha
      exact (List.mem_cons.1 (hcov a hmem)).resolve_left (by simpa using hne)
    rw [List.flatMap_cons, hrest]
    exact ((ih hnd hcov').append_left _).trans (List.filter_append_perm _ items)

end Partition

section Grouped

variable {root : String} {findings : List OrphanFinding} {groups : List (String × List OrphanFinding)}

theorem GroupedByPath.nodup_paths (h : GroupedByPath root findings groups) :
    (groups.map Prod.fst).Nodup :=
  h.ascending.imp String.ne_of_lt

/-- A grouping holds, for each of its paths, the findings under it. -/
theorem GroupedByPath.eq_map_paths (h : GroupedByPath root findings groups) :
    groups = (groups.map Prod.fst).map fun p =>
      (p, findings.filter fun f => relativePath root f.item.file = p) :=
  calc groups = groups.map id := (List.map_id groups).symm
    _ = _ := by
      rw [List.map_map]
      exact List.map_congr_left fun g hg => Prod.ext rfl (h.members g hg)

/-- The findings determine their grouping by path. -/
theorem GroupedByPath.unique {groups' : List (String × List OrphanFinding)}
    (h : GroupedByPath root findings groups) (h' : GroupedByPath root findings groups') :
    groups = groups' := by
  -- two strictly ascending lists of the same paths are one list
  have hpaths : groups.map Prod.fst = groups'.map Prod.fst := by
    refine List.Perm.eq_of_pairwise (fun a b _ _ hab hba => absurd hba (String.lt_asymm hab))
      h.ascending h'.ascending ?_
    refine (List.perm_ext_iff_of_nodup h.nodup_paths h'.nodup_paths).2 fun p => ?_
    exact (h.mem_paths p).trans (h'.mem_paths p).symm
  rw [h.eq_map_paths, h'.eq_map_paths, hpaths]

/-- Grouping by path loses no finding and repeats none. -/
theorem GroupedByPath.perm (h : GroupedByPath root findings groups) :
    (groups.flatMap Prod.snd).Perm findings := by
  have hflat : groups.flatMap Prod.snd = (groups.map Prod.fst).flatMap
      fun p => findings.filter fun f => relativePath root f.item.file = p := by
    rw [List.flatMap_map]
    exact List.flatMap_congr h.members
  rw [hflat]
  exact perm_flatMap_filter_key _ h.nodup_paths fun f hf => (h.mem_paths _).2 ⟨f, hf, rfl⟩

end Grouped

/-! ## Filing one finding -/

section FileUnder

variable (path : String) (f : OrphanFinding)

/-- What filing a finding does at a group with path `p`: a smaller path goes in front of it, the
same path joins it, and a larger path goes on past it. -/
theorem fileUnder_cons (p : String) (fs : List OrphanFinding)
    (gs : List (String × List OrphanFinding)) :
    (path < p ∧ fileUnder path f ((p, fs) :: gs) = (path, [f]) :: (p, fs) :: gs) ∨
      (path = p ∧ fileUnder path f ((p, fs) :: gs) = (p, fs ++ [f]) :: gs) ∨
      (p < path ∧ fileUnder path f ((p, fs) :: gs) = (p, fs) :: fileUnder path f gs) := by
  cases h : compare path p with
  | lt => exact .inl ⟨compareOfLessAndEq_eq_lt.1 h, by rw [fileUnder, h]⟩
  | eq => exact .inr (.inl ⟨Std.LawfulEqOrd.eq_of_compare h, by rw [fileUnder, h]⟩)
  | gt =>
    have hgt : p < path :=
      (compareOfLessAndEq_eq_gt String.le_antisymm String.le_total String.not_le _ _).1 h
    exact .inr (.inr ⟨hgt, by rw [fileUnder, h]⟩)

/-- Filing a finding adds its path and keeps every other path. -/
theorem mem_paths_fileUnder (gs : List (String × List OrphanFinding)) (q : String) :
    q ∈ (fileUnder path f gs).map Prod.fst ↔ q = path ∨ q ∈ gs.map Prod.fst := by
  induction gs with
  | nil => simp [fileUnder]
  | cons g gs ih =>
    obtain ⟨p, fs⟩ := g
    rcases fileUnder_cons path f p fs gs with ⟨-, h⟩ | ⟨rfl, h⟩ | ⟨-, h⟩ <;> rw [h]
    · simp
    · simp
    · simp only [List.map_cons, List.mem_cons, ih]
      exact or_left_comm

/-- Filing a finding keeps the paths strictly ascending. -/
theorem ascending_fileUnder {gs : List (String × List OrphanFinding)}
    (h : (gs.map Prod.fst).Pairwise (· < ·)) :
    ((fileUnder path f gs).map Prod.fst).Pairwise (· < ·) := by
  induction gs with
  | nil => simp [fileUnder]
  | cons g gs ih =>
    obtain ⟨p, fs⟩ := g
    rw [List.map_cons, List.pairwise_cons] at h
    obtain ⟨hp, hgs⟩ := h
    rcases fileUnder_cons path f p fs gs with ⟨hlt, h⟩ | ⟨rfl, h⟩ | ⟨hgt, h⟩ <;>
      simp only [h, List.map_cons, List.pairwise_cons]
    · -- the new path goes first: it is below `p`, and so below every later path
      refine ⟨fun q hq => ?_, hp, hgs⟩
      rcases List.mem_cons.1 hq with rfl | hq
      · exact hlt
      · exact String.lt_trans hlt (hp q hq)
    · exact ⟨hp, hgs⟩
    · refine ⟨fun q hq => ?_, ih hgs⟩
      rcases (mem_paths_fileUnder path f gs q).1 hq with rfl | hq
      · exact hgt
      · exact hp q hq

/-- Filing a finding appends it to the group of its path, a new group when no group had that
path, and keeps every other group. -/
theorem snd_of_mem_fileUnder {gs : List (String × List OrphanFinding)}
    {F : String → List OrphanFinding} (hasc : (gs.map Prod.fst).Pairwise (· < ·))
    (hF : ∀ g ∈ gs, g.2 = F g.1) (hnew : path ∉ gs.map Prod.fst → F path = []) :
    ∀ g ∈ fileUnder path f gs, g.2 = F g.1 ++ if g.1 = path then [f] else [] := by
  induction gs with
  | nil =>
    intro g hg
    rw [fileUnder, List.mem_singleton] at hg
    subst hg
    simp [hnew List.not_mem_nil]
  | cons g gs ih =>
    obtain ⟨p, fs⟩ := g
    rw [List.map_cons, List.pairwise_cons] at hasc
    obtain ⟨hp, hgs⟩ := hasc
    -- a group under another path keeps its findings
    have hkeep : ∀ g ∈ (p, fs) :: gs, g.1 ≠ path →
        g.2 = F g.1 ++ if g.1 = path then [f] else [] := by
      intro g hg hne
      simp [hF g hg, hne]
    -- the paths after `p` are above it
    have habove : ∀ g ∈ gs, p < g.1 := fun g hg => hp g.1 (List.mem_map_of_mem hg)
    rcases fileUnder_cons path f p fs gs with ⟨hlt, h⟩ | ⟨rfl, h⟩ | ⟨hgt, h⟩ <;> rw [h] <;>
      intro g hg <;> rcases List.mem_cons.1 hg with rfl | hg
    · -- a new group: every path there is above the one filed
      have hnot : path ∉ ((p, fs) :: gs).map Prod.fst := by
        simp only [List.map_cons, List.mem_cons, not_or]
        exact ⟨String.ne_of_lt hlt, fun hmem => String.lt_irrefl _ (String.lt_trans hlt (hp _ hmem))⟩
      simp [hnew hnot]
    · have hne : g.1 ≠ path := by
        rcases List.mem_cons.1 hg with rfl | hg
        · exact (String.ne_of_lt hlt).symm
        · exact (String.ne_of_lt (String.lt_trans hlt (habove g hg))).symm
      exact hkeep g hg hne
    · simpa using hF _ List.mem_cons_self
    · exact hkeep g (List.mem_cons_of_mem _ hg) (String.ne_of_lt (habove g hg)).symm
    · exact hkeep _ List.mem_cons_self (String.ne_of_lt hgt)
    · refine ih hgs (fun g hg => hF g (List.mem_cons_of_mem _ hg)) (fun hnot => hnew ?_) g hg
      simp only [List.map_cons, List.mem_cons, not_or]
      exact ⟨(String.ne_of_lt hgt).symm, hnot⟩

end FileUnder

/-! ## Filing every finding -/

section Filing

variable {root : String} {findings : List OrphanFinding} {groups : List (String × List OrphanFinding)}

theorem GroupedByPath.nil (root : String) : GroupedByPath root [] [] :=
  ⟨List.Pairwise.nil, fun p => by simp, fun g hg => absurd hg List.not_mem_nil⟩

/-- Filing one more finding under its path keeps the grouping. -/
theorem GroupedByPath.fileUnder (h : GroupedByPath root findings groups) (f : OrphanFinding) :
    GroupedByPath root (findings ++ [f]) (fileUnder (relativePath root f.item.file) f groups) where
  ascending := ascending_fileUnder _ f h.ascending
  mem_paths q := by
    rw [mem_paths_fileUnder, h.mem_paths]
    simp [or_comm, eq_comm]
  members g hg := by
    -- no finding seen so far is under a path that had no group
    have hnew : relativePath root f.item.file ∉ groups.map Prod.fst →
        findings.filter (fun x => relativePath root x.item.file = relativePath root f.item.file) =
          [] := by
      intro hnot
      refine List.filter_eq_nil_iff.2 fun x hx hpath => hnot ((h.mem_paths _).2 ⟨x, hx, ?_⟩)
      simpa using hpath
    rw [snd_of_mem_fileUnder _ f (F := fun q => findings.filter fun x => relativePath root x.item.file = q)
      h.ascending h.members hnew g hg, List.filter_append]
    by_cases hq : g.1 = relativePath root f.item.file <;> simp [hq, eq_comm]

/-- Filing findings one by one keeps the grouping. -/
theorem GroupedByPath.foldl (h : GroupedByPath root findings groups) (rest : List OrphanFinding) :
    GroupedByPath root (findings ++ rest)
      (rest.foldl (fun gs f => Report.fileUnder (relativePath root f.item.file) f gs) groups) := by
  induction rest generalizing findings groups with
  | nil => simpa using h
  | cons f rest ih =>
    rw [List.foldl_cons, ← List.singleton_append, ← List.append_assoc]
    exact ih (h.fileUnder f)

theorem groupedByPath_groupByPath (root : String) (findings : List OrphanFinding) :
    GroupedByPath root findings (groupByPath root findings) := by
  simpa [groupByPath] using (GroupedByPath.nil root).foldl findings

end Filing

/-! ## The report -/

/-- The block of one file: its path, the lines of its findings, and a blank line. -/
def fileBlock : String × List OrphanFinding → String
  | (path, findings) => path ++ "\n" ++ String.join (findings.map findingLines) ++ "\n"

/-- A run that found something is reported by the groups of its findings. -/
theorem terminal_of_ne_zero (root : String) {r : AnalysisResult} (h : r.summary.orphanedCount ≠ 0) :
    terminal root r = "\nFound " ++ toString r.summary.orphanedCount ++
      " potentially orphaned items:\n\n" ++ String.join ((groupByPath root r.findings).map fileBlock) ++
      summaryLines r := by
  rw [terminal, if_neg (by simpa [AnalysisResult.isClean] using h)]
  rfl

/-- The report of a run that found something prints, after the count, one block per file, each
headed by the file's path relative to the root: the paths in strictly ascending order, one for each
path that some finding has, and in each block exactly the findings under its path, in report
order. There is exactly one such grouping, and every finding is printed exactly once. -/
theorem terminal_groups_findings_by_path (root : String) (r : AnalysisResult)
    (h : r.summary.orphanedCount ≠ 0) :
    ∃! groups, GroupedByPath root r.findings groups ∧ (groups.flatMap Prod.snd).Perm r.findings ∧
      terminal root r = "\nFound " ++ toString r.summary.orphanedCount ++
        " potentially orphaned items:\n\n" ++ String.join (groups.map fileBlock) ++
        summaryLines r := by
  have hg := groupedByPath_groupByPath root r.findings
  refine ⟨groupByPath root r.findings, ⟨hg, hg.perm, terminal_of_ne_zero root h⟩, ?_⟩
  rintro groups ⟨hgroups, -, -⟩
  exact hgroups.unique hg

/-- Three findings in two files, the later path first, one of them outside the root. -/
theorem terminal_groups_findings_by_path_two_files :
    let f (file name : String) : OrphanFinding := OrphanFinding.make (.function
      { language := .javascript, file, startLine := 1, endLine := 1, snippet := "", name,
        isExported := false, references := [], confidence := 0.6 }) .minimalReferences
    let r : AnalysisResult :=
      { orphanedEndpoints := [],
        orphanedFunctions := [f "repo/web/b.js" "g", f "a.py" "h", f "repo/web/b.js" "k"],
        activeEndpoints := [],
        summary :=
          { totalEndpoints := 0, totalFunctions := 3, orphanedCount := 3,
            confidenceThreshold := 0.5, analysisMode := .pr } }
    r.summary.orphanedCount ≠ 0 ∧
      ∃! groups, GroupedByPath "repo" r.findings groups ∧
        (groups.flatMap Prod.snd).Perm r.findings ∧
        terminal "repo" r = "\nFound " ++ toString r.summary.orphanedCount ++
          " potentially orphaned items:\n\n" ++ String.join (groups.map fileBlock) ++
          summaryLines r := by
  intro f r
  exact ⟨by decide, terminal_groups_findings_by_path "repo" r (by decide)⟩

end OrphanedCode.Report
