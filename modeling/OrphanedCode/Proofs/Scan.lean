import OrphanedCode.Workspace.Scan
import OrphanedCode.Proofs.Extract
import OrphanedCode.Proofs.PathOrder
import Mathlib.Data.List.Nodup
import Mathlib.Data.List.Pairwise
/-!
What a scan finds, and why it does not depend on the order of the walk.

In a tree as a file system holds it, no directory holds two entries of one name, and every name
stands for one component of a path: it is not empty, `.` or `..`, and holds no slash. The walk then
reaches each file once, and two files reached have paths that compare unequal, so the sources can
be put in strictly ascending order of their paths, in exactly one way. A scan reads the sources in
the order the walk reaches them and then sorts the declarations by file and line. Declarations
read in ascending order of paths are already so sorted, each file's in line order; and a list whose
keys strictly ascend is the only sorted arrangement of its members. So a scan holds the
declarations of the readable sources taken in ascending order of their paths, whatever the order of
the walk, and no two declarations of one kind share a file and a line.
-/

namespace OrphanedCode

namespace Workspace

/-! ## Trees as a file system holds them -/

/-- A tree as a file system holds it: no name holds a slash, and no directory holds two entries
of one name. -/
inductive Sound : Entry → Prop
  | file {n : String} {bytes : List UInt8} : '/' ∉ n.toList → Sound (.file n bytes)
  | dir {n : String} {es : List Entry} : '/' ∉ n.toList → (es.map Entry.name).Nodup →
      (∀ e ∈ es, Sound e) → Sound (.dir n es)

/-- The entries of a directory as a file system holds them. -/
def SoundEntries (es : List Entry) : Prop :=
  (es.map Entry.name).Nodup ∧ ∀ e ∈ es, Sound e

/-- Every name in a tree has the property `P`. -/
inductive EveryName (P : String → Prop) : Entry → Prop
  | file {n : String} {bytes : List UInt8} : P n → EveryName P (.file n bytes)
  | dir {n : String} {es : List Entry} : P n → (∀ e ∈ es, EveryName P e) → EveryName P (.dir n es)

theorem Sound.everyName {e : Entry} (h : Sound e) : EveryName (fun n => '/' ∉ n.toList) e := by
  induction h with
  | file hn => exact .file hn
  | dir hn _ _ ih => exact .dir hn ih

/-! ## The files a walk reaches -/

section Walk

variable (opts : WalkOptions)

theorem mem_walkEntries {levels : List IgnoreLevel} {path : List String} {es : List Entry}
    {r : Reached} : r ∈ walkEntries opts levels path es ↔ ∃ e ∈ es, r ∈ walkEntry opts levels path e := by
  induction es with
  | nil => simp [walkEntries]
  | cons e es ih => simp [walkEntries, ih]

/-- A file reached below an entry has the entry's name right after the path, and every name of
the entry's tree after it. -/
theorem names_walkEntry {P : String → Prop} {e : Entry} (hP : EveryName P e) :
    ∀ levels path, ∀ r ∈ walkEntry opts levels path e,
      ∃ rest, r.names = path ++ e.name :: rest ∧ ∀ n ∈ e.name :: rest, P n := by
  induction hP with
  | file hn =>
    intro levels path r hr
    rw [walkEntry] at hr
    split at hr
    · cases hr
    · rw [List.mem_singleton] at hr
      subst hr
      exact ⟨[], rfl, by simpa [Entry.name] using hn⟩
  | dir hn hsub ih =>
    intro levels path r hr
    rw [walkEntry] at hr
    split at hr
    · cases hr
    · obtain ⟨e, he, hr⟩ := (mem_walkEntries opts).1 hr
      obtain ⟨rest, hnames, hclean⟩ := ih e he _ _ r hr
      refine ⟨e.name :: rest, by rw [hnames]; simp [Entry.name], fun m hm => ?_⟩
      rcases List.mem_cons.1 hm with rfl | hm
      · exact hn
      · exact hclean m hm

theorem nodup_walkEntries {es : List Entry} (hnd : (es.map Entry.name).Nodup)
    (hsub : ∀ e ∈ es, Sound e)
    (h : ∀ e ∈ es, ∀ levels path, ((walkEntry opts levels path e).map (·.names)).Nodup) :
    ∀ levels path, ((walkEntries opts levels path es).map (·.names)).Nodup := by
  induction es with
  | nil => intro _ _; simp [walkEntries]
  | cons e es ih =>
    intro levels path
    rw [List.map_cons, List.nodup_cons] at hnd
    rw [walkEntries, List.map_append, List.nodup_append]
    refine ⟨h e List.mem_cons_self levels path,
      ih hnd.2 (fun e he => hsub e (List.mem_cons_of_mem _ he))
        (fun e he => h e (List.mem_cons_of_mem _ he)) levels path, ?_⟩
    -- the files below `e` follow the path with its name, the others with another name
    intro a ha b hb hab
    obtain ⟨r, hr, rfl⟩ := List.mem_map.1 ha
    obtain ⟨s, hs, rfl⟩ := List.mem_map.1 hb
    obtain ⟨rest, hrn, -⟩ :=
      names_walkEntry opts (hsub e List.mem_cons_self).everyName levels path r hr
    obtain ⟨e', he', hs'⟩ := (mem_walkEntries opts).1 hs
    obtain ⟨rest', hsn, -⟩ :=
      names_walkEntry opts (hsub e' (List.mem_cons_of_mem _ he')).everyName levels path s hs'
    rw [hrn, hsn, List.append_cancel_left_eq, List.cons.injEq] at hab
    exact hnd.1 (hab.1 ▸ List.mem_map_of_mem he')

theorem nodup_walkEntry {e : Entry} (hs : Sound e) :
    ∀ levels path, ((walkEntry opts levels path e).map (·.names)).Nodup := by
  induction hs with
  | file hn =>
    intro levels path
    rw [walkEntry]
    split <;> simp
  | dir hn hnd hsub ih =>
    intro levels path
    rw [walkEntry]
    split
    · simp
    · exact nodup_walkEntries opts hnd hsub ih _ _

/-- In a sound tree the walk reaches no two files under one path of names. -/
theorem nodup_walk {entries : List Entry} (h : SoundEntries entries) :
    ((walk opts (.dir entries)).map (·.names)).Nodup :=
  nodup_walkEntries opts h.1 h.2 (fun e he => nodup_walkEntry opts (h.2 e he)) _ _

/-- The walk reaches files under non-empty paths of names of the tree. -/
theorem names_walk {P : String → Prop} {entries : List Entry} (h : ∀ e ∈ entries, EveryName P e) :
    ∀ r ∈ walk opts (.dir entries), r.names ≠ [] ∧ ∀ n ∈ r.names, P n := by
  intro r hr
  obtain ⟨e, he, hr⟩ := (mem_walkEntries opts).1 hr
  obtain ⟨rest, hnames, hclean⟩ := names_walkEntry opts (h e he) _ [] r hr
  rw [hnames, List.nil_append]
  exact ⟨List.cons_ne_nil _ _, hclean⟩

end Walk

/-! ## Paths -/

/-- Files under paths of names of components below one root have paths that compare equal only
when their names are the same. -/
theorem Reached.names_eq_of_compare_path_eq {r s : Reached} {rootName : String}
    (hr : r.names ≠ [] ∧ ∀ n ∈ r.names, SourcePath.IsComponentName n)
    (hs : s.names ≠ [] ∧ ∀ n ∈ s.names, SourcePath.IsComponentName n)
    (h : SourcePath.compare (r.path rootName) (s.path rootName) = .eq) : r.names = s.names := by
  rw [SourcePath.compare_eq_eq_iff, Reached.path, Reached.path,
    SourcePath.components_join _ hr.1 hr.2, SourcePath.components_join _ hs.1 hs.2,
    List.append_cancel_left_eq] at h
  exact (List.map_inj_right fun _ _ h => SourcePath.Component.normal.inj h).1 h

/-! ## Sources -/

theorem mem_sources {reached : List Reached} {p : Reached × Language} :
    p ∈ sources reached ↔ p.1 ∈ reached ∧ p.1.language? = some p.2 := by
  obtain ⟨r, language⟩ := p
  simp only [sources, List.mem_filterMap, Option.map_eq_some_iff, Prod.mk.injEq]
  constructor
  · rintro ⟨r', hr', l, hl, rfl, rfl⟩
    exact ⟨hr', hl⟩
  · rintro ⟨hr, hl⟩
    exact ⟨r, hr, language, hl, rfl, rfl⟩

theorem nodup_names_sources {reached : List Reached} (hnd : (reached.map (·.names)).Nodup) :
    ((sources reached).map (·.1.names)).Nodup := by
  rw [List.Nodup, List.pairwise_map, sources, List.pairwise_filterMap]
  rw [List.Nodup, List.pairwise_map] at hnd
  refine hnd.imp fun hne p hp q hq => ?_
  obtain ⟨_, -, rfl⟩ := Option.map_eq_some_iff.1 hp
  obtain ⟨_, -, rfl⟩ := Option.map_eq_some_iff.1 hq
  exact hne

/-- The declarations a scan reads from a source, when it is UTF-8. -/
def Reached.extraction? (r : Reached) (rootName : String) (language : Language) :
    Option FileFinding :=
  (Text.ofUtf8? r.bytes).map fun text => Extract.file (r.path rootName) language text

end Workspace

/-! ## Inventories -/

namespace Inventory

open Workspace

/-- The inventory of sources read in the given order: the declarations of those that are UTF-8,
in order, their number, and the number of the others. -/
def ofSources (rootName : String) (ps : List (Reached × Language)) : Inventory :=
  let found := ps.filterMap fun p => p.1.extraction? rootName p.2
  ⟨found.flatMap (·.endpoints), found.flatMap (·.functions), found.length,
    ps.countP fun p => (Text.ofUtf8? p.1.bytes).isNone⟩

theorem foldl_addFile (rootName : String) (ps : List (Reached × Language)) (inv : Inventory) :
    ps.foldl (fun inv (r, language) => inv.addFile (r.path rootName) language r.bytes) inv =
      ⟨inv.endpoints ++ (ofSources rootName ps).endpoints,
        inv.functions ++ (ofSources rootName ps).functions,
        inv.filesScanned + (ofSources rootName ps).filesScanned,
        inv.filesSkipped + (ofSources rootName ps).filesSkipped⟩ := by
  induction ps generalizing inv with
  | nil => simp [ofSources]
  | cons p ps ih =>
    obtain ⟨r, language⟩ := p
    rw [List.foldl_cons, ih]
    unfold addFile
    cases ht : Text.ofUtf8? r.bytes with
    | none =>
      simp [ofSources, Reached.extraction?, ht]
      omega
    | some text =>
      simp [ofSources, Reached.extraction?, ht]
      omega

/-! ## Sorting by file and line -/

theorem ne_gt_eq_isLE (o : Ordering) : (o != .gt) = o.isLE := by
  cases o <;> rfl

theorem compareFileLine_swap (a b : String × Nat) :
    compareFileLine a b = (compareFileLine b a).swap := by
  rw [compareFileLine, compareFileLine, Ordering.swap_then, ← SourcePath.compare_swap,
    ← Std.OrientedOrd.eq_swap]

theorem compareFileLine_self (a : String × Nat) : compareFileLine a a = .eq := by
  rw [compareFileLine, SourcePath.compare_self, Std.ReflOrd.compare_self]
  rfl

instance : Std.TransCmp compareFileLine where
  eq_swap := compareFileLine_swap _ _
  isLE_trans {a b c} hab hbc := by
    simp only [compareFileLine, Ordering.isLE_then_iff_and] at *
    refine ⟨Std.TransCmp.isLE_trans hab.1 hbc.1, ?_⟩
    rcases hab.2 with hab' | hab'
    · exact .inl (Std.TransCmp.lt_of_lt_of_isLE hab' hbc.1)
    · rcases hbc.2 with hbc' | hbc'
      · exact .inl (Std.TransCmp.lt_of_isLE_of_lt hab.1 hbc')
      · exact .inr (Std.TransOrd.isLE_trans hab' hbc')

section Sorting

variable {β : Type} (key : β → String × Nat)

theorem mem_sortByFileLine {xs : List β} {b : β} : b ∈ sortByFileLine key xs ↔ b ∈ xs :=
  List.mem_mergeSort

theorem pairwise_sortByFileLine (xs : List β) :
    (sortByFileLine key xs).Pairwise fun a b => (compareFileLine (key a) (key b)).isLE := by
  refine (List.pairwise_mergeSort (fun a b c hab hbc => ?_) (fun a b => ?_) xs).imp fun h => ?_
  · rw [ne_gt_eq_isLE] at *
    exact Std.TransCmp.isLE_trans hab hbc
  · rw [ne_gt_eq_isLE, ne_gt_eq_isLE, compareFileLine_swap (key b)]
    cases compareFileLine (key a) (key b) <;> rfl
  · rwa [ne_gt_eq_isLE] at h

/-- Sorting by file and line gives the one arrangement of the declarations whose keys strictly
ascend, when there is one. -/
theorem sortByFileLine_eq {xs ys : List β} (hperm : ys.Perm xs)
    (hys : ys.Pairwise fun a b => compareFileLine (key a) (key b) = .lt) :
    sortByFileLine key xs = ys := by
  -- two members of `ys` whose keys compare equal are one
  have : Std.Symm fun a b : β => compareFileLine (key a) (key b) ≠ .eq :=
    ⟨fun a b h heq => h (by rw [compareFileLine_swap, heq]; rfl)⟩
  have hdistinct := (hys.imp (S := fun a b => compareFileLine (key a) (key b) ≠ .eq)
    fun h => by rw [h]; decide).forall
  have hsorted := pairwise_sortByFileLine key xs
  refine List.Perm.eq_of_pairwise (fun a b ha hb hab hba => ?_) hsorted
    (hys.imp fun h => by rw [h]; rfl) ((List.mergeSort_perm _ _).trans hperm.symm)
  have ha' : a ∈ ys := hperm.symm.subset ((mem_sortByFileLine key).1 ha)
  by_contra hne
  exact hdistinct ha' hb hne (Std.OrientedCmp.isLE_antisymm hab hba)

/-- Declarations whose keys strictly ascend have distinct keys. -/
theorem nodup_keys_of_pairwise {xs : List β}
    (h : xs.Pairwise fun a b => compareFileLine (key a) (key b) = .lt) : (xs.map key).Nodup := by
  rw [List.Nodup, List.pairwise_map]
  refine h.imp fun hlt heq => ?_
  rw [heq, compareFileLine_self] at hlt
  cases hlt

end Sorting

/-- A scan of reached files is the inventory of their sources read in the order they were reached,
its declarations sorted by file and line. -/
theorem ofReached_eq (rootName : String) (reached : List Reached) :
    ofReached rootName reached =
      ⟨sortByFileLine (fun e => (e.file, e.startLine))
          (ofSources rootName (sources reached)).endpoints,
        sortByFileLine (fun f => (f.file, f.startLine))
          (ofSources rootName (sources reached)).functions,
        (ofSources rootName (sources reached)).filesScanned,
        (ofSources rootName (sources reached)).filesSkipped⟩ := by
  rw [ofReached, foldl_addFile]
  simp only [empty, List.nil_append, Nat.zero_add]

theorem mem_functions_ofSources {rootName : String} {ps : List (Reached × Language)}
    {f : CodeFunction} :
    f ∈ (ofSources rootName ps).functions ↔
      ∃ p ∈ ps, ∃ found, p.1.extraction? rootName p.2 = some found ∧ f ∈ found.functions := by
  simp only [ofSources, List.mem_flatMap, List.mem_filterMap]
  constructor
  · rintro ⟨found, ⟨p, hp, hfound⟩, hf⟩
    exact ⟨p, hp, found, hfound, hf⟩
  · rintro ⟨p, hp, found, hfound, hf⟩
    exact ⟨found, ⟨p, hp, hfound⟩, hf⟩

/-- Every function a scan finds has a word for its name. -/
theorem isWord_name_of_mem_scan {opts : WalkOptions} {rootName : String} {root : WorkspaceRoot}
    {f : CodeFunction} (hf : f ∈ (scan opts rootName root).functions) :
    Text.isWord f.name.toList = true := by
  rw [scan, ofReached_eq, mem_sortByFileLine, mem_functions_ofSources] at hf
  obtain ⟨p, -, found, hfound, hf⟩ := hf
  obtain ⟨text, -, rfl⟩ := Option.map_eq_some_iff.1 hfound
  exact Extract.isWord_name_of_mem_functions hf

/-- Declarations read from sources in strictly ascending order of their paths strictly ascend by
file and line, when each file names its own path and orders its declarations by line. -/
theorem pairwise_declarations {β : Type} (sel : FileFinding → List β) (key : β → String × Nat)
    (hfile : ∀ path language text, ∀ b ∈ sel (Extract.file path language text), (key b).1 = path)
    (hline : ∀ path language text,
      (sel (Extract.file path language text)).Pairwise fun a b => (key a).2 < (key b).2)
    {rootName : String} {ps : List (Reached × Language)}
    (hsorted : ps.Pairwise fun p q =>
      SourcePath.compare (p.1.path rootName) (q.1.path rootName) = .lt) :
    ((ps.filterMap fun p => p.1.extraction? rootName p.2).flatMap sel).Pairwise
      fun a b => compareFileLine (key a) (key b) = .lt := by
  rw [List.pairwise_flatMap, List.pairwise_filterMap]
  constructor
  · -- one file: its declarations are on increasing lines of its path
    intro found hfound
    obtain ⟨p, -, hp⟩ := List.mem_filterMap.1 hfound
    obtain ⟨text, -, rfl⟩ := Option.map_eq_some_iff.1 hp
    refine (hline _ _ _).imp_of_mem fun ha hb hlt => ?_
    rw [compareFileLine, hfile _ _ _ _ ha, hfile _ _ _ _ hb, SourcePath.compare_self,
      Nat.compare_eq_lt.2 hlt]
    rfl
  · -- two files: their paths strictly ascend
    refine hsorted.imp fun hpq found hp found' hq a ha b hb => ?_
    obtain ⟨text, -, rfl⟩ := Option.map_eq_some_iff.1 hp
    obtain ⟨text', -, rfl⟩ := Option.map_eq_some_iff.1 hq
    rw [compareFileLine, hfile _ _ _ _ ha, hfile _ _ _ _ hb, hpq]
    rfl

/-- Sources in strictly ascending order of their paths give the scan of the files reached, in
whatever order they were reached: the same counts, and the declarations of the readable ones in
that order. -/
theorem ofReached_eq_ofSources {rootName : String} {reached : List Reached}
    {sorted : List (Reached × Language)} (hperm : sorted.Perm (sources reached))
    (hsorted : sorted.Pairwise fun p q =>
      SourcePath.compare (p.1.path rootName) (q.1.path rootName) = .lt) :
    ofReached rootName reached = ofSources rootName sorted := by
  have hfound : (sorted.filterMap fun p => p.1.extraction? rootName p.2).Perm
      ((sources reached).filterMap fun p => p.1.extraction? rootName p.2) := hperm.filterMap _
  rw [ofReached_eq]
  simp only [ofSources, Inventory.mk.injEq]
  refine ⟨?_, ?_, hfound.length_eq.symm, (hperm.countP_eq _).symm⟩
  · exact sortByFileLine_eq _ (hfound.flatMap_right _)
      (pairwise_declarations (·.endpoints) _ (fun _ _ _ _ he => Extract.file_of_mem_endpoints he)
        (fun _ _ _ => Extract.pairwise_startLine_endpoints) hsorted)
  · exact sortByFileLine_eq _ (hfound.flatMap_right _)
      (pairwise_declarations (·.functions) _ (fun _ _ _ _ hf => Extract.file_of_mem_functions hf)
        (fun _ _ _ => Extract.pairwise_startLine_functions) hsorted)

end Inventory

/-! ## Scans of sound trees -/

namespace Workspace

section Sound

variable {entries : List Entry}

/-- In a sound tree whose names are names of components, the sources can be put in strictly
ascending order of their paths. -/
theorem exists_sources_in_path_order (opts : WalkOptions) (rootName : String)
    (hsound : SoundEntries entries)
    (hnamed : ∀ e ∈ entries, EveryName SourcePath.IsComponentName e) :
    ∃ sorted : List (Reached × Language), sorted.Perm (sources (walk opts (.dir entries))) ∧
      sorted.Pairwise fun a b =>
        SourcePath.compare (a.1.path rootName) (b.1.path rootName) = .lt := by
  let le := fun a b : Reached × Language =>
    SourcePath.compare (a.1.path rootName) (b.1.path rootName) != .gt
  have htrans : ∀ a b c, le a b = true → le b c = true → le a c = true := by
    intro a b c hab hbc
    simp only [le, Inventory.ne_gt_eq_isLE] at *
    exact Std.TransCmp.isLE_trans hab hbc
  have htotal : ∀ a b, (le a b || le b a) = true := by
    intro a b
    simp only [le, Inventory.ne_gt_eq_isLE, SourcePath.compare_swap (b.1.path rootName)]
    cases SourcePath.compare (a.1.path rootName) (b.1.path rootName) <;> rfl
  have hnd := nodup_names_sources (nodup_walk opts hsound)
  -- two sources whose paths compare equal have the same names, so are one
  have hone : ∀ a ∈ sources (walk opts (.dir entries)), ∀ b ∈ sources (walk opts (.dir entries)),
      SourcePath.compare (a.1.path rootName) (b.1.path rootName) = .eq → a = b := by
    intro a ha b hb h
    have hnames := names_walk opts hnamed
    exact List.inj_on_of_nodup_map hnd ha hb (Reached.names_eq_of_compare_path_eq
      (hnames _ (mem_sources.1 ha).1) (hnames _ (mem_sources.1 hb).1) h)
  have hperm := List.mergeSort_perm (sources (walk opts (.dir entries))) le
  refine ⟨_, hperm, ?_⟩
  refine ((List.pairwise_mergeSort htrans htotal _).and ((hnd.of_map _).perm hperm.symm)).imp_of_mem
    fun {a b} ha hb hab => ?_
  cases h : SourcePath.compare (a.1.path rootName) (b.1.path rootName) with
  | lt => rfl
  | eq => exact absurd (hone _ (hperm.subset ha) _ (hperm.subset hb) h) hab.2
  | gt => simp [le, h] at hab

/-- A scan of a tree as a file system holds it does not depend on the order in which the walk
reaches the files. It counts as scanned the sources that are UTF-8 and as skipped the others, and
no two of its endpoints and no two of its functions share a file and a line. The sources can be put
in strictly ascending order of their paths, and in that order the scan holds the declarations of
the scanned sources, each file's in line order. -/
theorem scan_reads_sources_in_path_order (opts : WalkOptions) (rootName : String)
    (entries : List Entry) (hsound : SoundEntries entries)
    (hnamed : ∀ e ∈ entries, EveryName SourcePath.IsComponentName e)
    (ws : List Reached) (hws : ws.Perm (walk opts (.dir entries))) :
    Inventory.ofReached rootName ws = Inventory.scan opts rootName (.dir entries) ∧
      (Inventory.scan opts rootName (.dir entries)).filesScanned =
        (sources (walk opts (.dir entries))).countP (fun p => (Text.ofUtf8? p.1.bytes).isSome) ∧
      (Inventory.scan opts rootName (.dir entries)).filesSkipped =
        (sources (walk opts (.dir entries))).countP (fun p => (Text.ofUtf8? p.1.bytes).isNone) ∧
      ((Inventory.scan opts rootName (.dir entries)).endpoints.map
        fun e => (e.file, e.startLine)).Nodup ∧
      ((Inventory.scan opts rootName (.dir entries)).functions.map
        fun f => (f.file, f.startLine)).Nodup ∧
      (∃ sorted : List (Reached × Language), sorted.Perm (sources (walk opts (.dir entries))) ∧
        sorted.Pairwise fun a b =>
          SourcePath.compare (a.1.path rootName) (b.1.path rootName) = .lt) ∧
      ∀ sorted : List (Reached × Language), sorted.Perm (sources (walk opts (.dir entries))) →
        (sorted.Pairwise fun a b =>
          SourcePath.compare (a.1.path rootName) (b.1.path rootName) = .lt) →
        (Inventory.scan opts rootName (.dir entries)).endpoints =
            (sorted.filterMap fun p => p.1.extraction? rootName p.2).flatMap (·.endpoints) ∧
          (Inventory.scan opts rootName (.dir entries)).functions =
            (sorted.filterMap fun p => p.1.extraction? rootName p.2).flatMap (·.functions) := by
  obtain ⟨sorted, hperm, hsorted⟩ := exists_sources_in_path_order opts rootName hsound hnamed
  have hscan : Inventory.scan opts rootName (.dir entries) = Inventory.ofSources rootName sorted :=
    Inventory.ofReached_eq_ofSources hperm hsorted
  refine ⟨?_, ?_, ?_, ?_, ?_, ⟨sorted, hperm, hsorted⟩, fun sorted' hperm' hsorted' => ?_⟩
  · rw [hscan, Inventory.ofReached_eq_ofSources (hperm.trans (hws.filterMap _).symm) hsorted]
  · rw [hscan]
    show (sorted.filterMap _).length = _
    rw [List.length_filterMap_eq_countP, ← hperm.countP_eq]
    simp [Reached.extraction?]
  · rw [hscan]
    exact hperm.countP_eq _
  · rw [hscan]
    exact Inventory.nodup_keys_of_pairwise _ (Inventory.pairwise_declarations (·.endpoints) _
      (fun _ _ _ _ he => Extract.file_of_mem_endpoints he)
      (fun _ _ _ => Extract.pairwise_startLine_endpoints) hsorted)
  · rw [hscan]
    exact Inventory.nodup_keys_of_pairwise _ (Inventory.pairwise_declarations (·.functions) _
      (fun _ _ _ _ hf => Extract.file_of_mem_functions hf)
      (fun _ _ _ => Extract.pairwise_startLine_functions) hsorted)
  · rw [Inventory.scan, Inventory.ofReached_eq_ofSources hperm' hsorted']
    exact ⟨rfl, rfl⟩

/-- Two sources reached against the order of their paths. -/
theorem scan_reads_two_sources_in_path_order :
    let entries : List Entry := [.file "b.js" [], .file "a.js" []]
    SoundEntries entries ∧ (∀ e ∈ entries, EveryName SourcePath.IsComponentName e) ∧
      (walk {} (.dir entries)).reverse.Perm (walk {} (.dir entries)) ∧
      (Inventory.ofReached "app" (walk {} (.dir entries)).reverse =
          Inventory.scan {} "app" (.dir entries) ∧
        (Inventory.scan {} "app" (.dir entries)).filesScanned =
          (sources (walk {} (.dir entries))).countP (fun p => (Text.ofUtf8? p.1.bytes).isSome) ∧
        (Inventory.scan {} "app" (.dir entries)).filesSkipped =
          (sources (walk {} (.dir entries))).countP (fun p => (Text.ofUtf8? p.1.bytes).isNone) ∧
        ((Inventory.scan {} "app" (.dir entries)).endpoints.map
          fun e => (e.file, e.startLine)).Nodup ∧
        ((Inventory.scan {} "app" (.dir entries)).functions.map
          fun f => (f.file, f.startLine)).Nodup ∧
        (∃ sorted : List (Reached × Language), sorted.Perm (sources (walk {} (.dir entries))) ∧
          sorted.Pairwise fun a b =>
            SourcePath.compare (a.1.path "app") (b.1.path "app") = .lt) ∧
        ∀ sorted : List (Reached × Language), sorted.Perm (sources (walk {} (.dir entries))) →
          (sorted.Pairwise fun a b =>
            SourcePath.compare (a.1.path "app") (b.1.path "app") = .lt) →
          (Inventory.scan {} "app" (.dir entries)).endpoints =
              (sorted.filterMap fun p => p.1.extraction? "app" p.2).flatMap (·.endpoints) ∧
            (Inventory.scan {} "app" (.dir entries)).functions =
              (sorted.filterMap fun p => p.1.extraction? "app" p.2).flatMap (·.functions)) := by
  intro entries
  have hsound : SoundEntries entries := by
    refine ⟨by decide, ?_⟩
    simp only [entries, List.mem_cons, List.not_mem_nil, or_false]
    rintro e (rfl | rfl)
    · exact .file (by decide)
    · exact .file (by decide)
  have hnamed : ∀ e ∈ entries, EveryName SourcePath.IsComponentName e := by
    simp only [entries, List.mem_cons, List.not_mem_nil, or_false]
    rintro e (rfl | rfl)
    · exact .file ⟨by decide, by decide, by decide, by decide⟩
    · exact .file ⟨by decide, by decide, by decide, by decide⟩
  exact ⟨hsound, hnamed, List.reverse_perm _,
    scan_reads_sources_in_path_order {} "app" entries hsound hnamed _ (List.reverse_perm _)⟩

end Sound

end Workspace

end OrphanedCode
