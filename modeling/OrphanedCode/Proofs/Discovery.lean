import OrphanedCode.Proofs.Scan
import OrphanedCode.Config.Settings
/-!
Which files a scan discovers when ignore files are not read.

A file of a tree lies at a path of names: the names of the directories that hold it, then its own
name. Without ignore files the walk finds a file exactly when it passes over no directory on the
way there, a directory being passed over when its name starts with a dot or is excluded. Only the
directories below the root count: the root is entered whatever it is called, and a file is found
whatever its own name. Of the files found, the sources are those whose name has the extension of a
language, and in a tree as a file system holds it each is found once.
-/

namespace OrphanedCode

/-- A file that an entry holds, at its path of names from the entry: a file at its own name, and a
file inside a directory at the directory's name followed by its path there. -/
inductive Entry.HasFile : Entry → List String → List UInt8 → Prop
  | file {n : String} {bytes : List UInt8} : (Entry.file n bytes).HasFile [n] bytes
  | dir {n : String} {es : List Entry} {e : Entry} {names : List String} {bytes : List UInt8} :
      e ∈ es → e.HasFile names bytes → (Entry.dir n es).HasFile (n :: names) bytes

theorem Entry.hasFile_file_iff {n : String} {bytes bytes' : List UInt8} {names : List String} :
    (Entry.file n bytes).HasFile names bytes' ↔ names = [n] ∧ bytes' = bytes := by
  constructor
  · rintro ⟨⟩
    exact ⟨rfl, rfl⟩
  · rintro ⟨rfl, rfl⟩
    exact .file

theorem Entry.hasFile_dir_iff {n : String} {es : List Entry} {names : List String}
    {bytes : List UInt8} :
    (Entry.dir n es).HasFile names bytes ↔
      ∃ rest, names = n :: rest ∧ ∃ e ∈ es, e.HasFile rest bytes := by
  constructor
  · rintro (_ | ⟨he, hfile⟩)
    exact ⟨_, rfl, _, he, hfile⟩
  · rintro ⟨rest, rfl, e, he, hfile⟩
    exact .dir he hfile

theorem Entry.HasFile.ne_nil {e : Entry} {names : List String} {bytes : List UInt8}
    (h : e.HasFile names bytes) : names ≠ [] := by
  cases h <;> simp

/-- The directories on the way to a file of a directory are the directory itself, then those on
the way inside it. -/
theorem Entry.HasFile.dropLast_cons {e : Entry} {rest : List String} {bytes : List UInt8}
    (h : e.HasFile rest bytes) (n : String) : (n :: rest).dropLast = n :: rest.dropLast :=
  List.dropLast_cons_of_ne_nil h.ne_nil

namespace Workspace

section Plain

variable {opts : WalkOptions} (hplain : opts.respectIgnores = false)

include hplain

/-- Without ignore files, a list of entries leads the walk to exactly the files they hold behind
no directory that the walk passes over. -/
theorem mem_walkEntries_plain (levels : List IgnoreLevel) (path : List String) (es : List Entry)
    (r : Reached) :
    r ∈ walkEntries opts levels path es ↔ ∃ names, r.names = path ++ names ∧
      (∃ e ∈ es, e.HasFile names r.bytes) ∧ ∀ d ∈ names.dropLast, opts.skipsDir d = false := by
  -- one entry at a time: a directory's own name is the first name on the way to its files
  induction levels, path, es using walkEntries.induct opts _
    (fun levels path e => ∀ r, r ∈ walkEntry opts levels path e ↔
      ∃ names, r.names = path ++ names ∧ e.HasFile names r.bytes ∧
        ∀ d ∈ names.dropLast, opts.skipsDir d = false) generalizing r with
  | case1 levels path n bytes hignored => simp [hplain] at hignored
  | case2 levels path n bytes hkept r =>
    rw [walkEntry, if_neg hkept, List.mem_singleton]
    simp only [Entry.hasFile_file_iff]
    constructor
    · rintro rfl
      exact ⟨[n], rfl, ⟨rfl, rfl⟩, by simp⟩
    · rintro ⟨names, hnames, ⟨rfl, hbytes⟩, -⟩
      cases r
      simp_all
  | case3 levels path n entries hskip r =>
    rw [walkEntry, if_pos hskip]
    simp only [List.not_mem_nil, false_iff, not_exists, not_and, Entry.hasFile_dir_iff]
    rintro names - ⟨rest, rfl, e, -, hfile⟩ hopen
    rw [hfile.dropLast_cons, List.forall_mem_cons] at hopen
    simp [hplain, hopen.1] at hskip
  | case4 levels path n entries hskip outer inner ih r =>
    rw [walkEntry, if_neg hskip, ih r]
    simp only [Entry.hasFile_dir_iff]
    have hn : opts.skipsDir n = false := by simpa [hplain] using hskip
    constructor
    · rintro ⟨rest, hnames, ⟨e, he, hfile⟩, hopen⟩
      refine ⟨n :: rest, by simp [hnames], ⟨rest, rfl, e, he, hfile⟩, ?_⟩
      rw [hfile.dropLast_cons, List.forall_mem_cons]
      exact ⟨hn, hopen⟩
    · rintro ⟨names, hnames, ⟨rest, rfl, e, he, hfile⟩, hopen⟩
      rw [hfile.dropLast_cons, List.forall_mem_cons] at hopen
      exact ⟨rest, by simp [hnames], ⟨e, he, hfile⟩, hopen.2⟩
  | case5 levels path => simp [walkEntries]
  | case6 levels path e es ihe ihes =>
    rw [walkEntries, List.mem_append, ihe, ihes]
    constructor
    · rintro (⟨names, hnames, hfile, hopen⟩ | ⟨names, hnames, ⟨e', he', hfile⟩, hopen⟩)
      · exact ⟨names, hnames, ⟨e, List.mem_cons_self, hfile⟩, hopen⟩
      · exact ⟨names, hnames, ⟨e', List.mem_cons_of_mem _ he', hfile⟩, hopen⟩
    · rintro ⟨names, hnames, ⟨e', he', hfile⟩, hopen⟩
      rcases List.mem_cons.1 he' with rfl | he'
      · exact .inl ⟨names, hnames, hfile, hopen⟩
      · exact .inr ⟨names, hnames, ⟨e', he', hfile⟩, hopen⟩

/-- Without ignore files, the walk from a root finds exactly the files that the root's entries
hold behind no directory that the walk passes over. -/
theorem mem_walk_plain (entries : List Entry) (r : Reached) :
    r ∈ walk opts (.dir entries) ↔
      (∃ e ∈ entries, e.HasFile r.names r.bytes) ∧ ∀ d ∈ r.names.dropLast, opts.skipsDir d = false := by
  rw [walk, if_neg (by simp [hplain]), mem_walkEntries_plain hplain]
  simp

end Plain

/-- Without ignore files, the sources that a scan of a tree discovers are, once each, the files it
holds behind no directory whose name starts with a dot or is excluded, and whose own name has the
extension of a language, which is the source's language. Only the directories below the root are
looked at: the root is entered whatever it is called, and a file is kept whatever its own name. -/
theorem walk_finds_sources_outside_skipped_dirs (config : Config) (entries : List Entry)
    (hplain : config.respectGitignore = false) (hsound : SoundEntries entries) :
    ((sources (walk ⟨config.exclude, config.respectGitignore⟩ (.dir entries))).map
        (·.1.names)).Nodup ∧
      ∀ (names : List String) (bytes : List UInt8) (language : Language),
        (⟨names, bytes⟩, language) ∈
            sources (walk ⟨config.exclude, config.respectGitignore⟩ (.dir entries)) ↔
          (∃ e ∈ entries, e.HasFile names bytes) ∧
          (∀ d ∈ names.dropLast, d.startsWith "." = false ∧ d ∉ config.exclude) ∧
          (names.getLast?.bind SourcePath.extensionOfName?).bind Language.ofExtension? =
            some language := by
  refine ⟨nodup_names_sources (nodup_walk _ hsound), fun names bytes language => ?_⟩
  rw [mem_sources, mem_walk_plain hplain]
  have hexcluded : ∀ d, config.exclude.contains d = false ↔ d ∉ config.exclude := by
    intro d
    rw [← List.contains_iff_mem, Bool.not_eq_true]
  simp only [WalkOptions.skipsDir, Bool.or_eq_false_iff, hexcluded, and_assoc]
  rfl

/-- A tree with an excluded directory beside a file. -/
theorem walk_finds_sources_outside_skipped_dirs_excluded :
    ({ exclude := ["node_modules"] } : Config).respectGitignore = false ∧
      SoundEntries [.dir "node_modules" [.file "a.js" []], .file "b.js" []] ∧
      (((sources (walk ⟨["node_modules"], false⟩
          (.dir [.dir "node_modules" [.file "a.js" []], .file "b.js" []]))).map (·.1.names)).Nodup ∧
        ∀ (names : List String) (bytes : List UInt8) (language : Language),
          (⟨names, bytes⟩, language) ∈ sources (walk ⟨["node_modules"], false⟩
              (.dir [.dir "node_modules" [.file "a.js" []], .file "b.js" []])) ↔
            (∃ e ∈ [Entry.dir "node_modules" [.file "a.js" []], .file "b.js" []],
              e.HasFile names bytes) ∧
            (∀ d ∈ names.dropLast, d.startsWith "." = false ∧ d ∉ ["node_modules"]) ∧
            (names.getLast?.bind SourcePath.extensionOfName?).bind Language.ofExtension? =
              some language) := by
  have hsound : SoundEntries [.dir "node_modules" [.file "a.js" []], .file "b.js" []] := by
    refine ⟨by decide, ?_⟩
    simp only [List.mem_cons, List.not_mem_nil, or_false]
    rintro e (rfl | rfl)
    · refine .dir (by decide) (by decide) ?_
      simp only [List.mem_cons, List.not_mem_nil, or_false]
      rintro e rfl
      exact .file (by decide)
    · exact .file (by decide)
  exact ⟨rfl, hsound, walk_finds_sources_outside_skipped_dirs { exclude := ["node_modules"] } _ rfl hsound⟩

end Workspace

end OrphanedCode
