import OrphanedCode.Report.Workflow
import OrphanedCode.Proofs.Text
import Mathlib.Data.List.Forall2
import Mathlib.Tactic.SplitIfs
/-!
Workflow warnings read back.

A warning is `::warning ` followed by its properties, `::` and its message. Escaping writes `%`,
carriage return and line feed as percent escapes in both parts, and also the colon and the comma in
a property, so the properties contain no colon and split at their commas into exactly the four
`key=value` pairs. A runner undoes the escapes by replacing, in turn, the escapes of carriage
return, line feed, colon and comma, and the escape of `%` last: since every `%` of an escaped text
starts an escape, each replacement meets only the escapes it is meant for, and the chain gives back
every value and the message exactly, whatever characters they hold.
-/

namespace OrphanedCode.Report

/-! ## Replacing text -/

/-- Replaces each occurrence of `pat` by `rep`, scanning from the left and going on after each
replacement, as string replacement does. -/
def replaceText (pat rep : List Char) : List Char → List Char
  | [] => []
  | c :: cs =>
    if h : pat ≠ [] ∧ pat <+: c :: cs then
      have : 0 < pat.length := List.length_pos_iff.2 h.1
      rep ++ replaceText pat rep ((c :: cs).drop pat.length)
    else c :: replaceText pat rep cs
termination_by cs => cs.length

/-- A percent escape: `%` and two characters other than `%`. -/
def IsEscape (u : List Char) : Prop :=
  ∃ a b, u = ['%', a, b] ∧ a ≠ '%' ∧ b ≠ '%'

section Replace

variable {pat rep : List Char}

@[simp] theorem replaceText_nil : replaceText pat rep [] = [] := by
  rw [replaceText.eq_1]

theorem replaceText_cons_of_not_prefix {c : Char} {cs : List Char} (h : ¬pat <+: c :: cs) :
    replaceText pat rep (c :: cs) = c :: replaceText pat rep cs := by
  rw [replaceText.eq_2, dif_neg (fun h' => h h'.2)]

theorem replaceText_pattern_append (hpat : pat ≠ []) (l : List Char) :
    replaceText pat rep (pat ++ l) = rep ++ replaceText pat rep l := by
  obtain ⟨p, ps, rfl⟩ := List.exists_cons_of_ne_nil hpat
  rw [List.cons_append, replaceText.eq_2, dif_pos ⟨hpat, List.prefix_append _ _⟩]
  simp

/-- Text without `%` is passed over unchanged when the pattern starts with `%`. -/
theorem replaceText_append_of_not_mem (hpat : pat.head? = some '%') {u : List Char} (hu : '%' ∉ u)
    (l : List Char) : replaceText pat rep (u ++ l) = u ++ replaceText pat rep l := by
  induction u with
  | nil => rfl
  | cons c u ih =>
    have hc : c ≠ '%' := fun h => hu (h ▸ List.mem_cons_self)
    have hnot : ¬pat <+: c :: (u ++ l) := by
      intro hpre
      obtain ⟨p, ps, rfl⟩ := List.exists_cons_of_ne_nil (show pat ≠ [] by rintro rfl; cases hpat)
      simp only [List.head?_cons, Option.some.injEq] at hpat
      exact hc ((List.cons_prefix_cons.1 hpre).1 ▸ hpat)
    rw [List.cons_append, replaceText_cons_of_not_prefix hnot,
      ih fun h => hu (List.mem_cons_of_mem _ h), List.cons_append]

/-- An escape other than the pattern is passed over unchanged. -/
theorem replaceText_escape_append (hpat : IsEscape pat) {u : List Char} (hu : IsEscape u)
    (hne : u ≠ pat) (l : List Char) : replaceText pat rep (u ++ l) = u ++ replaceText pat rep l := by
  obtain ⟨x, y, rfl, -, -⟩ := hpat
  obtain ⟨a, b, rfl, ha, hb⟩ := hu
  have hnot : ¬['%', x, y] <+: '%' :: ([a, b] ++ l) := by
    intro hpre
    simp only [List.cons_append, List.nil_append, List.cons_prefix_cons, List.nil_prefix, and_true,
      true_and] at hpre
    exact hne (by rw [hpre.1, hpre.2])
  have hrest : replaceText ['%', x, y] rep ([a, b] ++ l) = [a, b] ++ replaceText ['%', x, y] rep l :=
    replaceText_append_of_not_mem rfl (by simp [Ne.symm ha, Ne.symm hb]) l
  rw [List.cons_append, replaceText_cons_of_not_prefix hnot, hrest]
  rfl

/-- Over text cut into escapes and pieces without `%`, replacing an escape replaces exactly the
pieces equal to it. -/
theorem replaceText_flatMap (hpat : IsEscape pat) {f : Char → List Char}
    (hf : ∀ c, IsEscape (f c) ∨ '%' ∉ f c) (cs : List Char) :
    replaceText pat rep (cs.flatMap f) = cs.flatMap fun c => if f c = pat then rep else f c := by
  have hpat_ne : pat ≠ [] := by obtain ⟨x, y, rfl, -⟩ := hpat; simp
  have hhead : pat.head? = some '%' := by obtain ⟨x, y, rfl, -⟩ := hpat; rfl
  induction cs with
  | nil => simp
  | cons c cs ih =>
    rw [List.flatMap_cons, List.flatMap_cons, ← ih]
    by_cases heq : f c = pat
    · rw [if_pos heq, heq, replaceText_pattern_append hpat_ne]
    · rw [if_neg heq]
      rcases hf c with hesc | hno
      · exact replaceText_escape_append hpat hesc heq _
      · exact replaceText_append_of_not_mem hhead hno _

end Replace

/-! ## Escapes, one character at a time -/

/-- The escape of a character in a property; other characters stand for themselves. -/
def escapeOf (c : Char) : List Char :=
  if c = '%' then ['%', '2', '5']
  else if c = '\r' then ['%', '0', 'D']
  else if c = '\n' then ['%', '0', 'A']
  else if c = ':' then ['%', '3', 'A']
  else if c = ',' then ['%', '2', 'C']
  else [c]

/-- A character written as itself when `kept` says so, and by its escape otherwise. -/
def partlyEscaped (kept : Char → Bool) (c : Char) : List Char :=
  if kept c then [c] else escapeOf c

/-- The characters that have an escape. -/
def escapedChars : List Char := ['%', '\r', '\n', ':', ',']

theorem escapeOf_of_not_mem {c : Char} (h : c ∉ escapedChars) : escapeOf c = [c] := by
  simp only [escapedChars, List.mem_cons, List.not_mem_nil, or_false, not_or] at h
  simp [escapeOf, h]

theorem isEscape_escapeOf {c : Char} (h : c ∈ escapedChars) : IsEscape (escapeOf c) := by
  simp only [escapedChars, List.mem_cons, List.not_mem_nil, or_false] at h
  rcases h with rfl | rfl | rfl | rfl | rfl <;> exact ⟨_, _, rfl, by decide, by decide⟩

theorem escapeOf_injective {c d : Char} (h : escapeOf c = escapeOf d) : c = d := by
  unfold escapeOf at h
  split_ifs at h <;> simp_all

theorem partlyEscaped_eq_escapeOf_iff {kept : Char → Bool} {c x : Char} (hx : x ∈ escapedChars) :
    partlyEscaped kept c = escapeOf x ↔ kept c = false ∧ c = x := by
  obtain ⟨a, b, hab, -⟩ := isEscape_escapeOf hx
  unfold partlyEscaped
  constructor
  · intro h
    split at h
    · rw [hab] at h
      cases h
    · exact ⟨by simpa using ‹¬kept c = true›, escapeOf_injective h⟩
  · rintro ⟨hkept, rfl⟩
    simp [hkept]

/-- A piece of partly escaped text is an escape or holds no `%`, as long as `%` is not kept. -/
theorem partlyEscaped_piece {kept : Char → Bool} (hkept : kept '%' = false) (c : Char) :
    IsEscape (partlyEscaped kept c) ∨ '%' ∉ partlyEscaped kept c := by
  unfold partlyEscaped
  split
  · rename_i hc
    refine .inr fun hmem => ?_
    rw [List.mem_singleton] at hmem
    subst hmem
    simp_all
  · by_cases hmem : c ∈ escapedChars
    · exact .inl (isEscape_escapeOf hmem)
    · right
      rw [escapeOf_of_not_mem hmem, List.mem_singleton]
      rintro rfl
      exact hmem (by simp [escapedChars])

/-- Undoing the escape of one character keeps that character from then on. -/
theorem replaceText_partlyEscaped {kept : Char → Bool} (hkept : kept '%' = false) {x : Char}
    (hx : x ∈ escapedChars) (cs : List Char) :
    replaceText (escapeOf x) [x] (cs.flatMap (partlyEscaped kept)) =
      cs.flatMap (partlyEscaped fun c => kept c || c == x) := by
  rw [replaceText_flatMap (isEscape_escapeOf hx) (partlyEscaped_piece hkept)]
  congr 1
  funext c
  by_cases hc : c = x
  · subst hc
    cases hk : kept c <;> simp [partlyEscaped, hk]
  · have hne : ¬(kept c = false ∧ c = x) := fun h => hc h.2
    rw [if_neg (mt (partlyEscaped_eq_escapeOf_iff hx).1 hne)]
    simp [partlyEscaped, hc]

theorem partlyEscaped_of_kept {kept : Char → Bool} (hkept : ∀ x ∈ escapedChars, kept x = true)
    (c : Char) : partlyEscaped kept c = [c] := by
  unfold partlyEscaped
  split
  · rfl
  · exact escapeOf_of_not_mem fun hmem => by simp_all

/-! ## The runner's reading -/

/-- How a runner reads an escaped value: the escapes of carriage return, line feed, colon and
comma are replaced in turn, and the escape of `%` last. -/
def unescape (cs : List Char) : List Char :=
  replaceText ['%', '2', '5'] ['%'] <|
  replaceText ['%', '2', 'C'] [','] <|
  replaceText ['%', '3', 'A'] [':'] <|
  replaceText ['%', '0', 'A'] ['\n'] <|
  replaceText ['%', '0', 'D'] ['\r'] cs

/-- Reading undoes any partial escaping that writes `%` escaped. -/
theorem unescape_flatMap {kept : Char → Bool} (hkept : kept '%' = false) (cs : List Char) :
    unescape (cs.flatMap (partlyEscaped kept)) = cs := by
  have step := @replaceText_partlyEscaped
  unfold unescape
  rw [show ['%', '0', 'D'] = escapeOf '\r' from rfl, step hkept (by decide),
    show ['%', '0', 'A'] = escapeOf '\n' from rfl, step (by simp [hkept]) (by decide),
    show ['%', '3', 'A'] = escapeOf ':' from rfl, step (by simp [hkept]) (by decide),
    show ['%', '2', 'C'] = escapeOf ',' from rfl, step (by simp [hkept]) (by decide),
    show ['%', '2', '5'] = escapeOf '%' from rfl, step (by simp [hkept]) (by decide)]
  -- every character with an escape is kept now, so each stands for itself
  have hall : (partlyEscaped fun c =>
      kept c || c == '\r' || c == '\n' || c == ':' || c == ',' || c == '%') = fun c => [c] :=
    funext (partlyEscaped_of_kept (by simp [escapedChars]))
  rw [hall, List.flatMap_singleton']

/-- Text without `%` reads as itself. -/
theorem unescape_of_not_mem {cs : List Char} (h : '%' ∉ cs) : unescape cs = cs := by
  have keep : ∀ a b : Char, ∀ rep : List Char, replaceText ['%', a, b] rep cs = cs :=
    fun _ _ _ => by simpa using replaceText_append_of_not_mem rfl h []
  simp only [unescape, keep]

/-! ## The escapes of a warning -/

theorem toList_replaceEach (f : Char → String) (s : String) :
    (replaceEach f s).toList = s.toList.flatMap fun c => (f c).toList := by
  simp [replaceEach, String.toList_join, List.flatMap_map]

/-- A message is written with `%`, carriage return and line feed escaped, and nothing else. -/
theorem escapeData_toList (s : String) :
    (escapeData s).toList = s.toList.flatMap (partlyEscaped fun c => c == ':' || c == ',') := by
  rw [escapeData, toList_replaceEach]
  congr 1
  funext c
  split <;> simp_all [partlyEscaped, escapeOf]

/-- A property is written with every character that has an escape escaped. -/
theorem escapeProperty_toList (s : String) :
    (escapeProperty s).toList = s.toList.flatMap (partlyEscaped fun _ => false) := by
  rw [escapeProperty, toList_replaceEach, escapeData_toList, List.flatMap_assoc]
  congr 1
  funext c
  by_cases hc : c ∈ escapedChars
  · simp only [escapedChars, List.mem_cons, List.not_mem_nil, or_false] at hc
    rcases hc with rfl | rfl | rfl | rfl | rfl <;> rfl
  · have hkept : (c == ':' || c == ',') = false := by
      simp only [escapedChars, List.mem_cons, List.not_mem_nil, or_false, not_or] at hc
      simp [hc]
    simp only [partlyEscaped, hkept, Bool.false_eq_true, if_false, escapeOf_of_not_mem hc,
      List.flatMap_cons, List.flatMap_nil, List.append_nil]
    split <;> simp_all [escapedChars]

/-- Escaping leaves out of a text each character whose escape it writes. -/
theorem not_mem_partlyEscaped {kept : Char → Bool} {x : Char} (hx : x ∈ ['\r', '\n', ':', ','])
    (hkept : kept x = false) (c : Char) : x ∉ partlyEscaped kept c := by
  unfold partlyEscaped
  split
  · rintro hmem
    rw [List.mem_singleton] at hmem
    subst hmem
    simp_all
  · by_cases hc : c ∈ escapedChars
    · simp only [escapedChars, List.mem_cons, List.not_mem_nil, or_false] at hc hx
      rcases hc with rfl | rfl | rfl | rfl | rfl <;> rcases hx with rfl | rfl | rfl | rfl <;> decide
    · rw [escapeOf_of_not_mem hc, List.mem_singleton]
      rintro rfl
      simp only [List.mem_cons, List.not_mem_nil, or_false] at hx
      exact hc (by rcases hx with rfl | rfl | rfl | rfl <;> simp [escapedChars])

theorem not_mem_escapeProperty {x : Char} (hx : x ∈ ['\r', '\n', ':', ',']) (s : String) :
    x ∉ (escapeProperty s).toList := by
  rw [escapeProperty_toList, List.mem_flatMap]
  rintro ⟨c, -, hc⟩
  exact not_mem_partlyEscaped hx rfl c hc

theorem not_mem_escapeData {x : Char} (hx : x ∈ ['\r', '\n']) (s : String) :
    x ∉ (escapeData s).toList := by
  rw [escapeData_toList, List.mem_flatMap]
  rintro ⟨c, -, hc⟩
  simp only [List.mem_cons, List.not_mem_nil, or_false] at hx
  exact not_mem_partlyEscaped (by rcases hx with rfl | rfl <;> simp)
    (by rcases hx with rfl | rfl <;> rfl) c hc

theorem not_mem_toString {x : Char} (hx : x.isDigit = false) (n : Nat) : x ∉ (toString n).toList := by
  rw [Nat.toString_eq_repr, Nat.toList_repr]
  intro hmem
  rw [Nat.isDigit_of_mem_toDigits (by decide) (by decide) hmem] at hx
  cases hx

/-! ## Warnings -/

/-- How a runner reads a warning line for a finding: one line holding `::warning `, properties
without a colon that split at their commas into the four `key=value` pairs, `::` and the message,
where unescaping gives back the file relative to the root, the first and last lines, the title and
the message. -/
def WarningReads (root : String) (f : OrphanFinding) (line : String) : Prop :=
  '\r' ∉ line.toList ∧ '\n' ∉ line.toList ∧
  ∃ props message, line.toList = "::warning ".toList ++ props ++ "::".toList ++ message ∧
    ':' ∉ props ∧
    ∃ file first last title, props.splitOn ',' = ["file=".toList ++ file, "line=".toList ++ first,
        "endLine=".toList ++ last, "title=".toList ++ title] ∧
      unescape file = (relativePath root f.item.file).toList ∧
      unescape first = (toString f.item.startLine).toList ∧
      unescape last = (toString f.item.endLine).toList ∧
      unescape title = ("Potentially orphaned " ++ f.item.kindName).toList ∧
      unescape message = f.message.toList

/-- The four `key=value` pairs of the warning on a finding. -/
def warningPairs (root : String) (f : OrphanFinding) : List (List Char) :=
  ["file=".toList ++ (escapeProperty (relativePath root f.item.file)).toList,
   "line=".toList ++ (toString f.item.startLine).toList,
   "endLine=".toList ++ (toString f.item.endLine).toList,
   "title=".toList ++ (escapeProperty ("Potentially orphaned " ++ f.item.kindName)).toList]

theorem warningOf_toList (root : String) (f : OrphanFinding) :
    (warningOf root f).toList = "::warning ".toList ++ [','].intercalate (warningPairs root f) ++
      "::".toList ++ (escapeData f.message).toList := by
  have head : "::warning file=".toList = "::warning ".toList ++ "file=".toList := by simp
  have line : ",line=".toList = [','] ++ "line=".toList := by simp
  have endLine : ",endLine=".toList = [','] ++ "endLine=".toList := by simp
  have title : ",title=".toList = [','] ++ "title=".toList := by simp
  -- `unfold`, not `simp only [warningOf]`: the equation lemma sends simp into the escaping code
  unfold warningOf
  simp only [String.toList_append, head, line, endLine, title, warningPairs,
    List.intercalate_cons_cons, List.intercalate_singleton, List.append_assoc]

/-- No pair of a warning holds a line break, a colon or a comma. -/
theorem not_mem_warningPairs {x : Char} (hx : x ∈ ['\r', '\n', ':', ',']) (root : String)
    (f : OrphanFinding) : ∀ pair ∈ warningPairs root f, x ∉ pair := by
  have hdigit : x.isDigit = false := by
    simp only [List.mem_cons, List.not_mem_nil, or_false] at hx
    rcases hx with rfl | rfl | rfl | rfl <;> rfl
  have hkey : ∀ key ∈ ["file=", "line=", "endLine=", "title="], x ∉ String.toList key := by
    simp only [List.mem_cons, List.not_mem_nil, or_false] at hx
    rcases hx with rfl | rfl | rfl | rfl <;> simp
  simp only [warningPairs, List.mem_cons, List.not_mem_nil, or_false, forall_eq_or_imp, forall_eq,
    List.mem_append, not_or]
  exact ⟨⟨hkey _ (by simp), not_mem_escapeProperty hx _⟩, ⟨hkey _ (by simp), not_mem_toString hdigit _⟩,
    ⟨hkey _ (by simp), not_mem_toString hdigit _⟩, ⟨hkey _ (by simp), not_mem_escapeProperty hx _⟩⟩

/-- The warning on a finding reads back, through the runner's unescaping, as the finding's place,
title and message. -/
theorem warningOf_reads (root : String) (f : OrphanFinding) :
    WarningReads root f (warningOf root f) := by
  -- only the commas between the pairs are outside the pairs
  have hprops : ∀ x ∈ ['\r', '\n', ':'], x ∉ [','].intercalate (warningPairs root f) := by
    intro x hx hmem
    simp only [List.mem_cons, List.not_mem_nil, or_false] at hx
    rcases Text.mem_intercalate hmem with rfl | ⟨pair, hpair, hin⟩
    · rcases hx with h | h | h <;> cases h
    · exact not_mem_warningPairs (by rcases hx with rfl | rfl | rfl <;> simp) root f pair hpair hin
  have hbreak : ∀ x ∈ ['\r', '\n'], x ∉ (warningOf root f).toList := by
    intro x hx
    have hlit : ∀ lit ∈ ["::warning ", "::"], x ∉ String.toList lit := by
      simp only [List.mem_cons, List.not_mem_nil, or_false] at hx
      rcases hx with rfl | rfl <;> simp
    rw [warningOf_toList]
    simp only [List.mem_append, not_or]
    exact ⟨⟨⟨hlit _ (by simp), hprops x (by simp only [List.mem_cons] at hx ⊢; simp_all)⟩,
      hlit _ (by simp)⟩, not_mem_escapeData hx _⟩
  refine ⟨hbreak '\r' (by simp), hbreak '\n' (by simp), _, _, warningOf_toList root f,
    hprops ':' (by simp), (escapeProperty (relativePath root f.item.file)).toList,
    (toString f.item.startLine).toList, (toString f.item.endLine).toList,
    (escapeProperty ("Potentially orphaned " ++ f.item.kindName)).toList,
    List.splitOn_intercalate ',' (not_mem_warningPairs (by simp) root f) (by simp [warningPairs]),
    ?_, ?_, ?_, ?_, ?_⟩
  · rw [escapeProperty_toList]
    exact unescape_flatMap rfl _
  · exact unescape_of_not_mem (not_mem_toString rfl _)
  · exact unescape_of_not_mem (not_mem_toString rfl _)
  · rw [escapeProperty_toList]
    exact unescape_flatMap rfl _
  · rw [escapeData_toList]
    exact unescape_flatMap rfl _

/-- Annotations read back: there are none when no finding reaches the annotation confidence;
otherwise a first line counts the findings that do (endpoints first, then functions), and one
warning follows for each of the first of them up to the limit, in order, which a runner reads back
as the finding's file relative to the root, its lines, its kind and its message. -/
theorem annotations_read_back (root : String) (limits : ReportLimits) (r : AnalysisResult) :
    let high := r.findings.filter fun f => f.confidence ≥ limits.annotationConfidence
    (annotations root limits r = [] ↔ high = []) ∧
    (high ≠ [] → ∃ warnings, annotations root limits r =
        ("::warning::Found " ++ toString high.length ++ " high-confidence orphaned code items") ::
          warnings ∧
      warnings.length = min high.length limits.maxAnnotations ∧
      List.Forall₂ (WarningReads root) (high.take limits.maxAnnotations) warnings) := by
  intro high
  have hann : annotations root limits r = if high.isEmpty then [] else
      ("::warning::Found " ++ toString high.length ++ " high-confidence orphaned code items") ::
        (high.take limits.maxAnnotations).map (warningOf root) := by
    unfold annotations
    rfl
  refine ⟨?_, fun hhigh => ⟨(high.take limits.maxAnnotations).map (warningOf root), ?_, ?_, ?_⟩⟩
  · rw [hann]
    by_cases hhigh : high = [] <;> simp [hhigh]
  · rw [hann, if_neg (by simpa using hhigh)]
  · simp [Nat.min_comm]
  · rw [List.forall₂_map_right_iff, List.forall₂_same]
    exact fun f _ => warningOf_reads root f

end OrphanedCode.Report
