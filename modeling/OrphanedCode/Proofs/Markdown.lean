import OrphanedCode.Report.Markdown
import OrphanedCode.Proofs.Workflow
/-!
The lines of the Markdown summary.

The summary is written line by line, each line ended by a line feed, and no line feed is ever
written inside a line: a cell turns each line feed of its text into a space. So the summary's lines
are its counts, its mode and threshold, a table of endpoints exactly when some endpoint is orphaned,
a table of functions exactly when some function is, and either the all-clear line or the
recommendations, by the orphaned count. A table shows the first findings up to the row limit, one
row each, and a note on how many there were exactly when there were more. A cell escapes each bar
with a backslash, so in a row exactly the bars between cells are open: six in a row of the endpoint
table, five in one of the function table. A cell keeps a carriage return, so a row holds one exactly
where the file name, the label or the message of its finding does.
-/

namespace OrphanedCode.Report

/-! ## Lines -/

/-- The lines of a text: the pieces between its line feeds. -/
def textLines (s : String) : List (List Char) :=
  s.toList.splitOn '\n'

/-- Lines written one after another, each ended by a line feed. -/
def joinLines (ls : List (List Char)) : List Char :=
  ls.flatMap (· ++ ['\n'])

@[simp] theorem joinLines_nil : joinLines [] = [] := rfl

@[simp] theorem joinLines_cons (l : List Char) (ls : List (List Char)) :
    joinLines (l :: ls) = l ++ '\n' :: joinLines ls := by
  simp [joinLines]

@[simp] theorem joinLines_append (ls ms : List (List Char)) :
    joinLines (ls ++ ms) = joinLines ls ++ joinLines ms := by
  simp [joinLines]

theorem joinLines_eq_intercalate (ls : List (List Char)) :
    joinLines ls = ['\n'].intercalate (ls ++ [[]]) := by
  induction ls with
  | nil => rfl
  | cons l ls ih =>
    rw [joinLines_cons, ih, List.cons_append, List.intercalate_cons_of_ne_nil (by simp)]
    simp

/-- Lines without line feeds, written each with its line feed, are cut back into those lines and
the empty rest after the last line feed. -/
theorem splitOn_joinLines {ls : List (List Char)} (h : ∀ l ∈ ls, '\n' ∉ l) :
    (joinLines ls).splitOn '\n' = ls ++ [[]] := by
  rw [joinLines_eq_intercalate]
  refine List.splitOn_intercalate '\n' (fun l hl => ?_) (by simp)
  rcases List.mem_append.1 hl with hl | hl
  · exact h l hl
  · simp at hl
    simp [hl]

/-! ## Open bars -/

/-- The bars of a text that no backslash escapes, given the character before it, if any. -/
def openBarsAfter (prev : Option Char) : List Char → Nat
  | [] => 0
  | c :: cs => (if c = '|' ∧ prev ≠ some '\\' then 1 else 0) + openBarsAfter (some c) cs

/-- The bars of a line that no backslash escapes. -/
def openBars (cs : List Char) : Nat :=
  openBarsAfter none cs

theorem openBarsAfter_append (prev : Option Char) (a b : List Char) :
    openBarsAfter prev (a ++ b) = openBarsAfter prev a + openBarsAfter (a.getLast?.or prev) b := by
  induction a generalizing prev with
  | nil => simp [openBarsAfter]
  | cons c a ih =>
    rw [List.cons_append, openBarsAfter, openBarsAfter, ih, Nat.add_assoc]
    congr 3
    cases a with
    | nil => simp
    | cons d a => simp [List.getLast?_eq_some_getLast]

theorem openBarsAfter_of_not_mem {cs : List Char} (h : '|' ∉ cs) (prev : Option Char) :
    openBarsAfter prev cs = 0 := by
  induction cs generalizing prev with
  | nil => rfl
  | cons c cs ih =>
    have hc : c ≠ '|' := fun hc => h (hc ▸ List.mem_cons_self)
    simp [openBarsAfter, hc, ih fun h' => h (List.mem_cons_of_mem _ h')]

/-! ## Cells and rows -/

/-- What a cell writes for one character of its text. -/
def cellChar (c : Char) : List Char :=
  if c = '|' then ['\\', '|'] else if c = '\n' then [' '] else [c]

theorem cell_toList (s : String) : (cell s).toList = s.toList.flatMap cellChar := by
  rw [cell, toList_replaceEach]
  congr 1
  funext c
  by_cases hbar : c = '|' <;> by_cases hnl : c = '\n' <;> simp_all [cellChar]

theorem not_mem_cell_newline (s : String) : '\n' ∉ (cell s).toList := by
  rw [cell_toList, List.mem_flatMap]
  rintro ⟨c, -, hc⟩
  unfold cellChar at hc
  split_ifs at hc with hbar hnl
  · simp at hc
  · simp at hc
  · exact hnl (List.mem_singleton.1 hc).symm

/-- A cell holds a carriage return only where its text does. -/
theorem mem_of_mem_cell {x : Char} (hx : x ∉ ['\\', '|', ' ']) {s : String}
    (h : x ∈ (cell s).toList) : x ∈ s.toList := by
  rw [cell_toList, List.mem_flatMap] at h
  obtain ⟨c, hc, hmem⟩ := h
  unfold cellChar at hmem
  split_ifs at hmem <;> simp_all

/-- Every bar of a cell is escaped, whatever stands before the cell. -/
theorem openBarsAfter_cell (prev : Option Char) (s : String) :
    openBarsAfter prev (cell s).toList = 0 := by
  rw [cell_toList]
  induction s.toList generalizing prev with
  | nil => rfl
  | cons c cs ih =>
    rw [List.flatMap_cons, openBarsAfter_append, ih]
    unfold cellChar
    split_ifs <;> simp_all [openBarsAfter]

/-- A table row as a line: its cells between bars. -/
def rowLine (cells : List String) : List Char :=
  "| ".toList ++ " | ".toList.intercalate (cells.map String.toList) ++ " |".toList

theorem row_toList (cells : List String) : (row cells).toList = rowLine cells ++ ['\n'] := by
  have hend : " |\n".toList = " |".toList ++ ['\n'] := by simp
  simp only [row, String.toList_append, String.toList_intercalate, hend, rowLine, List.append_assoc]

theorem openBarsAfter_intercalate (prev : Option Char) {cells : List (List Char)}
    (hcells : ∀ c ∈ cells, ∀ p, openBarsAfter p c = 0) :
    openBarsAfter prev (" | ".toList.intercalate cells) = cells.length - 1 := by
  induction cells generalizing prev with
  | nil => rfl
  | cons c cells ih =>
    have hc := hcells c List.mem_cons_self
    cases cells with
    | nil => simpa using hc prev
    | cons d cells =>
      rw [List.intercalate_cons_cons, openBarsAfter_append, openBarsAfter_append, hc,
        ih _ fun e he => hcells e (List.mem_cons_of_mem _ he)]
      simp [openBarsAfter]
      omega

/-- The open bars of a row are those around and between its cells. -/
theorem openBars_rowLine {cells : List String} (hne : cells ≠ [])
    (hcells : ∀ c ∈ cells, ∀ p, openBarsAfter p c.toList = 0) :
    openBars (rowLine cells) = cells.length + 1 := by
  have hlen : 0 < cells.length := List.length_pos_iff.2 hne
  rw [openBars, rowLine, openBarsAfter_append, openBarsAfter_append,
    openBarsAfter_intercalate _ (by simpa using hcells)]
  simp [openBarsAfter]
  omega

theorem mem_of_mem_rowLine {x : Char} (hx : x ∉ [' ', '|']) {cells : List String}
    (h : x ∈ rowLine cells) : ∃ c ∈ cells, x ∈ c.toList := by
  simp only [rowLine, List.mem_append] at h
  rcases h with (h | h) | h
  · simp at h hx; tauto
  · rcases Text.mem_of_mem_intercalate h with h | ⟨l, hl, hxl⟩
    · simp at h hx; tauto
    · obtain ⟨c, hc, rfl⟩ := List.mem_map.1 hl
      exact ⟨c, hc, hxl⟩
  · simp at h hx; tauto

/-! ## Number texts -/

/-- A character that is no digit, no sign, no point and no letter of `NaN` or `inf`. -/
def NotNumeric (x : Char) : Prop :=
  x.isDigit = false ∧ x ∉ ['-', '.', 'N', 'a', 'i', 'n', 'f']

theorem not_mem_toDigits {x : Char} (hx : x.isDigit = false) (n : Nat) : x ∉ Nat.toDigits 10 n :=
  fun h => by rw [Nat.isDigit_of_mem_toDigits (by decide) (by decide) h] at hx; cases hx

theorem not_mem_plainDigits {x : Char} (hx : NotNumeric x) (d : Nat) (p : Int) :
    x ∉ (Binary64.plainDigits d p).toList := by
  have hdig := not_mem_toDigits hx.1 d
  have hzero : x ∉ List.replicate p.toNat '0' ∧ x ∉ List.replicate (-((Nat.toDigits 10 d).length + p)).toNat '0' := by
    constructor <;> intro h <;> rw [List.eq_of_mem_replicate h] at hx <;> cases hx.1
  have hlit := hx.2
  simp only [List.mem_cons, List.not_mem_nil, or_false, not_or] at hlit
  have h0 : x ≠ '0' := by
    rintro rfl
    exact absurd hx.1 (by decide)
  have htake : ∀ k, x ∉ (Nat.toDigits 10 d).take k := fun _ h => hdig (List.mem_of_mem_take h)
  have hdrop : ∀ k, x ∉ (Nat.toDigits 10 d).drop k := fun _ h => hdig (List.mem_of_mem_drop h)
  unfold Binary64.plainDigits
  dsimp only
  split_ifs <;> simp [Binary64.zeros, hdig, hzero, hlit, htake, hdrop, h0]

/-- The text of a value inside a message holds digits, signs, points and the letters of `NaN` and
`inf` only. -/
theorem not_mem_plainText {x : Char} (hx : NotNumeric x) (v : Float) :
    x ∉ (Binary64.plainText v).toList := by
  have hlit := hx.2
  simp only [List.mem_cons, List.not_mem_nil, or_false, not_or] at hlit
  have hzero : x ≠ '0' := by
    rintro rfl
    exact absurd hx.1 (by decide)
  unfold Binary64.plainText
  split
  · simp [hlit]
  · split <;> simp [hlit]
  · split_ifs <;> simp [hlit, hzero, not_mem_plainDigits hx]

/-- A whole percentage holds digits, a sign and the letters of `NaN` and `inf` only. -/
theorem not_mem_wholeText {x : Char} (hx : NotNumeric x) (v : Float) :
    x ∉ (Binary64.wholeText v).toList := by
  have hlit := hx.2
  simp only [List.mem_cons, List.not_mem_nil, or_false, not_or] at hlit
  unfold Binary64.wholeText
  split
  · simp [hlit]
  · split <;> simp [hlit]
  · split <;> simp [hlit, Binary64.digitText, not_mem_toDigits hx.1]

theorem notNumeric_newline : NotNumeric '\n' := ⟨rfl, by decide⟩

/-! ## Data rows -/

/-- A data row for a finding, as the line `line`: the finding's row without its line feed, with
`bars` open bars and no line feed, holding a carriage return only where one of `texts` does. -/
def RowReads (rendered : String) (bars : Nat) (texts : List String) (line : List Char) : Prop :=
  rendered.toList = line ++ ['\n'] ∧ '\n' ∉ line ∧ openBars line = bars ∧
    ('\r' ∈ line → ∃ t ∈ texts, '\r' ∈ t.toList)

/-- A row whose cells hold no line feed and no open bar is read as one line with a bar around and
between its cells. -/
theorem rowReads_row {cells texts : List String} (hne : cells ≠ [])
    (hnl : ∀ c ∈ cells, '\n' ∉ c.toList) (hbars : ∀ c ∈ cells, ∀ p, openBarsAfter p c.toList = 0)
    (hcr : ∀ c ∈ cells, '\r' ∈ c.toList → ∃ t ∈ texts, '\r' ∈ t.toList) :
    RowReads (row cells) (cells.length + 1) texts (rowLine cells) := by
  refine ⟨row_toList cells, fun h => ?_, openBars_rowLine hne hbars, fun h => ?_⟩
  · obtain ⟨c, hc, hmem⟩ := mem_of_mem_rowLine (by decide) h
    exact hnl c hc hmem
  · obtain ⟨c, hc, hmem⟩ := mem_of_mem_rowLine (by decide) h
    exact hcr c hc hmem

/-- The label an endpoint row shows: the item's label, or nothing for a function. -/
def endpointLabel (f : OrphanFinding) : String :=
  match f.item with
  | .endpoint _ => f.item.label
  | .function _ => ""

/-- The usage an endpoint row shows. -/
def usageText (f : OrphanFinding) : String :=
  match f.usageCount with
  | some n => toString n
  | none => "N/A"

/-- The cells of the endpoint row of a finding. -/
def endpointCells (f : OrphanFinding) : List String :=
  [cell (fileLabel f.item.file), cell (endpointLabel f), cell f.message, percent f.confidence,
    usageText f]

/-- The cells of the function row of a finding. -/
def functionCells (f : OrphanFinding) : List String :=
  [cell (fileLabel f.item.file), cell f.item.label, cell f.message, percent f.confidence]

theorem endpointRow_eq (f : OrphanFinding) : endpointRow f = row (endpointCells f) := rfl

theorem functionRow_eq (f : OrphanFinding) : functionRow f = row (functionCells f) := rfl

/-- The characters a row must keep out of a figure: bars and line breaks. -/
def rowBreaking : List Char := ['|', '\n', '\r']

theorem notNumeric_of_rowBreaking {x : Char} (hx : x ∈ rowBreaking) : NotNumeric x := by
  simp only [rowBreaking, List.mem_cons, List.not_mem_nil, or_false] at hx
  rcases hx with rfl | rfl | rfl <;> exact ⟨rfl, by decide⟩

theorem not_mem_percent {x : Char} (hx : x ∈ rowBreaking) (c : Float) : x ∉ (percent c).toList := by
  have hpct : x ≠ '%' := by
    simp only [rowBreaking, List.mem_cons, List.not_mem_nil, or_false] at hx
    rcases hx with rfl | rfl | rfl <;> decide
  simp [percent, not_mem_wholeText (notNumeric_of_rowBreaking hx), hpct]

theorem not_mem_usageText {x : Char} (hx : x ∈ rowBreaking) (f : OrphanFinding) :
    x ∉ (usageText f).toList := by
  have hlit : x ∉ "N/A".toList := by
    simp only [rowBreaking, List.mem_cons, List.not_mem_nil, or_false] at hx
    rcases hx with rfl | rfl | rfl <;> simp
  unfold usageText
  split
  · exact not_mem_toString (notNumeric_of_rowBreaking hx).1 _
  · exact hlit

/-- A row whose cells are made from texts, followed by figures free of bars and line breaks, is
read as one line with a bar around and between its cells, and holds a carriage return only where
one of the texts does. -/
theorem rowReads_cells (texts figures : List String) (hne : texts ≠ [])
    (hfigures : ∀ t ∈ figures, ∀ x ∈ rowBreaking, x ∉ t.toList) :
    RowReads (row (texts.map cell ++ figures)) (texts.length + figures.length + 1) texts
      (rowLine (texts.map cell ++ figures)) := by
  have hlen : (texts.map cell ++ figures).length = texts.length + figures.length := by simp
  rw [← hlen]
  refine rowReads_row (by simp [hne]) (fun c hc => ?_) (fun c hc p => ?_) (fun c hc hr => ?_)
  all_goals rcases List.mem_append.1 hc with hc | hc
  · obtain ⟨t, -, rfl⟩ := List.mem_map.1 hc
    exact not_mem_cell_newline t
  · exact hfigures c hc '\n' (by simp [rowBreaking])
  · obtain ⟨t, -, rfl⟩ := List.mem_map.1 hc
    exact openBarsAfter_cell p t
  · exact openBarsAfter_of_not_mem (hfigures c hc '|' (by simp [rowBreaking])) p
  · obtain ⟨t, ht, rfl⟩ := List.mem_map.1 hc
    exact ⟨t, ht, mem_of_mem_cell (by decide) hr⟩
  · exact absurd hr (hfigures c hc '\r' (by simp [rowBreaking]))

/-- A row read against some texts is read against any texts that hold a carriage return wherever
those do. -/
theorem RowReads.of_texts {rendered : String} {bars : Nat} {texts texts' : List String}
    {line : List Char} (h : RowReads rendered bars texts line)
    (ht : ∀ t ∈ texts, '\r' ∈ t.toList → ∃ t' ∈ texts', '\r' ∈ t'.toList) :
    RowReads rendered bars texts' line :=
  ⟨h.1, h.2.1, h.2.2.1, fun hr => by
    obtain ⟨t, hmem, htr⟩ := h.2.2.2 hr
    exact ht t hmem htr⟩

/-- The row of a finding in the endpoint table has six open bars. -/
theorem endpointRow_reads (f : OrphanFinding) :
    RowReads (endpointRow f) 6 [fileLabel f.item.file, f.item.label, f.message]
      (rowLine (endpointCells f)) := by
  have hfigures : ∀ t ∈ [percent f.confidence, usageText f], ∀ x ∈ rowBreaking, x ∉ t.toList := by
    simp only [List.mem_cons, List.not_mem_nil, or_false, forall_eq_or_imp, forall_eq]
    exact ⟨fun x hx => not_mem_percent hx _, fun x hx => not_mem_usageText hx f⟩
  -- an endpoint row shows the label of an endpoint item and nothing for a function item
  have hlabel : '\r' ∈ (endpointLabel f).toList → '\r' ∈ f.item.label.toList := by
    unfold endpointLabel
    split <;> simp
  refine (rowReads_cells [fileLabel f.item.file, endpointLabel f, f.message] _ (by simp)
    hfigures).of_texts ?_
  simp only [List.mem_cons, List.not_mem_nil, or_false, forall_eq_or_imp, forall_eq]
  exact ⟨fun h => ⟨_, by simp, h⟩, fun h => ⟨_, by simp, hlabel h⟩, fun h => ⟨_, by simp, h⟩⟩

/-- The row of a finding in the function table has five open bars. -/
theorem functionRow_reads (f : OrphanFinding) :
    RowReads (functionRow f) 5 [fileLabel f.item.file, f.item.label, f.message]
      (rowLine (functionCells f)) :=
  rowReads_cells [fileLabel f.item.file, f.item.label, f.message] [percent f.confidence]
    (by simp) (by simpa using fun x hx => not_mem_percent hx f.confidence)

/-! ## The lines of the summary -/

/-- The note under a table that shows only its first rows, as a line. -/
def noteLine (limit total : Nat) (kind : String) : List Char :=
  ("*Showing first " ++ toString limit ++ " of " ++ toString total ++ " orphaned " ++ kind ++ "*").toList

/-- The lines of a table of findings: none when there are no findings; otherwise a blank line, the
heading, a blank line, the header and its rule, the rows of the first findings up to the limit, and
a note when there were more. -/
def tableLines (heading header rule kind : String) (rowLineOf : OrphanFinding → List Char)
    (limit : Nat) (fs : List OrphanFinding) : List (List Char) :=
  if fs.isEmpty then []
  else [[], heading.toList, [], header.toList, rule.toList] ++ (fs.take limit).map rowLineOf ++
    (if limit < fs.length then [[], noteLine limit fs.length kind] else [])

/-- The lines of the endpoint table. -/
def endpointTableLines (limit : Nat) (fs : List OrphanFinding) : List (List Char) :=
  tableLines "### 🚫 Orphaned Endpoints" "| File | Endpoint | Reason | Confidence | Usage |"
    "| --- | --- | --- | --- | --- |" "endpoints" (fun f => rowLine (endpointCells f)) limit fs

/-- The lines of the function table. -/
def functionTableLines (limit : Nat) (fs : List OrphanFinding) : List (List Char) :=
  tableLines "### 🗑️ Orphaned Functions" "| File | Function | Reason | Confidence |"
    "| --- | --- | --- | --- |" "functions" (fun f => rowLine (functionCells f)) limit fs

/-- The lines of the counts, the mode and the threshold. -/
def headLines (r : AnalysisResult) : List (List Char) :=
  let full := r.summary.analysisMode == .full
  ["## 🔍 Orphaned Code Detection Results".toList, [], "| Metric | Count |".toList,
    "| --- | --- |".toList,
    rowLine ["Total Endpoints", toString r.summary.totalEndpoints],
    rowLine ["Total Functions", toString r.summary.totalFunctions],
    rowLine ["Orphaned Endpoints", toString r.orphanedEndpoints.length],
    rowLine ["Orphaned Functions", toString r.orphanedFunctions.length],
    rowLine ["**Total Orphaned**", "**" ++ toString r.summary.orphanedCount ++ "**"]] ++
  (if full then [rowLine ["Active Endpoints (Datadog)", toString r.activeEndpoints.length]] else []) ++
  [[], "**Analysis Mode:** ".toList ++
      (if full then "Full (with Datadog)" else "PR Changes Only").toList ++ "  ".toList,
    ("**Confidence Threshold:** " ++ Binary64.plainText r.summary.confidenceThreshold).toList]

/-- The closing lines: the all-clear line, or the recommendations. -/
def closingLines (r : AnalysisResult) : List (List Char) :=
  if r.isClean then [[], "✅ **No orphaned code detected!** Your codebase looks clean.".toList]
  else [[], "### 💡 Recommendations".toList, []] ++ recommendations.map fun t => ("- " ++ t).toList

/-- The lines of the summary of a run. -/
def markdownLines (limits : ReportLimits) (r : AnalysisResult) : List (List Char) :=
  headLines r ++ endpointTableLines limits.maxTableRows r.orphanedEndpoints ++
    functionTableLines limits.maxTableRows r.orphanedFunctions ++ closingLines r

theorem overflowNote_toList (limit total : Nat) (kind : String) :
    (overflowNote limit total kind).toList =
      joinLines (if limit < total then [[], noteLine limit total kind] else []) := by
  unfold overflowNote
  split <;> simp_all [noteLine]

theorem join_rows_toList {α : Type} {rowOf : α → String} {lineOf : α → List Char}
    (h : ∀ f, (rowOf f).toList = lineOf f ++ ['\n']) (fs : List α) :
    (String.join (fs.map rowOf)).toList = joinLines (fs.map lineOf) := by
  rw [String.toList_join, joinLines, List.flatMap_map, List.flatMap_map]
  congr 1
  funext f
  exact h f

theorem endpointRow_toList (f : OrphanFinding) :
    (endpointRow f).toList = rowLine (endpointCells f) ++ ['\n'] := by
  rw [endpointRow_eq, row_toList]

theorem functionRow_toList (f : OrphanFinding) :
    (functionRow f).toList = rowLine (functionCells f) ++ ['\n'] := by
  rw [functionRow_eq, row_toList]

theorem recommendations_toList :
    (String.join (recommendations.map fun t => "- " ++ t ++ "\n")).toList =
      joinLines (recommendations.map fun t => ("- " ++ t).toList) :=
  join_rows_toList (fun t => by rw [String.toList_append, show "\n".toList = ['\n'] by simp]) _

/-- The fixed pieces of the summary, each a run of whole lines. -/
theorem fixed_pieces :
    "## 🔍 Orphaned Code Detection Results\n\n".toList =
      joinLines ["## 🔍 Orphaned Code Detection Results".toList, []] ∧
    "| Metric | Count |\n| --- | --- |\n".toList =
      joinLines ["| Metric | Count |".toList, "| --- | --- |".toList] ∧
    "\n**Analysis Mode:** ".toList = joinLines [[]] ++ "**Analysis Mode:** ".toList ∧
    "  \n".toList = "  ".toList ++ ['\n'] ∧
    "\n".toList = ['\n'] ∧
    "".toList = joinLines [] ∧
    "\n### 🚫 Orphaned Endpoints\n\n".toList = joinLines [[], "### 🚫 Orphaned Endpoints".toList, []] ∧
    "| File | Endpoint | Reason | Confidence | Usage |\n| --- | --- | --- | --- | --- |\n".toList =
      joinLines ["| File | Endpoint | Reason | Confidence | Usage |".toList,
        "| --- | --- | --- | --- | --- |".toList] ∧
    "\n### 🗑️ Orphaned Functions\n\n".toList = joinLines [[], "### 🗑️ Orphaned Functions".toList, []] ∧
    "| File | Function | Reason | Confidence |\n| --- | --- | --- | --- |\n".toList =
      joinLines ["| File | Function | Reason | Confidence |".toList, "| --- | --- | --- | --- |".toList] ∧
    "\n✅ **No orphaned code detected!** Your codebase looks clean.\n".toList =
      joinLines [[], "✅ **No orphaned code detected!** Your codebase looks clean.".toList] ∧
    "\n### 💡 Recommendations\n\n".toList = joinLines [[], "### 💡 Recommendations".toList, []] := by
  simp

/-- The summary is its lines, each ended by a line feed. -/
theorem markdown_toList (limits : ReportLimits) (r : AnalysisResult) :
    (markdown limits r).toList = joinLines (markdownLines limits r) := by
  obtain ⟨h1, h2, h3, h4, h5, h6, h7, h8, h9, h10, h11, h12⟩ := fixed_pieces
  unfold markdown
  simp only [String.toList_append, apply_ite String.toList, row_toList, overflowNote_toList,
    join_rows_toList endpointRow_toList, join_rows_toList functionRow_toList,
    recommendations_toList, h1, h2, h3, h4, h5, h6, h7, h8, h9, h10, h11, h12]
  simp only [markdownLines, headLines, endpointTableLines, functionTableLines, tableLines, closingLines,
    joinLines_append, apply_ite joinLines, joinLines_cons, joinLines_nil, String.toList_append,
    apply_ite String.toList, List.append_assoc, List.cons_append, List.nil_append]

/-! ## No line feed inside a line -/

theorem not_mem_rowLine {x : Char} (hx : x ∉ [' ', '|']) {cells : List String}
    (h : ∀ c ∈ cells, x ∉ c.toList) : x ∉ rowLine cells := fun hmem => by
  obtain ⟨c, hc, hxc⟩ := mem_of_mem_rowLine hx hmem
  exact h c hc hxc

theorem newline_not_mem_headLines (r : AnalysisResult) : ∀ l ∈ headLines r, '\n' ∉ l := by
  -- simp writes each count as its digits, so the count fact is stated for those
  have hnum : ∀ n : Nat, '\n' ∉ Nat.toDigits 10 n := not_mem_toDigits rfl
  have hrow : ∀ a b : String, '\n' ∉ a.toList → '\n' ∉ b.toList → '\n' ∉ rowLine [a, b] :=
    fun a b ha hb => not_mem_rowLine (by decide) (by simp [ha, hb])
  have hthreshold := not_mem_plainText notNumeric_newline r.summary.confidenceThreshold
  unfold headLines
  dsimp only
  split_ifs <;> simp [hthreshold] <;> and_intros <;> apply hrow <;> simp [hnum]

section Table

variable {heading header rule kind : String} {rowLineOf : OrphanFinding → List Char} {limit : Nat}
  {fs : List OrphanFinding}

/-- The lines of a table, when there are findings: a blank line, the heading, the header and its
rule, the rows of the first findings, and the note when some finding is left out. -/
theorem mem_tableLines {l : List Char} :
    l ∈ tableLines heading header rule kind rowLineOf limit fs ↔ fs ≠ [] ∧
      (l = [] ∨ l = heading.toList ∨ l = header.toList ∨ l = rule.toList ∨
        (∃ f ∈ fs.take limit, rowLineOf f = l) ∨
        (limit < fs.length ∧ l = noteLine limit fs.length kind)) := by
  unfold tableLines
  by_cases hempty : fs = []
  · simp [hempty]
  · simp only [List.isEmpty_iff, hempty, if_false, ne_eq, not_false_eq_true, true_and,
      List.mem_append, List.mem_cons, List.mem_map, List.not_mem_nil, or_false]
    split_ifs with hmore <;> simp [hmore] <;> grind

theorem newline_not_mem_tableLines (hfixed : ∀ s ∈ [heading, header, rule, kind], '\n' ∉ s.toList)
    (hrows : ∀ f, '\n' ∉ rowLineOf f) : ∀ l ∈ tableLines heading header rule kind rowLineOf limit fs,
      '\n' ∉ l := by
  have hnum : ∀ n : Nat, '\n' ∉ Nat.toDigits 10 n := not_mem_toDigits rfl
  simp only [List.mem_cons, List.not_mem_nil, or_false, forall_eq_or_imp, forall_eq] at hfixed
  obtain ⟨hheading, hheader, hrule, hkind⟩ := hfixed
  intro l hl
  obtain ⟨-, hl⟩ := mem_tableLines.1 hl
  rcases hl with rfl | rfl | rfl | rfl | ⟨f, -, rfl⟩ | ⟨-, rfl⟩
  · simp
  · exact hheading
  · exact hheader
  · exact hrule
  · exact hrows f
  · simp [noteLine, hnum, hkind]

end Table

theorem newline_not_mem_closingLines (r : AnalysisResult) : ∀ l ∈ closingLines r, '\n' ∉ l := by
  unfold closingLines
  split_ifs <;> simp [recommendations]

/-- No line of the summary holds a line feed. -/
theorem newline_not_mem_markdownLines (limits : ReportLimits) (r : AnalysisResult) :
    ∀ l ∈ markdownLines limits r, '\n' ∉ l := by
  intro l hl
  simp only [markdownLines, List.mem_append] at hl
  rcases hl with ((hl | hl) | hl) | hl
  · exact newline_not_mem_headLines r l hl
  · exact newline_not_mem_tableLines (by simp) (fun f => (endpointRow_reads f).2.1) l hl
  · exact newline_not_mem_tableLines (by simp) (fun f => (functionRow_reads f).2.1) l hl
  · exact newline_not_mem_closingLines r l hl

/-- The lines of the summary, and the empty rest after its last line feed. -/
theorem textLines_markdown (limits : ReportLimits) (r : AnalysisResult) :
    textLines (markdown limits r) = markdownLines limits r ++ [[]] := by
  rw [textLines, markdown_toList, splitOn_joinLines (newline_not_mem_markdownLines limits r)]

/-! ## Lines that one place writes -/

/-- A line that only one place of the summary writes: a heading, the all-clear line, or a note on
how many rows a table shows. Blank lines, table lines, the bold settings lines and the
recommendations are not such lines. -/
def Distinguished (l : List Char) : Prop :=
  l.head? = some '#' ∨ l.head? = some '✅' ∨ l.take 2 = ['*', 'S']

theorem not_distinguished {l : List Char}
    (h : l = [] ∨ l.head? = some '|' ∨ l.head? = some '-' ∨ l.take 2 = ['*', '*']) :
    ¬Distinguished l := by
  rcases l with _ | ⟨c, _ | ⟨d, l⟩⟩ <;> simp [Distinguished] at h ⊢ <;> grind

theorem not_distinguished_rowLine (cells : List String) : ¬Distinguished (rowLine cells) :=
  not_distinguished (.inr (.inl (by simp [rowLine])))

theorem headLines_eq_of_distinguished (r : AnalysisResult) :
    ∀ l ∈ headLines r, Distinguished l → l = "## 🔍 Orphaned Code Detection Results".toList := by
  unfold headLines
  dsimp only
  -- the table rows go first, by their bar; the remaining lines are literal
  split_ifs <;> simp only [List.forall_mem_append, List.forall_mem_cons, not_distinguished_rowLine,
    false_implies, true_and] <;> simp [Distinguished]

theorem distinguished_mem_headLines_iff {r : AnalysisResult} {l : List Char}
    (hd : Distinguished l) :
    l ∈ headLines r ↔ l = "## 🔍 Orphaned Code Detection Results".toList := by
  refine ⟨fun hl => headLines_eq_of_distinguished r l hl hd, ?_⟩
  rintro rfl
  simp [headLines]

/-- Of a table, only its heading and its note are such lines. -/
theorem distinguished_mem_tableLines_iff {heading header rule kind : String}
    {rowLineOf : OrphanFinding → List Char} {limit : Nat} {fs : List OrphanFinding}
    (hheader : ¬Distinguished header.toList) (hrule : ¬Distinguished rule.toList)
    (hrows : ∀ f, ¬Distinguished (rowLineOf f)) {l : List Char} (hd : Distinguished l) :
    l ∈ tableLines heading header rule kind rowLineOf limit fs ↔ fs ≠ [] ∧
      (l = heading.toList ∨ (limit < fs.length ∧ l = noteLine limit fs.length kind)) := by
  rw [mem_tableLines]
  constructor
  · rintro ⟨hne, rfl | rfl | rfl | rfl | ⟨f, -, rfl⟩ | hnote⟩
    · exact absurd hd (not_distinguished (.inl rfl))
    · exact ⟨hne, .inl rfl⟩
    · exact absurd hd hheader
    · exact absurd hd hrule
    · exact absurd hd (hrows f)
    · exact ⟨hne, .inr hnote⟩
  · rintro ⟨hne, h | h⟩
    · exact ⟨hne, .inr (.inl h)⟩
    · exact ⟨hne, .inr (.inr (.inr (.inr (.inr h))))⟩

/-- Of the closing, only the all-clear line of a clean run and the heading of the recommendations
of any other run are such lines. -/
theorem distinguished_mem_closingLines_iff {r : AnalysisResult} {l : List Char}
    (hd : Distinguished l) :
    l ∈ closingLines r ↔
      (r.isClean = true ∧ l = "✅ **No orphaned code detected!** Your codebase looks clean.".toList) ∨
      (r.isClean = false ∧ l = "### 💡 Recommendations".toList) := by
  have hblank : l ≠ [] := fun h => not_distinguished (.inl h) hd
  have hbullet : ∀ t, ¬Distinguished ("- " ++ t).toList := fun t =>
    not_distinguished (.inr (.inr (.inl (by simp))))
  unfold closingLines
  cases r.isClean
  · simp only [Bool.false_eq_true, if_false, List.mem_append, List.mem_cons, List.mem_map,
      List.not_mem_nil, or_false, hblank, false_or, false_and, true_and]
    constructor
    · rintro (h | ⟨t, -, rfl⟩)
      · exact h
      · exact absurd hd (hbullet t)
    · exact .inl
  · simp [hblank]

theorem distinguished_mem_endpointTableLines_iff {limit : Nat} {fs : List OrphanFinding}
    {l : List Char} (hd : Distinguished l) :
    l ∈ endpointTableLines limit fs ↔ fs ≠ [] ∧
      (l = "### 🚫 Orphaned Endpoints".toList ∨
        (limit < fs.length ∧ l = noteLine limit fs.length "endpoints")) :=
  distinguished_mem_tableLines_iff (not_distinguished (.inr (.inl (by simp))))
    (not_distinguished (.inr (.inl (by simp)))) (fun f => not_distinguished_rowLine _) hd

theorem distinguished_mem_functionTableLines_iff {limit : Nat} {fs : List OrphanFinding}
    {l : List Char} (hd : Distinguished l) :
    l ∈ functionTableLines limit fs ↔ fs ≠ [] ∧
      (l = "### 🗑️ Orphaned Functions".toList ∨
        (limit < fs.length ∧ l = noteLine limit fs.length "functions")) :=
  distinguished_mem_tableLines_iff (not_distinguished (.inr (.inl (by simp))))
    (not_distinguished (.inr (.inl (by simp)))) (fun f => not_distinguished_rowLine _) hd

/-- The lines that one place writes are the results heading; the heading of each table with
findings and its note when rows are left out; and the all-clear line of a clean run or the heading
of the recommendations of any other. -/
theorem distinguished_mem_markdownLines_iff {limits : ReportLimits} {r : AnalysisResult}
    {l : List Char} (hd : Distinguished l) :
    l ∈ markdownLines limits r ↔
      l = "## 🔍 Orphaned Code Detection Results".toList ∨
      (r.orphanedEndpoints ≠ [] ∧ (l = "### 🚫 Orphaned Endpoints".toList ∨
        (limits.maxTableRows < r.orphanedEndpoints.length ∧
          l = noteLine limits.maxTableRows r.orphanedEndpoints.length "endpoints"))) ∨
      (r.orphanedFunctions ≠ [] ∧ (l = "### 🗑️ Orphaned Functions".toList ∨
        (limits.maxTableRows < r.orphanedFunctions.length ∧
          l = noteLine limits.maxTableRows r.orphanedFunctions.length "functions"))) ∨
      (r.isClean = true ∧ l = "✅ **No orphaned code detected!** Your codebase looks clean.".toList) ∨
      (r.isClean = false ∧ l = "### 💡 Recommendations".toList) := by
  simp only [markdownLines, List.mem_append, distinguished_mem_headLines_iff hd,
    distinguished_mem_endpointTableLines_iff hd, distinguished_mem_functionTableLines_iff hd,
    distinguished_mem_closingLines_iff hd, or_assoc]

/-- The notes under the two tables never read alike: they end in different words. -/
theorem noteLine_endpoints_ne_functions (a b c d : Nat) :
    noteLine a b "endpoints" ≠ noteLine c d "functions" := by
  intro h
  have hend := congrArg (fun l => l.reverse.take 3) h
  simp [noteLine] at hend

theorem distinguished_mem_textLines_iff {limits : ReportLimits} {r : AnalysisResult}
    {l : List Char} (hd : Distinguished l) :
    l ∈ textLines (markdown limits r) ↔ l ∈ markdownLines limits r := by
  have hblank : l ≠ [] := fun h => not_distinguished (.inl h) hd
  simp [textLines_markdown, hblank]

section Membership

variable (limits : ReportLimits) (r : AnalysisResult)

theorem endpointHeading_mem_iff :
    "### 🚫 Orphaned Endpoints".toList ∈ textLines (markdown limits r) ↔
      r.orphanedEndpoints ≠ [] := by
  rw [distinguished_mem_textLines_iff (by simp [Distinguished]),
    distinguished_mem_markdownLines_iff (by simp [Distinguished])]
  simp [noteLine]

theorem functionHeading_mem_iff :
    "### 🗑️ Orphaned Functions".toList ∈ textLines (markdown limits r) ↔
      r.orphanedFunctions ≠ [] := by
  rw [distinguished_mem_textLines_iff (by simp [Distinguished]),
    distinguished_mem_markdownLines_iff (by simp [Distinguished])]
  simp [noteLine]

theorem endpointNote_mem_iff :
    noteLine limits.maxTableRows r.orphanedEndpoints.length "endpoints" ∈
        textLines (markdown limits r) ↔ limits.maxTableRows < r.orphanedEndpoints.length := by
  rw [distinguished_mem_textLines_iff (by simp [Distinguished, noteLine]),
    distinguished_mem_markdownLines_iff (by simp [Distinguished, noteLine])]
  have hne : limits.maxTableRows < r.orphanedEndpoints.length → r.orphanedEndpoints ≠ [] :=
    fun h hnil => by simp [hnil] at h
  simp only [noteLine_endpoints_ne_functions, and_false, or_false]
  simpa [noteLine] using hne

theorem functionNote_mem_iff :
    noteLine limits.maxTableRows r.orphanedFunctions.length "functions" ∈
        textLines (markdown limits r) ↔ limits.maxTableRows < r.orphanedFunctions.length := by
  rw [distinguished_mem_textLines_iff (by simp [Distinguished, noteLine]),
    distinguished_mem_markdownLines_iff (by simp [Distinguished, noteLine])]
  have hne : limits.maxTableRows < r.orphanedFunctions.length → r.orphanedFunctions ≠ [] :=
    fun h hnil => by simp [hnil] at h
  have hnotes : ∀ a b c d, noteLine a b "functions" ≠ noteLine c d "endpoints" :=
    fun a b c d h => noteLine_endpoints_ne_functions c d a b h.symm
  simp only [hnotes, and_false, or_false]
  simpa [noteLine] using hne

theorem allClear_mem_iff :
    "✅ **No orphaned code detected!** Your codebase looks clean.".toList ∈
        textLines (markdown limits r) ↔ r.summary.orphanedCount = 0 := by
  rw [distinguished_mem_textLines_iff (by simp [Distinguished]),
    distinguished_mem_markdownLines_iff (by simp [Distinguished])]
  simp [noteLine, AnalysisResult.isClean]

theorem recommendationsHeading_mem_iff :
    "### 💡 Recommendations".toList ∈ textLines (markdown limits r) ↔
      r.summary.orphanedCount ≠ 0 := by
  rw [distinguished_mem_textLines_iff (by simp [Distinguished]),
    distinguished_mem_markdownLines_iff (by simp [Distinguished])]
  simp [noteLine, AnalysisResult.isClean]

end Membership

/-! ## The rows of a table -/

theorem closingLines_opens_blank (r : AnalysisResult) : ∃ rest, closingLines r = [] :: rest := by
  unfold closingLines
  split
  · exact ⟨_, rfl⟩
  · exact ⟨_, rfl⟩

section Rows

variable {heading header rule kind : String} {rowLineOf : OrphanFinding → List Char} {limit : Nat}
  {fs : List OrphanFinding}

/-- A table, empty or not, keeps the blank line that opens what follows it at its own start. -/
theorem tableLines_opens_blank (rest : List (List Char)) :
    ∃ rest', tableLines heading header rule kind rowLineOf limit fs ++ [] :: rest = [] :: rest' := by
  unfold tableLines
  split_ifs
  · exact ⟨rest, rfl⟩
  · exact ⟨_, rfl⟩
  · exact ⟨_, rfl⟩

/-- The rows of a table with findings stand right under its header and rule, and are followed by
a blank line whenever what follows the table opens with one. -/
theorem tableLines_rows (hne : fs ≠ []) (rest : List (List Char)) :
    ∃ rest', tableLines heading header rule kind rowLineOf limit fs ++ [] :: rest =
      [[], heading.toList, [], header.toList, rule.toList] ++ (fs.take limit).map rowLineOf ++
        [] :: rest' := by
  unfold tableLines
  split_ifs with hempty hmore
  · exact absurd (List.isEmpty_iff.1 hempty) hne
  · exact ⟨noteLine limit fs.length kind :: [] :: rest, by simp⟩
  · exact ⟨rest, by simp⟩

theorem tableLines_rows_under_header (hne : fs ≠ []) (rest : List (List Char)) :
    ([heading.toList, [], header.toList, rule.toList] ++ (fs.take limit).map rowLineOf ++ [[]]) <:+:
      tableLines heading header rule kind rowLineOf limit fs ++ [] :: rest := by
  obtain ⟨rest', h⟩ := tableLines_rows hne rest
  rw [h]
  exact ⟨[[]], rest', by simp⟩

end Rows

section Infix

variable (limits : ReportLimits) (r : AnalysisResult)

/-- The endpoint table, when there is one, shows its rows right under its header and rule, with a
blank line after them. -/
theorem endpointRows_under_header (hne : r.orphanedEndpoints ≠ []) :
    (["### 🚫 Orphaned Endpoints".toList, [],
        "| File | Endpoint | Reason | Confidence | Usage |".toList,
        "| --- | --- | --- | --- | --- |".toList] ++
      (r.orphanedEndpoints.take limits.maxTableRows).map (fun f => rowLine (endpointCells f)) ++
        [[]]) <:+: textLines (markdown limits r) := by
  obtain ⟨c, hc⟩ := closingLines_opens_blank r
  obtain ⟨fl, hfl⟩ : ∃ fl, functionTableLines limits.maxTableRows r.orphanedFunctions ++
      [] :: (c ++ [[]]) = [] :: fl := tableLines_opens_blank _
  have hlines : textLines (markdown limits r) =
      headLines r ++ (endpointTableLines limits.maxTableRows r.orphanedEndpoints ++ [] :: fl) := by
    rw [textLines_markdown, markdownLines, ← hfl, ← List.cons_append, ← hc]
    simp
  rw [hlines]
  exact (tableLines_rows_under_header hne fl).trans (List.suffix_append _ _).isInfix

/-- The function table, when there is one, shows its rows right under its header and rule, with a
blank line after them. -/
theorem functionRows_under_header (hne : r.orphanedFunctions ≠ []) :
    (["### 🗑️ Orphaned Functions".toList, [], "| File | Function | Reason | Confidence |".toList,
        "| --- | --- | --- | --- |".toList] ++
      (r.orphanedFunctions.take limits.maxTableRows).map (fun f => rowLine (functionCells f)) ++
        [[]]) <:+: textLines (markdown limits r) := by
  obtain ⟨c, hc⟩ := closingLines_opens_blank r
  have hlines : textLines (markdown limits r) =
      (headLines r ++ endpointTableLines limits.maxTableRows r.orphanedEndpoints) ++
        (functionTableLines limits.maxTableRows r.orphanedFunctions ++ [] :: (c ++ [[]])) := by
    rw [textLines_markdown, markdownLines, ← List.cons_append, ← hc]
    simp
  rw [hlines]
  exact (tableLines_rows_under_header hne _).trans (List.suffix_append _ _).isInfix

end Infix

/-! ## The summary, line by line -/

/-- The Markdown summary, read line by line. The endpoint table is there exactly when some endpoint
is orphaned; its rows are those of the first findings up to the row limit, in order, right under
its header and rule and followed by a blank line; the note on how many there were is there exactly
when rows were left out. Likewise the function table. The all-clear line closes a run whose
orphaned count is zero, and the recommendations close any other. Each row is one line with an open
bar around and between its cells, six in the endpoint table and five in the function table, and
holds a carriage return only where the file name, the label or the message of its finding does. -/
theorem markdown_lines_follow_findings (limits : ReportLimits) (r : AnalysisResult) :
    let lines := textLines (markdown limits r)
    let M := limits.maxTableRows
    let es := r.orphanedEndpoints
    let fs := r.orphanedFunctions
    ("### 🚫 Orphaned Endpoints".toList ∈ lines ↔ es ≠ []) ∧
    (noteLine M es.length "endpoints" ∈ lines ↔ M < es.length) ∧
    (es ≠ [] → ∃ rows,
      (["### 🚫 Orphaned Endpoints".toList, [],
          "| File | Endpoint | Reason | Confidence | Usage |".toList,
          "| --- | --- | --- | --- | --- |".toList] ++ rows ++ [[]]) <:+: lines ∧
      rows.length = min es.length M ∧
      List.Forall₂ (fun f row => RowReads (endpointRow f) 6
        [fileLabel f.item.file, f.item.label, f.message] row) (es.take M) rows) ∧
    ("### 🗑️ Orphaned Functions".toList ∈ lines ↔ fs ≠ []) ∧
    (noteLine M fs.length "functions" ∈ lines ↔ M < fs.length) ∧
    (fs ≠ [] → ∃ rows,
      (["### 🗑️ Orphaned Functions".toList, [], "| File | Function | Reason | Confidence |".toList,
          "| --- | --- | --- | --- |".toList] ++ rows ++ [[]]) <:+: lines ∧
      rows.length = min fs.length M ∧
      List.Forall₂ (fun f row => RowReads (functionRow f) 5
        [fileLabel f.item.file, f.item.label, f.message] row) (fs.take M) rows) ∧
    ("✅ **No orphaned code detected!** Your codebase looks clean.".toList ∈ lines ↔
      r.summary.orphanedCount = 0) ∧
    ("### 💡 Recommendations".toList ∈ lines ↔ r.summary.orphanedCount ≠ 0) := by
  intro lines M es fs
  refine ⟨endpointHeading_mem_iff limits r, endpointNote_mem_iff limits r, fun hne => ?_,
    functionHeading_mem_iff limits r, functionNote_mem_iff limits r, fun hne => ?_,
    allClear_mem_iff limits r, recommendationsHeading_mem_iff limits r⟩
  · refine ⟨_, endpointRows_under_header limits r hne, by simp [es, M, Nat.min_comm], ?_⟩
    exact List.forall₂_map_right_iff.2 (List.forall₂_same.2 fun f _ => endpointRow_reads f)
  · refine ⟨_, functionRows_under_header limits r hne, by simp [fs, M, Nat.min_comm], ?_⟩
    exact List.forall₂_map_right_iff.2 (List.forall₂_same.2 fun f _ => functionRow_reads f)

theorem mem_cell_of_mem {x : Char} (hbar : x ≠ '|') (hnl : x ≠ '\n') {s : String}
    (h : x ∈ s.toList) : x ∈ (cell s).toList := by
  rw [cell_toList, List.mem_flatMap]
  exact ⟨x, h, by simp [cellChar, hbar, hnl]⟩

theorem mem_rowLine_of_mem {x : Char} {c : String} {cells : List String} (hc : c ∈ cells)
    (h : x ∈ c.toList) : x ∈ rowLine cells := by
  simp only [rowLine, List.mem_append]
  exact .inl (.inr (Text.mem_intercalate_of_mem (List.mem_map_of_mem hc) h))

/-- The route of the line app.get('/a\rb', h) keeps its carriage return in the row of its
finding. -/
theorem markdown_row_keeps_return :
    let f := OrphanFinding.make (.endpoint
      { language := .javascript, file := "repo/routes.js", startLine := 1, endLine := 1,
        snippet := "app.get(\x27/a\rb\x27, h)", method := .get, route := "/a\rb",
        handler := some "h", framework := .express, confidence := 0.95 }) .handlerNotFound
    let r : AnalysisResult :=
      { orphanedEndpoints := [f], orphanedFunctions := [], activeEndpoints := [],
        summary :=
          { totalEndpoints := 1, totalFunctions := 0, orphanedCount := 1,
            confidenceThreshold := 0.8, analysisMode := .pr } }
    ∃ row ∈ textLines (markdown {} r), (endpointRow f).toList = row ++ ['\n'] ∧ '\r' ∈ row := by
  intro f r
  refine ⟨rowLine (endpointCells f), ?_, endpointRow_toList f, ?_⟩
  · apply (endpointRows_under_header {} r (by simp [r])).subset
    simp [r]
  · refine mem_rowLine_of_mem (c := cell (endpointLabel f)) (by simp [endpointCells]) ?_
    exact mem_cell_of_mem (by decide) (by decide) (by simp [f, endpointLabel, OrphanFinding.make,
      CodeItem.label, CodeEndpoint.label, HttpMethod.name])

end OrphanedCode.Report
