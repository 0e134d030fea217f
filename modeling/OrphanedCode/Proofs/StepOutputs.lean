import OrphanedCode.Report.Workflow
import OrphanedCode.Proofs.Markdown
import Mathlib.Tactic.IntervalCases
/-!
The step outputs of a run read back.

Compact JSON text holds no control character: every character below U+0020 inside a string is
written as an escape, numbers and literals are printable, and the compact layout breaks no line.
The step outputs are therefore exactly five lines, each ended by a line feed, and each line cut at
its first `=` gives back its key and its value: the two lists of findings and the summary as
compact JSON, the orphaned count and the number of active endpoints in decimal. Whatever the
findings hold (paths, routes, messages with line feeds, carriage returns or `=`), no line is added
or split.
-/

namespace OrphanedCode

/-! ## Texts without control characters -/

namespace Json

/-- A text with no control character below U+0020, so no line feed, carriage return or tab. -/
def NoControl (cs : List Char) : Prop :=
  ∀ c ∈ cs, 0x20 ≤ c.toNat

@[simp] theorem noControl_nil : NoControl [] := by
  simp [NoControl]

@[simp] theorem noControl_cons {c : Char} {cs : List Char} :
    NoControl (c :: cs) ↔ 0x20 ≤ c.toNat ∧ NoControl cs := by
  simp [NoControl]

@[simp] theorem noControl_append {a b : List Char} :
    NoControl (a ++ b) ↔ NoControl a ∧ NoControl b := by
  simp only [NoControl, List.mem_append, or_imp, forall_and]

theorem NoControl.sublist {a b : List Char} (hb : NoControl b) (h : a.Sublist b) : NoControl a :=
  fun c hc => hb c (h.subset hc)

theorem noControl_join {ts : List String} (h : ∀ t ∈ ts, NoControl t.toList) :
    NoControl (String.join ts).toList := by
  rw [String.toList_join]
  intro c hc
  obtain ⟨t, ht, hct⟩ := List.mem_flatMap.1 hc
  exact h t ht c hct

theorem NoControl.not_mem_newline {cs : List Char} (h : NoControl cs) : '\n' ∉ cs :=
  fun hc => absurd (h '\n' hc) (by decide)

/-! ## Digits -/

theorem digitChar_of_ge {d : Nat} (hd : 16 ≤ d) : Nat.digitChar d = '*' := by
  rw [Nat.digitChar]
  repeat rw [if_neg (by omega)]

/-- Every digit, up to the `*` written for digits past `f`, is printable. -/
theorem digitChar_printable (d : Nat) : 0x20 ≤ (Nat.digitChar d).toNat := by
  by_cases hd : d < 16
  · interval_cases d <;> decide
  · rw [digitChar_of_ge (by omega)]
    decide

theorem noControl_toDigitsCore (b : Nat) :
    ∀ (fuel n : Nat) (ds : List Char), NoControl ds → NoControl (Nat.toDigitsCore b fuel n ds)
  | 0, _, _, hds => hds
  | fuel + 1, n, ds, hds => by
    have hd : NoControl (Nat.digitChar (n % b) :: ds) :=
      noControl_cons.2 ⟨digitChar_printable _, hds⟩
    rw [Nat.toDigitsCore]
    split
    · exact hd
    · exact noControl_toDigitsCore b fuel _ _ hd

theorem noControl_toDigits (b n : Nat) : NoControl (Nat.toDigits b n) :=
  noControl_toDigitsCore b _ n [] noControl_nil

theorem noControl_digitText (n : Nat) : NoControl (Binary64.digitText n).toList := by
  simp [Binary64.digitText, noControl_toDigits]

theorem noControl_replicate_zero (n : Nat) : NoControl (List.replicate n '0') := by
  intro c hc
  rw [List.eq_of_mem_replicate hc]
  decide

theorem noControl_zeros (n : Nat) : NoControl (Binary64.zeros n).toList := by
  simpa [Binary64.zeros] using noControl_replicate_zero n

/-! ## JSON text -/

theorem noControl_hex4 (n : Nat) : NoControl (hex4 n).toList := by
  simp [hex4, noControl_replicate_zero, noControl_toDigits]

/-- An escaped character is printable, whatever the style. -/
theorem noControl_escapeChar (style : Style) (c : Char) : NoControl (escapeChar style c).toList := by
  unfold escapeChar
  split
  case h_8 =>
    -- any other character below U+0020 becomes a `\u` escape, and from U+0020 on stands for itself
    split_ifs with hlow
    · simp [noControl_hex4]
    · simp [noControl_hex4]
    · simp
      omega
  all_goals simp

theorem noControl_quoteString (style : Style) (s : String) :
    NoControl (quoteString style s).toList := by
  have hbody : NoControl (String.join (s.toList.map (escapeChar style))).toList := by
    apply noControl_join
    intro t ht
    obtain ⟨c, -, rfl⟩ := List.mem_map.1 ht
    exact noControl_escapeChar style c
  rw [String.toList_join] at hbody
  simp [quoteString, hbody]

theorem noControl_exponentText (k : Int) : NoControl (Binary64.exponentText k).toList := by
  unfold Binary64.exponentText
  split <;> simp [noControl_digitText]

theorem noControl_jsonDigits (d : Nat) (p : Int) : NoControl (Binary64.jsonDigits d p).toList := by
  have hds := noControl_toDigits 10 d
  have htake : ∀ k, NoControl ((Nat.toDigits 10 d).take k) :=
    fun k => hds.sublist (List.take_sublist _ _)
  have hdrop : ∀ k, NoControl ((Nat.toDigits 10 d).drop k) :=
    fun k => hds.sublist (List.drop_sublist _ _)
  have htail : NoControl (Nat.toDigits 10 d).tail := hds.sublist (List.tail_sublist _)
  unfold Binary64.jsonDigits
  dsimp only
  split_ifs <;> simp [noControl_exponentText, noControl_zeros, hds, htake, hdrop, htail]

theorem noControl_jsonText (x : Float) : NoControl (Binary64.jsonText x).toList := by
  unfold Binary64.jsonText
  split
  · simp
  · simp
  · split_ifs <;> simp [noControl_jsonDigits]

@[simp] theorem lineBreak_compactStyle (d : Nat) : lineBreak compactStyle d = "" := rfl

@[simp] theorem keySeparator_compactStyle : keySeparator compactStyle = ":" := rfl

/- The compact layout puts no line break between elements, so a value's text is printable when
its strings, numbers and literals are; the induction follows the nesting of the value. -/
mutual

theorem noControl_write (d : Nat) : (v : Json) → NoControl (write compactStyle d v).toList
  | .null => by simp [write]
  | .bool b => by cases b <;> simp [write]
  | .nat n => by simpa [write] using noControl_digitText n
  | .num x => by simpa [write] using noControl_jsonText x
  | .str s => by simpa [write] using noControl_quoteString compactStyle s
  | .arr [] => by simp [write]
  | .arr (v :: vs) => by
    simp [write, noControl_write (d + 1) v, noControl_writeItems (d + 1) vs]
  | .obj [] => by simp [write]
  | .obj ((k, v) :: fs) => by
    simp [write, noControl_quoteString, noControl_write (d + 1) v,
      noControl_writeFields (d + 1) fs]

theorem noControl_writeItems (d : Nat) :
    (vs : List Json) → NoControl (writeItems compactStyle d vs).toList
  | [] => by simp [writeItems]
  | v :: vs => by
    simp [writeItems, noControl_write d v, noControl_writeItems d vs]

theorem noControl_writeFields (d : Nat) :
    (fs : List (String × Json)) → NoControl (writeFields compactStyle d fs).toList
  | [] => by simp [writeFields]
  | (k, v) :: fs => by
    simp [writeFields, noControl_quoteString, noControl_write d v, noControl_writeFields d fs]

end

/-- Compact JSON text holds no control character, a line feed least of all. -/
theorem noControl_compact (v : Json) : NoControl (compact v).toList :=
  noControl_write 0 v

end Json

/-! ## Step outputs -/

namespace Report

/-- The line `key=value`, without its line feed. -/
def outputLine (key value : String) : List Char :=
  key.toList ++ '=' :: value.toList

/-- A line cut at its first `=` into a key and a value; none when it holds no `=`. -/
def keyValue? (l : List Char) : Option (List Char × List Char) :=
  match l.dropWhile (· != '=') with
  | [] => none
  | _ :: value => some (l.takeWhile (· != '='), value)

/-- A key without `=` is cut back off its line, whatever the value holds. -/
theorem keyValue?_outputLine {key : String} (hkey : '=' ∉ key.toList) (value : String) :
    keyValue? (outputLine key value) = some (key.toList, value.toList) := by
  have hall : ∀ c ∈ key.toList, (c != '=') = true := by
    intro c hc
    simpa using fun h : c = '=' => hkey (h ▸ hc)
  simp [keyValue?, outputLine, List.takeWhile_append_of_pos hall,
    List.dropWhile_append_of_pos hall]

theorem newline_not_mem_outputLine {key value : String} (hkey : '\n' ∉ key.toList)
    (hvalue : Json.NoControl value.toList) : '\n' ∉ outputLine key value := by
  simp [outputLine, hkey, hvalue.not_mem_newline]

/-- The lines of the step outputs, without their line feeds. -/
def stepLines (r : AnalysisResult) : List (List Char) :=
  [outputLine "orphaned-endpoints" (Json.compact (.arr (r.orphanedEndpoints.map OrphanFinding.toJson))),
    outputLine "orphaned-functions" (Json.compact (.arr (r.orphanedFunctions.map OrphanFinding.toJson))),
    outputLine "orphaned-count" (toString r.summary.orphanedCount),
    outputLine "active-endpoints" (toString r.activeEndpoints.length),
    outputLine "analysis-summary" (Json.compact r.summary.toJson)]

theorem stepOutputs_toList (r : AnalysisResult) :
    (stepOutputs r).toList = joinLines (stepLines r) := by
  simp only [stepOutputs, stepLines, String.toList_join, List.map_cons, List.map_nil,
    List.flatMap_cons, List.flatMap_nil, joinLines, outputLine, String.toList_append,
    List.append_assoc]
  simp

theorem noControl_toString (n : Nat) : Json.NoControl (toString n).toList := by
  simpa [Nat.toString_eq_ofList_toDigits] using Json.noControl_toDigits 10 n

/-- No line of the step outputs holds a line feed: the keys are fixed words, and every value is
printable. -/
theorem newline_not_mem_stepLines (r : AnalysisResult) : ∀ l ∈ stepLines r, '\n' ∉ l := by
  simp only [stepLines, List.mem_cons, List.not_mem_nil, or_false]
  rintro l (rfl | rfl | rfl | rfl | rfl)
  · exact newline_not_mem_outputLine (by simp) (Json.noControl_compact _)
  · exact newline_not_mem_outputLine (by simp) (Json.noControl_compact _)
  · exact newline_not_mem_outputLine (by simp) (noControl_toString _)
  · exact newline_not_mem_outputLine (by simp) (noControl_toString _)
  · exact newline_not_mem_outputLine (by simp) (Json.noControl_compact _)

/-- The step outputs are five lines, each ended by a line feed: the two lists of findings, the
orphaned count, the number of active endpoints and the summary. Cut at its first `=`, each line
gives back its key and its value: compact JSON for the lists and the summary, decimal digits for
the two counts. Nothing the findings hold adds or splits a line. -/
theorem stepOutputs_lines_read_back (r : AnalysisResult) :
    ∃ lines, textLines (stepOutputs r) = lines ++ [[]] ∧
      lines.map keyValue? =
        [some ("orphaned-endpoints".toList,
            (Json.compact (.arr (r.orphanedEndpoints.map OrphanFinding.toJson))).toList),
          some ("orphaned-functions".toList,
            (Json.compact (.arr (r.orphanedFunctions.map OrphanFinding.toJson))).toList),
          some ("orphaned-count".toList, Nat.toDigits 10 r.summary.orphanedCount),
          some ("active-endpoints".toList, Nat.toDigits 10 r.activeEndpoints.length),
          some ("analysis-summary".toList, (Json.compact r.summary.toJson).toList)] := by
  refine ⟨stepLines r, ?_, ?_⟩
  · rw [textLines, stepOutputs_toList, splitOn_joinLines (newline_not_mem_stepLines r)]
  · simp only [stepLines, List.map_cons, List.map_nil]
    rw [keyValue?_outputLine (by simp), keyValue?_outputLine (by simp),
      keyValue?_outputLine (by simp), keyValue?_outputLine (by simp),
      keyValue?_outputLine (by simp)]
    simp

end Report

end OrphanedCode
