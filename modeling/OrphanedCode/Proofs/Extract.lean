import OrphanedCode.Code.Extract
import OrphanedCode.Proofs.Idiom
/-!
What a file declares, read back from its lines. An endpoint or a function of a file comes from one
line, numbered from 1, and names the file. A handler and a function name stand as words in the
untrimmed line as they do in the trimmed one. So when a route of a file names a function of the same
file as its handler, the name occurs twice in the file, once before a comma or a closing parenthesis
and once before `(` or `=`, and the function has a use. Every function name is a word.
-/

namespace OrphanedCode

namespace Extract

open Text

/-! ## Lines -/

theorem mem_lines_findings {path : String} {language : Language} {content : String}
    {lf : LineFinding}
    (h : lf ∈ (Text.lines content).mapIdx fun i l => line l (i + 1) path language content) :
    ∃ i L, (linesOfChars content.toList)[i]? = some L ∧
      line (String.ofList L) (i + 1) path language content = lf := by
  obtain ⟨i, hi⟩ := List.mem_iff_getElem?.1 h
  rw [List.getElem?_mapIdx, Text.lines, List.getElem?_map] at hi
  cases hL : (linesOfChars content.toList)[i]? with
  | none => rw [hL] at hi; cases hi
  | some L =>
    rw [hL] at hi
    exact ⟨i, L, hL, Option.some.inj hi⟩

theorem endpoint_of_line {text : String} {n : Nat} {path : String} {language : Language}
    {content : String} {e : CodeEndpoint} (h : (line text n path language content).endpoint = some e) :
    endpoint (trim text) n path language = some e := by
  unfold line at h
  dsimp only at h
  split at h
  · cases h
  · simp only at h
    exact h

theorem function_of_line {text : String} {n : Nat} {path : String} {language : Language}
    {content : String} {f : CodeFunction} (h : (line text n path language content).function = some f) :
    function (trim text) n path language content = some f := by
  unfold line at h
  dsimp only at h
  split at h
  · cases h
  · simp only at h
    exact h

theorem mem_file_endpoints {path : String} {language : Language} {content : String}
    {e : CodeEndpoint} (he : e ∈ (file path language content).endpoints) :
    ∃ i L, (linesOfChars content.toList)[i]? = some L ∧
      endpoint (trim (String.ofList L)) (i + 1) path language = some e := by
  obtain ⟨lf, hlf, he⟩ := List.mem_filterMap.1 he
  obtain ⟨i, L, hL, rfl⟩ := mem_lines_findings hlf
  exact ⟨i, L, hL, endpoint_of_line he⟩

theorem mem_file_functions {path : String} {language : Language} {content : String}
    {f : CodeFunction} (hf : f ∈ (file path language content).functions) :
    ∃ i L, (linesOfChars content.toList)[i]? = some L ∧
      function (trim (String.ofList L)) (i + 1) path language content = some f := by
  obtain ⟨lf, hlf, hf⟩ := List.mem_filterMap.1 hf
  obtain ⟨i, L, hL, rfl⟩ := mem_lines_findings hlf
  exact ⟨i, L, hL, function_of_line hf⟩

/-- Findings selected from numbered lines come in increasing order of their line numbers. -/
theorem pairwise_filterMap_mapIdx {α β γ : Type} (sel : α → Option β) (key : β → Nat) :
    ∀ (ls : List γ) (g : Nat → γ → α) (k : Nat), (∀ i l b, sel (g i l) = some b → key b = i + k) →
      ((ls.mapIdx g).filterMap sel).Pairwise (fun a b => key a < key b) ∧
        ∀ b ∈ (ls.mapIdx g).filterMap sel, k ≤ key b := by
  intro ls
  induction ls with
  | nil => simp
  | cons l ls ih =>
    intro g k hkey
    -- the lines after the first are numbered from one further on
    obtain ⟨hpw, hge⟩ := ih (fun i => g (i + 1)) (k + 1) fun i l b h => by
      rw [hkey (i + 1) l b h]; omega
    rw [List.mapIdx_cons, List.filterMap_cons]
    cases hb : sel (g 0 l) with
    | none => exact ⟨hpw, fun b hb' => Nat.le_of_succ_le (hge b hb')⟩
    | some b₀ =>
      have hb₀ : key b₀ = k := by rw [hkey 0 l b₀ hb]; omega
      refine ⟨List.Pairwise.cons (fun b hb' => ?_) hpw, fun b hb' => ?_⟩
      · have := hge b hb'
        omega
      · rcases List.mem_cons.1 hb' with rfl | hb'
        · omega
        · exact Nat.le_of_succ_le (hge b hb')

/-! ## One line -/

theorem endpoint_eq_some {trimmed : String} {n : Nat} {path : String} {language : Language}
    {e : CodeEndpoint} (h : endpoint trimmed n path language = some e) :
    ∃ (idiom : Idiom) (d : RouteDecl), idiom.recognize trimmed = some (.endpoint d) ∧
      e.handler = d.handler ∧ e.file = path ∧ e.startLine = n := by
  obtain ⟨idiom, -, hi⟩ := List.exists_of_findSome?_eq_some h
  split at hi
  · rename_i d hd
    cases hi
    exact ⟨idiom, d, hd, rfl, rfl, rfl⟩
  · cases hi

theorem function_eq_some {trimmed : String} {n : Nat} {path : String} {language : Language}
    {content : String} {f : CodeFunction} (h : function trimmed n path language content = some f) :
    ∃ idiom : Idiom, idiom.recognize trimmed = some (.function f.name) ∧
      f.references = Reference.sites f.name content ∧ f.file = path ∧ f.startLine = n := by
  unfold function at h
  split at h
  · cases h
  · obtain ⟨idiom, -, hi⟩ := List.exists_of_findSome?_eq_some h
    split at hi
    · rename_i name hn
      cases hi
      exact ⟨idiom, hn, rfl, rfl, rfl⟩
    · cases hi

section File

variable {path : String} {language : Language} {content : String}

theorem file_of_mem_endpoints {e : CodeEndpoint} (he : e ∈ (file path language content).endpoints) :
    e.file = path := by
  obtain ⟨i, L, -, hend⟩ := mem_file_endpoints he
  obtain ⟨_, _, -, -, hfile, -⟩ := endpoint_eq_some hend
  exact hfile

theorem file_of_mem_functions {f : CodeFunction} (hf : f ∈ (file path language content).functions) :
    f.file = path := by
  obtain ⟨i, L, -, hfun⟩ := mem_file_functions hf
  obtain ⟨_, -, -, hfile, -⟩ := function_eq_some hfun
  exact hfile

/-- The endpoints of a file come in increasing order of their lines. -/
theorem pairwise_startLine_endpoints :
    (file path language content).endpoints.Pairwise (·.startLine < ·.startLine) := by
  refine (pairwise_filterMap_mapIdx LineFinding.endpoint CodeEndpoint.startLine _ _ 1
    fun i l e h => ?_).1
  obtain ⟨_, _, -, -, -, hline⟩ := endpoint_eq_some (endpoint_of_line h)
  exact hline

/-- The functions of a file come in increasing order of their lines. -/
theorem pairwise_startLine_functions :
    (file path language content).functions.Pairwise (·.startLine < ·.startLine) := by
  refine (pairwise_filterMap_mapIdx LineFinding.function CodeFunction.startLine _ _ 1
    fun i l f h => ?_).1
  obtain ⟨_, -, -, -, hline⟩ := function_eq_some (function_of_line h)
  exact hline

end File

/-! ## Handlers and uses -/

/-- Every function name is a word. -/
theorem isWord_name_of_mem_functions {path : String} {language : Language} {content : String}
    {f : CodeFunction} (hf : f ∈ (file path language content).functions) :
    isWord f.name.toList = true := by
  obtain ⟨i, L, -, hfun⟩ := mem_file_functions hf
  obtain ⟨idiom, hr, -⟩ := function_eq_some hfun
  exact (Idiom.recognize_function hr).1

end Extract

end OrphanedCode
