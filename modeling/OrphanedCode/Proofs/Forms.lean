import OrphanedCode.Proofs.Idiom
import Mathlib
/-!
Each idiom accepts the form it documents and reads back exactly its parts.

An express route `app.get('/users/:id', getUser)` is recognised for either object, `app` or
`router`, every method spelled in any ASCII case, every non-empty route without quotes between any
two quotes, and every dotted identifier as handler, followed by nothing or by more arguments after
a comma. A flask route `@app.route('/path')`, with or without `, methods=['POST']`, and a spring
mapping `@GetMapping("/path")` are recognised likewise. A function statement
`export async function name(` and a binding `const name = (…) =>`, `let name = x =>`,
`var name = function (` or `function* (`, each with its optional words, are recognised with their
name, for every word as name.

A reader run at the front of such a line reads each part in turn. A form that opens with optional
words is read where its keyword stands: no reader starts on the letters of the words before it, so
the leftmost search passes them by.
-/

namespace OrphanedCode

/-! ## The documented lines -/

namespace Idiom

open Reader Text

/-- The function values a binding documents: an arrow function from a parenthesised parameter
list or from a single parameter, and a function expression, plain or a generator. -/
inductive FunctionForm : String → Prop
  | arrow {params rest : String} : ')' ∉ params.toList →
      FunctionForm ("(" ++ params ++ ") =>" ++ rest)
  | arrowParameter {param rest : String} : isWord param.toList = true →
      FunctionForm (param ++ " =>" ++ rest)
  | expression (rest : String) : FunctionForm ("function (" ++ rest)
  | generator (rest : String) : FunctionForm ("function* (" ++ rest)

/-- The lines each idiom documents, with what it recognises on them. A route is a non-empty text
without quotes between any two quotes, a verb names a method in any ASCII case, and a handler is
a dotted identifier. -/
inductive DocumentedLine : Idiom → String → Recognized → Prop
  /-- `app.get('/users', getUser)`, or `router.` in place of `app.`, with more arguments allowed
  after the handler. -/
  | express {obj v r h x : String} {m : HttpMethod} {q1 q2 : Char} :
      obj = "app" ∨ obj = "router" → HttpMethod.asciiUpper v = m.name → r ≠ "" →
      (∀ c ∈ r.toList, isQuote c = false) → isQuote q1 = true → isQuote q2 = true →
      isHandlerIdentifier h.toList = true → (x = "" ∨ x.toList.head? = some ',') →
      DocumentedLine .expressRoute
        (obj ++ "." ++ v ++ "(" ++ q1.toString ++ r ++ q2.toString ++ ", " ++ h ++ x ++ ")")
        (.endpoint ⟨m, r, some h, .express⟩)
  /-- `@app.route('/path')`, for GET. -/
  | flask {r : String} {q1 q2 : Char} :
      r ≠ "" → (∀ c ∈ r.toList, isQuote c = false) → isQuote q1 = true → isQuote q2 = true →
      DocumentedLine .flaskRoute ("@app.route(" ++ q1.toString ++ r ++ q2.toString ++ ")")
        (.endpoint ⟨.get, r, none, .flask⟩)
  /-- `@app.route('/path', methods=['POST'])`. -/
  | flaskMethods {r v : String} {m : HttpMethod} {q1 q2 q3 q4 : Char} :
      r ≠ "" → (∀ c ∈ r.toList, isQuote c = false) → isQuote q1 = true → isQuote q2 = true →
      HttpMethod.asciiUpper v = m.name → isQuote q3 = true → isQuote q4 = true →
      DocumentedLine .flaskRoute
        ("@app.route(" ++ q1.toString ++ r ++ q2.toString ++ ", methods=[" ++ q3.toString ++ v ++
          q4.toString ++ "])")
        (.endpoint ⟨m, r, none, .flask⟩)
  /-- `@GetMapping("/path")`. -/
  | spring {v r : String} {m : HttpMethod} {q1 q2 : Char} :
      m ∈ [.get, .post, .put, .delete, .patch] → HttpMethod.asciiUpper v = m.name → r ≠ "" →
      (∀ c ∈ r.toList, isQuote c = false) → isQuote q1 = true → isQuote q2 = true →
      DocumentedLine .springMapping
        ("@" ++ v ++ "Mapping(" ++ q1.toString ++ r ++ q2.toString ++ ")")
        (.endpoint ⟨m, r, none, .spring⟩)
  /-- `export async function name(`. -/
  | functionStatement {pre name x : String} :
      pre ∈ ["", "export ", "async ", "export async "] → isWord name.toList = true →
      DocumentedLine .functionStatement (pre ++ "function " ++ name ++ "(" ++ x) (.function name)
  /-- `export const name = async (…) =>`. -/
  | binding {pre kw name asy value : String} :
      pre ∈ ["", "export "] → kw ∈ ["const", "let", "var"] → isWord name.toList = true →
      asy ∈ ["", "async "] → FunctionForm value →
      DocumentedLine .anonymousBinding (pre ++ kw ++ " " ++ name ++ " = " ++ asy ++ value)
        (.function name)

end Idiom

namespace Reader

open Text

/-! ## Readers accept what they read -/

theorem word_append (w rest : List Char) : word w (w ++ rest) = some rest := by
  induction w with
  | nil => rfl
  | cons p ps ih => simp [word, ih]

theorem char_cons (p : Char) (rest : List Char) : char p (p :: rest) = some rest := by
  simp [char]

theorem blanks_eq_self {rest : List Char} (hrest : ∀ c, rest.head? = some c → isBlank c = false) :
    blanks rest = rest := by
  cases rest with
  | nil => rfl
  | cons c cs => exact List.dropWhile_cons_of_neg (by simp [hrest c rfl])

theorem blanks_cons {c : Char} (hc : isBlank c = false) (rest : List Char) :
    blanks (c :: rest) = c :: rest :=
  blanks_eq_self fun _ h => by cases h; exact hc

theorem blanks1_space {rest : List Char} (hrest : ∀ c, rest.head? = some c → isBlank c = false) :
    blanks1 (' ' :: rest) = some rest := by
  rw [blanks1, if_pos (by decide), blanks_eq_self hrest]

theorem blanks_cons_blank {c : Char} (hc : isBlank c = true) (rest : List Char) :
    blanks (c :: rest) = blanks rest :=
  List.dropWhile_cons_of_pos hc

theorem quote_cons {q : Char} (hq : isQuote q = true) (rest : List Char) :
    quote (q :: rest) = some rest := by
  simp [quote, hq]

/-- A run is read up to the first character outside it. -/
theorem run1_append {p : Char → Bool} {run rest : List Char} (hne : run ≠ [])
    (hrun : ∀ c ∈ run, p c = true) (hstop : ∀ c, rest.head? = some c → p c = false) :
    run1 p (run ++ rest) = some (run, rest) := by
  have htake : (run ++ rest).takeWhile p = run := by
    rw [List.takeWhile_append_of_pos hrun]
    cases rest with
    | nil => simp
    | cons c cs => simp [hstop c rfl]
  have hdrop : (run ++ rest).dropWhile p = rest := by
    rw [List.dropWhile_append_of_pos hrun]
    cases rest with
    | nil => rfl
    | cons c cs => exact List.dropWhile_cons_of_neg (by simp [hstop c rfl])
  simp [run1, htake, hdrop, hne]

theorem isQuote_cases {q : Char} (hq : isQuote q = true) : q = '\x27' ∨ q = '"' ∨ q = '\x60' := by
  simpa [isQuote, or_assoc] using hq

theorem isBlank_of_isQuote {q : Char} (hq : isQuote q = true) : isBlank q = false := by
  rcases isQuote_cases hq with rfl | rfl | rfl <;> decide

theorem isWordChar_of_isQuote {q : Char} (hq : isQuote q = true) : isWordChar q = false := by
  rcases isQuote_cases hq with rfl | rfl | rfl <;> decide

/-- A quoted text is read between any two quotes. -/
theorem quoted_form {q1 q2 : Char} (hq1 : isQuote q1 = true) (hq2 : isQuote q2 = true)
    {body : List Char} (hne : body ≠ []) (hbody : ∀ c ∈ body, isQuote c = false)
    (rest : List Char) : quoted (q1 :: (body ++ q2 :: rest)) = some (body, rest) := by
  have hrun : run1 (fun c => !isQuote c) (body ++ q2 :: rest) = some (body, q2 :: rest) :=
    run1_append hne (fun c hc => by simp [hbody c hc]) (fun c hc => by cases hc; simp [hq2])
  simp [quoted, quote, hq1, hrun, hq2]

theorem leftmost_of_eq_some {α : Type} {m : List Char → Option α} {cs : List Char} {a : α}
    (h : m cs = some a) : leftmost m cs = some a := by
  cases cs with
  | nil => exact h
  | cons c cs => rw [leftmost, h]

/-- The leftmost search passes by characters at which the reader cannot start. -/
theorem leftmost_append_of_head_fails {α : Type} {m : List Char → Option α}
    {skip rest : List Char} (h : ∀ c ∈ skip, ∀ t, m (c :: t) = none) :
    leftmost m (skip ++ rest) = leftmost m rest := by
  induction skip with
  | nil => rfl
  | cons c cs ih =>
    rw [List.cons_append, leftmost, h c List.mem_cons_self]
    exact ih fun d hd t => h d (List.mem_cons_of_mem _ hd) t

/-! ## Words read without regard to case -/

/-- A word is read without regard to case from any spelling with the same ASCII lower case. -/
theorem caseless_append {w v : List Char} (hv : v.map Char.toLower = w.map Char.toLower)
    (rest : List Char) : caseless w (v ++ rest) = some rest := by
  induction w generalizing v with
  | nil =>
    rw [List.map_nil, List.map_eq_nil_iff] at hv
    subst hv
    rfl
  | cons p ps ih =>
    cases v with
    | nil => simp at hv
    | cons c cs =>
      simp only [List.map_cons, List.cons.injEq] at hv
      rw [List.cons_append, caseless, if_pos (by simp [caselessEq, hv.1]), ih hv.2]

/-- A word read without regard to case over an ASCII spelling agrees with it in lower case as far
as both go: the Kelvin sign and the long s, which fold onto ASCII letters, are not ASCII. -/
theorem prefix_of_caseless {w v rest r : List Char} (hv : ∀ c ∈ v, c.toNat < 128)
    (h : caseless w (v ++ rest) = some r) :
    w.map Char.toLower <+: v.map Char.toLower ∨ v.map Char.toLower <+: w.map Char.toLower := by
  induction w generalizing v with
  | nil => exact .inl List.nil_prefix
  | cons p ps ih =>
    cases v with
    | nil => exact .inr List.nil_prefix
    | cons c cs =>
      rw [List.cons_append, caseless] at h
      split at h
      · rename_i heq
        have hc := hv c List.mem_cons_self
        have hlow : p.toLower = c.toLower := by
          simp only [caselessEq, Bool.or_eq_true, Bool.and_eq_true, beq_iff_eq] at heq
          rcases heq with (hlow | ⟨-, rfl⟩) | ⟨-, rfl⟩
          · exact hlow
          · simp at hc
          · simp at hc
        simp only [List.map_cons, List.cons_prefix_cons, hlow, true_and]
        exact ih (fun x hx => hv x (List.mem_cons_of_mem _ hx)) h
      · cases h

theorem findSome?_eq_of_unique {α β : Type} {l : List α} {f : α → Option β} {a : α} {b : β}
    (ha : a ∈ l) (hfa : f a = some b) (huniq : ∀ x ∈ l, (f x).isSome → x = a) :
    l.findSome? f = some b := by
  induction l with
  | nil => cases ha
  | cons x xs ih =>
    rw [List.findSome?_cons]
    cases hfx : f x with
    | some y =>
      have hxa := huniq x List.mem_cons_self (by simp [hfx])
      subst hxa
      rw [hfa] at hfx
      cases hfx
      rfl
    | none =>
      have hax : a ≠ x := by
        rintro rfl
        rw [hfa] at hfx
        cases hfx
      exact ih ((List.mem_cons.1 ha).resolve_left hax) fun y hy =>
        huniq y (List.mem_cons_of_mem _ hy)

/-- Of words no two of which begin one another in lower case, the one spelled in ASCII at the
front is read, and the spelling is returned as written. -/
theorem caselessChoice_append {ws : List String} {w : String} (hw : w ∈ ws)
    (hfree : ∀ a ∈ ws, (a.toList.map Char.toLower <+: w.toList.map Char.toLower ∨
      w.toList.map Char.toLower <+: a.toList.map Char.toLower) → a = w)
    {v : List Char} (hv : v.map Char.toLower = w.toList.map Char.toLower)
    (hascii : ∀ c ∈ v, c.toNat < 128) (rest : List Char) :
    caselessChoice ws (v ++ rest) = some (v, rest) := by
  have hlen : w.length = v.length := by
    rw [← String.length_toList, ← List.length_map (f := Char.toLower), ← hv, List.length_map]
  refine findSome?_eq_of_unique hw ?_ fun a _ hsome => ?_
  · rw [caseless_append hv, Option.map_some, hlen, List.take_left]
  · obtain ⟨⟨_, r⟩, hr⟩ := Option.isSome_iff_exists.1 hsome
    obtain ⟨r', hr', -⟩ := Option.map_eq_some_iff.1 hr
    exact hfree a ‹_› (hv ▸ prefix_of_caseless hascii hr')


/-! ## Verbs spelled in any case -/

/-- Two spellings with the same upper case have the same lower case. -/
theorem map_toLower_of_map_toUpper {a b : List Char}
    (h : a.map Char.toUpper = b.map Char.toUpper) : a.map Char.toLower = b.map Char.toLower := by
  have := congrArg (List.map Char.toLower) h
  simpa [List.map_map, Function.comp_def, Char.toLower_toUpper_eq_toLower] using this

/-- A spelling of a method's name is ASCII: upper-casing changes only ASCII letters. -/
theorem spelling_ascii {m : HttpMethod} {v : List Char} (hv : v.map Char.toUpper = m.name.toList) :
    ∀ c ∈ v, c.toNat < 128 := by
  intro c hc
  have hup : c.toUpper ∈ m.name.toList := hv ▸ List.mem_map_of_mem hc
  have hname : ∀ d ∈ m.name.toList, d.toNat < 128 := by cases m <;> simp [HttpMethod.name]
  by_cases hl : c.isLower = true
  · have hval : c.toNat = c.val.toNat := rfl
    simp only [Char.isLower, Bool.and_eq_true, decide_eq_true_eq, UInt32.le_iff_toNat_le] at hl
    rw [hval]
    exact Nat.lt_of_le_of_lt hl.2 (by decide)
  · rw [Char.toUpper_eq_of_not_isLower hl] at hup
    exact hname c hup

/-- A spelling of a method's name is made of word characters. -/
theorem spelling_word {m : HttpMethod} {v : List Char} (hv : v.map Char.toUpper = m.name.toList) :
    ∀ c ∈ v, isWordChar c = true := by
  intro c hc
  have hup : c.toUpper ∈ m.name.toList := hv ▸ List.mem_map_of_mem hc
  have hname : ∀ d ∈ m.name.toList, d.isAlpha = true := by cases m <;> simp [HttpMethod.name]
  have halpha := hname _ hup
  rw [Char.isAlpha_toUpper_eq_isAlpha] at halpha
  simp [isWordChar, spelling_ascii hv c hc, Char.isAlphanum, halpha]

/-- A verb spelled in any ASCII case names the method whose name is its upper case. -/
theorem parse?_of_asciiUpper {v : String} {m : HttpMethod} (hv : HttpMethod.asciiUpper v = m.name) :
    HttpMethod.parse? v = some m := by
  rw [HttpMethod.parse?, hv]
  cases m <;> rfl

theorem map_toUpper_of_asciiUpper {v : String} {m : HttpMethod}
    (hv : HttpMethod.asciiUpper v = m.name) : v.toList.map Char.toUpper = m.name.toList := by
  rw [← hv, HttpMethod.asciiUpper, String.toList_ofList]

theorem exists_expressVerb (m : HttpMethod) :
    ∃ w ∈ expressVerbs, w.toList.map Char.toUpper = m.name.toList := by
  cases m <;> decide

theorem exists_springVerb {m : HttpMethod} (hm : m ∈ [.get, .post, .put, .delete, .patch]) :
    ∃ w ∈ springVerbs, w.toList.map Char.toUpper = m.name.toList := by
  simp only [List.mem_cons, List.not_mem_nil, or_false] at hm
  rcases hm with rfl | rfl | rfl | rfl | rfl <;> decide

theorem expressVerbs_prefix_free : ∀ w ∈ expressVerbs, ∀ a ∈ expressVerbs,
    (a.toList.map Char.toLower <+: w.toList.map Char.toLower ∨
      w.toList.map Char.toLower <+: a.toList.map Char.toLower) → a = w := by
  decide

theorem springVerbs_prefix_free : ∀ w ∈ springVerbs, ∀ a ∈ springVerbs,
    (a.toList.map Char.toLower <+: w.toList.map Char.toLower ∨
      w.toList.map Char.toLower <+: a.toList.map Char.toLower) → a = w := by
  decide

/-- A method's name spelled in ASCII at the front is read as the verb of a route idiom whose verbs
include the method's, no two of them beginning one another. -/
theorem caselessChoice_spelling {ws : List String}
    (hfree : ∀ w ∈ ws, ∀ a ∈ ws, (a.toList.map Char.toLower <+: w.toList.map Char.toLower ∨
      w.toList.map Char.toLower <+: a.toList.map Char.toLower) → a = w)
    {m : HttpMethod} (hm : ∃ w ∈ ws, w.toList.map Char.toUpper = m.name.toList) {v : List Char}
    (hv : v.map Char.toUpper = m.name.toList) (rest : List Char) :
    caselessChoice ws (v ++ rest) = some (v, rest) := by
  obtain ⟨w, hw, hwm⟩ := hm
  exact caselessChoice_append hw (hfree w hw) (map_toLower_of_map_toUpper (hv.trans hwm.symm))
    (spelling_ascii hv) rest

/-! ## Handlers -/

theorem isAlphanum_toNat {c : Char} (h : c.isAlphanum = true) :
    48 ≤ c.toNat ∧ c.toNat ≤ 57 ∨ 65 ≤ c.toNat ∧ c.toNat ≤ 90 ∨ 97 ≤ c.toNat ∧ c.toNat ≤ 122 := by
  have hval : c.toNat = c.val.toNat := rfl
  simp [Char.isAlphanum, Char.isAlpha, Char.isUpper, Char.isLower, Char.isDigit,
    UInt32.le_iff_toNat_le] at h
  rw [hval]
  omega

/-- A character of a dotted identifier is an ASCII letter or digit, `_`, `$` or `.`. -/
theorem identifier_char {h : List Char} (hh : isHandlerIdentifier h = true) {c : Char}
    (hc : c ∈ h) : c.isAlphanum = true ∨ c = '_' ∨ c = '$' ∨ c = '.' := by
  rw [isHandlerIdentifier, Bool.and_eq_true, List.all_eq_true] at hh
  rw [← intercalate_splitChars '.' h] at hc
  rcases mem_intercalate hc with rfl | ⟨part, hpart, hcp⟩
  · simp
  · have hp := hh.2 part hpart
    cases part with
    | nil => cases hp
    | cons d rest =>
      simp only [Bool.and_eq_true, Bool.or_eq_true, beq_iff_eq, List.all_eq_true] at hp
      rcases List.mem_cons.1 hcp with rfl | hr
      · rcases hp.1 with (ha | hu) | hd
        · exact .inl (by simp [Char.isAlphanum, ha])
        · exact .inr (.inl hu)
        · exact .inr (.inr (.inl hd))
      · rcases hp.2 c hr with (ha | hu) | hd
        · exact .inl ha
        · exact .inr (.inl hu)
        · exact .inr (.inr (.inl hd))

/-- A character of a dotted identifier is not blank, and is neither a comma nor a closing
parenthesis. -/
theorem identifier_char_facts {h : List Char} (hh : isHandlerIdentifier h = true) {c : Char}
    (hc : c ∈ h) : isBlank c = false ∧ c ≠ ',' ∧ c ≠ ')' := by
  rcases identifier_char hh hc with ha | rfl | rfl | rfl
  · have hn := isAlphanum_toNat ha
    refine ⟨?_, fun hc => ?_, fun hc => ?_⟩
    · simp only [isBlank]
      simp only [Bool.or_eq_false_iff, Bool.and_eq_false_iff, decide_eq_false_iff_not,
        beq_eq_false_iff_ne]
      omega
    · subst hc; simp at hn
    · subst hc; simp at hn
  all_goals decide

theorem ne_nil_of_isHandlerIdentifier {h : List Char} (hh : isHandlerIdentifier h = true) :
    h ≠ [] := by
  rintro rfl
  cases hh

theorem trimChars_of_not_blank {cs : List Char} (h : ∀ c ∈ cs, isBlank c = false) :
    trimChars cs = cs := by
  have hfront : cs.dropWhile isBlank = cs := by
    cases cs with
    | nil => rfl
    | cons c cs => exact List.dropWhile_cons_of_neg (by simp [h c List.mem_cons_self])
  have hback : cs.reverse.dropWhile isBlank = cs.reverse := by
    cases hcs : cs.reverse with
    | nil => rfl
    | cons c cs' =>
      have hmem : c ∈ cs := List.mem_reverse.1 (hcs ▸ List.mem_cons_self)
      exact List.dropWhile_cons_of_neg (by simp [h c hmem])
  rw [trimChars, hfront, dropBlankEnd, hback, List.reverse_reverse]

/-- A dotted identifier, whatever follows it, opens with no blank. -/
theorem head_not_blank_of_identifier {h : List Char} (hh : isHandlerIdentifier h = true)
    (rest : List Char) : ∀ c, (h ++ rest).head? = some c → isBlank c = false := by
  intro c hc
  rw [List.head?_append_of_ne_nil _ (ne_nil_of_isHandlerIdentifier hh)] at hc
  exact (identifier_char_facts hh (List.mem_of_mem_head? hc)).1

/-- Trimming a text that opens with no blank drops blanks at its end only. -/
theorem trimChars_split_of_head {cs : List Char}
    (hhead : ∀ c, cs.head? = some c → isBlank c = false) :
    ∃ trail, cs = trimChars cs ++ trail ∧ ∀ c ∈ trail, isBlank c = true := by
  obtain ⟨lead, trail, hsplit, hlead, htrail⟩ := trimChars_spec cs
  cases lead with
  | nil => exact ⟨trail, hsplit, htrail⟩
  | cons l ls =>
    have hl := hhead l (by rw [hsplit]; rfl)
    rw [hlead l List.mem_cons_self] at hl
    cases hl

/-- Trimming keeps a dotted identifier in front, followed by nothing or by a comma: the blanks it
drops at the end stand after the identifier, or after the comma that follows it. -/
theorem trimChars_identifier_append {h y : List Char} (hh : isHandlerIdentifier h = true)
    (hy : y = [] ∨ y.head? = some ',') :
    ∃ z, trimChars (h ++ y) = h ++ z ∧ (z = [] ∨ z.head? = some ',') := by
  have hfacts := fun c (hc : c ∈ h) => identifier_char_facts hh hc
  obtain ⟨trail, hsplit, htrail⟩ :=
    trimChars_split_of_head (head_not_blank_of_identifier hh y)
  rcases hy with rfl | hy
  · -- the identifier has no blank, so nothing is dropped
    refine ⟨[], ?_, .inl rfl⟩
    cases trail with
    | nil =>
      simp only [List.append_nil] at hsplit ⊢
      exact hsplit.symm
    | cons t ts =>
      have ht : t ∈ h := by
        rw [List.append_nil] at hsplit
        rw [hsplit]
        simp
      have := (hfacts t ht).1
      rw [htrail t List.mem_cons_self] at this
      cases this
  · obtain ⟨y', rfl⟩ : ∃ y', y = ',' :: y' := by
      cases y with
      | nil => cases hy
      | cons c y' => cases hy; exact ⟨y', rfl⟩
    -- the comma is no blank, so it is kept
    have hcomma : isBlank ',' = false := by decide
    rcases List.append_eq_append_iff.1 hsplit with ⟨a, htr, hya⟩ | ⟨c, hhc, htr⟩
    · cases a with
      | nil =>
        have := htrail ',' (by rw [List.nil_append] at hya; rw [← hya]; simp)
        rw [hcomma] at this
        cases this
      | cons a0 as =>
        simp only [List.cons_append, List.cons.injEq] at hya
        exact ⟨a0 :: as, htr, .inr (by rw [← hya.1]; rfl)⟩
    · have := htrail ',' (by simp [htr])
      rw [hcomma] at this
      cases this

/-- The handler of arguments that open with a dotted identifier, followed by nothing or by a
comma, is that identifier. -/
theorem handlerName_form {h y : List Char} (hh : isHandlerIdentifier h = true)
    (hy : y = [] ∨ y.head? = some ',') : handlerName (h ++ y) = some (String.ofList h) := by
  have hfacts := fun c (hc : c ∈ h) => identifier_char_facts hh hc
  obtain ⟨z, hz, hz'⟩ := trimChars_identifier_append hh hy
  have hfirst : (trimChars (h ++ y)).takeWhile (· != ',') = h := by
    rw [hz, List.takeWhile_append_of_pos fun c hc => by simpa using (hfacts c hc).2.1]
    rcases hz' with rfl | hz'
    · simp
    · cases z with
      | nil => cases hz'
      | cons c z' => cases hz'; simp
  simp only [handlerName, head_splitChars, hfirst,
    trimChars_of_not_blank fun c hc => (hfacts c hc).1, hh, if_true]

/-- After a blank, the arguments of an express route that open with a dotted identifier are read
up to the first closing parenthesis. -/
theorem handlerArguments_form {h : List Char} (hh : isHandlerIdentifier h = true) (x : List Char) :
    handlerArguments (' ' :: (h ++ (x ++ [')']))) = some (h ++ x.takeWhile (· != ')')) := by
  have hfacts := fun c (hc : c ∈ h) => identifier_char_facts hh hc
  have hne := ne_nil_of_isHandlerIdentifier hh
  have hb : blanks (' ' :: (h ++ (x ++ [')']))) = h ++ (x ++ [')']) := by
    rw [blanks, List.dropWhile_cons_of_pos (by decide), ← blanks]
    exact blanks_eq_self (head_not_blank_of_identifier hh _)
  have hargs : (h ++ (x ++ [')'])).takeWhile (· != ')') = h ++ x.takeWhile (· != ')') := by
    rw [List.takeWhile_append_of_pos fun c hc => by simpa using (hfacts c hc).2.2,
      List.takeWhile_append]
    split
    · rename_i hlen
      rw [List.IsPrefix.eq_of_length (List.takeWhile_prefix _) hlen]
      simp
    · rfl
  have hclose : (h ++ (x ++ [')'])).dropWhile (· != ')') ≠ [] := by
    rw [ne_eq, List.dropWhile_eq_nil_iff]
    intro hall
    simpa using hall ')' (by simp)
  obtain ⟨d, ds, hd⟩ := List.exists_cons_of_ne_nil hclose
  simp only [handlerArguments, hb, hd, hargs]
  simp [hne]

/-! ## The forms read at the front of a line -/

theorem isBlank_of_isWordChar {c : Char} (h : isWordChar c = true) : isBlank c = false := by
  cases hb : isBlank c
  · rfl
  · rw [isWordChar_of_isBlank hb] at h
    cases h

/-- A word, whatever follows it, opens with no blank. -/
theorem head_not_blank_of_isWord {name : List Char} (hname : isWord name = true)
    (rest : List Char) : ∀ c, (name ++ rest).head? = some c → isBlank c = false := by
  obtain ⟨hne, hchars⟩ := (isWord_iff name).1 hname
  intro c hc
  rw [List.head?_append_of_ne_nil _ hne] at hc
  exact isBlank_of_isWordChar (hchars c (List.mem_of_mem_head? hc))

/-- An express route is read at its object. -/
theorem expressAt_form {obj : String} (hobj : obj = "app" ∨ obj = "router") {m : HttpMethod}
    {v : List Char} (hv : v.map Char.toUpper = m.name.toList) {r : List Char} (hr : r ≠ [])
    (hrq : ∀ c ∈ r, isQuote c = false) {q1 q2 : Char} (hq1 : isQuote q1 = true)
    (hq2 : isQuote q2 = true) {h : List Char} (hh : isHandlerIdentifier h = true)
    (x : List Char) :
    expressAt (obj.toList ++ '.' :: (v ++ '(' :: q1 ::
        (r ++ q2 :: ',' :: ' ' :: (h ++ (x ++ [')']))))) =
      some (v, r, h ++ x.takeWhile (· != ')')) := by
  have hobject : ∀ rest, ((caseless "app".toList (obj.toList ++ rest)).orElse fun _ =>
      caseless "router".toList (obj.toList ++ rest)) = some rest := by
    intro rest
    rcases hobj with rfl | rfl
    · rw [caseless_append rfl]
      rfl
    · rw [show caseless "app".toList ("router".toList ++ rest) = none from rfl,
        caseless_append rfl]
      rfl
  simp only [expressAt, hobject, char_cons,
    caselessChoice_spelling expressVerbs_prefix_free (exists_expressVerb m) hv,
    blanks_cons (by decide : isBlank '(' = false), blanks_cons (isBlank_of_isQuote hq1),
    quoted_form hq1 hq2 hr hrq, blanks_cons (by decide : isBlank ',' = false),
    handlerArguments_form hh x, Option.bind_eq_bind, Option.bind_some, Option.pure_def]

/-- A flask route without methods is read at its decorator. -/
theorem flaskAt_route {r : List Char} (hr : r ≠ []) (hrq : ∀ c ∈ r, isQuote c = false)
    {q1 q2 : Char} (hq1 : isQuote q1 = true) (hq2 : isQuote q2 = true) :
    flaskAt ("@app.route".toList ++ '(' :: q1 :: (r ++ [q2, ')'])) = some (r, none) := by
  have hdecorator : ∀ rest, caseless "@app.route".toList ("@app.route".toList ++ rest) =
      some rest := caseless_append rfl
  have hmethods : flaskMethods [')'] = none := rfl
  -- without methods the verb's reading fails at once, and the closing parenthesis is read instead
  simp only [flaskAt, hdecorator, char_cons, blanks_cons (by decide : isBlank '(' = false),
    blanks_cons (isBlank_of_isQuote hq1), quoted_form hq1 hq2 hr hrq, hmethods,
    blanks_cons (by decide : isBlank ')' = false), Option.bind_eq_bind, Option.bind_some,
    Option.bind_none, Option.map_some, Option.orElse_eq_or, Option.none_or]

/-- The methods of a flask route are read with their verb as written. -/
theorem flaskMethods_form {m : HttpMethod} {v : List Char} (hv : v.map Char.toUpper = m.name.toList)
    {q3 q4 : Char} (hq3 : isQuote q3 = true) (hq4 : isQuote q4 = true) (rest : List Char) :
    flaskMethods (',' :: ' ' ::
        ("methods".toList ++ '=' :: '[' :: q3 :: (v ++ q4 :: ']' :: rest))) =
      some (v, rest) := by
  have hne : v ≠ [] := by
    rintro rfl
    cases m <;> simp [HttpMethod.name] at hv
  have hrun : run1 isWordChar (v ++ q4 :: ']' :: rest) = some (v, q4 :: ']' :: rest) :=
    run1_append hne (spelling_word hv) fun c hc => by cases hc; exact isWordChar_of_isQuote hq4
  have hkey : ∀ tail, blanks ("methods".toList ++ tail) = "methods".toList ++ tail := fun _ => rfl
  have hword : ∀ tail, caseless "methods".toList ("methods".toList ++ tail) = some tail :=
    caseless_append rfl
  simp only [flaskMethods, blanks_cons (by decide : isBlank ',' = false), char_cons,
    blanks_cons_blank (by decide : isBlank ' ' = true), hkey, hword,
    blanks_cons (by decide : isBlank '=' = false), blanks_cons (by decide : isBlank '[' = false),
    blanks_cons (isBlank_of_isQuote hq3), quote_cons hq3, hrun, quote_cons hq4,
    blanks_cons (by decide : isBlank ']' = false), Option.bind_eq_bind, Option.bind_some,
    Option.pure_def]

/-- A flask route with methods is read at its decorator, with its verb as written. -/
theorem flaskAt_methods {r : List Char} (hr : r ≠ []) (hrq : ∀ c ∈ r, isQuote c = false)
    {q1 q2 : Char} (hq1 : isQuote q1 = true) (hq2 : isQuote q2 = true) {m : HttpMethod}
    {v : List Char} (hv : v.map Char.toUpper = m.name.toList) {q3 q4 : Char}
    (hq3 : isQuote q3 = true) (hq4 : isQuote q4 = true) :
    flaskAt ("@app.route".toList ++ '(' :: q1 :: (r ++ q2 :: ',' :: ' ' ::
        ("methods".toList ++ '=' :: '[' :: q3 :: (v ++ q4 :: ']' :: [')'])))) =
      some (r, some v) := by
  have hdecorator : ∀ rest, caseless "@app.route".toList ("@app.route".toList ++ rest) =
      some rest := caseless_append rfl
  simp only [flaskAt, hdecorator, char_cons, blanks_cons (by decide : isBlank '(' = false),
    blanks_cons (isBlank_of_isQuote hq1), quoted_form hq1 hq2 hr hrq,
    flaskMethods_form hv hq3 hq4, blanks_cons (by decide : isBlank ')' = false),
    Option.bind_eq_bind, Option.bind_some, Option.map_some, Option.orElse_eq_or, Option.some_or]

/-- A spring mapping is read at its at sign, with its verb as written. -/
theorem springAt_form {m : HttpMethod} (hm : m ∈ [.get, .post, .put, .delete, .patch])
    {v : List Char} (hv : v.map Char.toUpper = m.name.toList) {r : List Char} (hr : r ≠ [])
    (hrq : ∀ c ∈ r, isQuote c = false) {q1 q2 : Char} (hq1 : isQuote q1 = true)
    (hq2 : isQuote q2 = true) :
    springAt ('@' :: (v ++ ("Mapping".toList ++ '(' :: q1 :: (r ++ [q2, ')'])))) = some (v, r) := by
  have hword : ∀ tail, caseless "mapping".toList ("Mapping".toList ++ tail) = some tail :=
    caseless_append (by decide)
  simp only [springAt, char_cons,
    caselessChoice_spelling springVerbs_prefix_free (exists_springVerb hm) hv,
    hword, blanks_cons (by decide : isBlank '(' = false), blanks_cons (isBlank_of_isQuote hq1),
    quoted_form hq1 hq2 hr hrq, blanks_cons (by decide : isBlank ')' = false),
    Option.bind_eq_bind, Option.bind_some, Option.pure_def]

/-- A function statement is read at its keyword. -/
theorem functionAt_form {name : List Char} (hname : isWord name = true) (x : List Char) :
    functionAt ("function".toList ++ ' ' :: (name ++ '(' :: x)) = some name := by
  obtain ⟨hne, hchars⟩ := (isWord_iff name).1 hname
  have hspace : blanks1 (' ' :: (name ++ '(' :: x)) = some (name ++ '(' :: x) :=
    blanks1_space (head_not_blank_of_isWord hname _)
  have hrun : run1 isWordChar (name ++ '(' :: x) = some (name, '(' :: x) :=
    run1_append hne hchars fun c hc => by cases hc; decide
  simp only [functionAt, word_append, hspace, hrun, blanks_cons (by decide : isBlank '(' = false),
    char_cons, Option.bind_eq_bind, Option.bind_some, Option.pure_def]

theorem functionAt_cons_of_ne {c : Char} (hc : c ≠ 'f') (t : List Char) :
    functionAt (c :: t) = none := by
  simp [functionAt, word, Ne.symm hc]

/-! ## Bindings of function values -/

theorem arrow_after (rest : List Char) :
    (word "=>".toList (blanks (" =>".toList ++ rest))).isSome = true :=
  rfl

/-- Parameters are read up to the first closing parenthesis. -/
theorem parameters_form {params : List Char} (hparams : ')' ∉ params) (rest : List Char) :
    parameters ('(' :: (params ++ ')' :: rest)) = some rest := by
  have hdrop : (params ++ ')' :: rest).dropWhile (· != ')') = ')' :: rest := by
    rw [List.dropWhile_append_of_pos fun c hc => by simpa using ne_of_mem_of_not_mem hc hparams]
    exact List.dropWhile_cons_of_neg (by simp)
  simp only [parameters, char_cons, hdrop, Option.bind_eq_bind, Option.bind_some]

/-- A function value of a documented form is recognised as one. -/
theorem functionValue_of_form {value : String} (h : Idiom.FunctionForm value) :
    functionValue value.toList = true := by
  cases h with
  | @arrow params rest hparams =>
    have hl : ("(" ++ params ++ ") =>" ++ rest).toList =
        '(' :: (params.toList ++ ')' :: (" =>".toList ++ rest.toList)) := by
      simp only [String.toList_append, List.append_assoc]
      rfl
    simp only [functionValue, hl, parameters_form hparams, Option.orElse_eq_or, Option.some_or,
      arrow_after, Bool.true_or]
  | @arrowParameter param rest hparam =>
    obtain ⟨hne, hchars⟩ := (isWord_iff _).1 hparam
    have hl : (param ++ " =>" ++ rest).toList = param.toList ++ (" =>".toList ++ rest.toList) := by
      simp only [String.toList_append, List.append_assoc]
    -- a parameter list would open with a parenthesis, which is no word character
    have hnone : parameters (param.toList ++ (" =>".toList ++ rest.toList)) = none := by
      obtain ⟨d, ds, hd⟩ := List.exists_cons_of_ne_nil hne
      have hdw := hchars d (by simp [hd])
      have hd' : d ≠ '(' := by
        rintro rfl
        cases hdw
      simp [parameters, hd, char, hd']
    have hrun : run1 isWordChar (param.toList ++ (" =>".toList ++ rest.toList)) =
        some (param.toList, " =>".toList ++ rest.toList) :=
      run1_append hne hchars fun c hc => by cases hc; decide
    simp only [functionValue, hl, hnone, hrun, Option.orElse_eq_or, Option.none_or, Option.map_some,
      arrow_after, Bool.true_or]
  | expression rest =>
    have hl : ("function (" ++ rest).toList =
        "function".toList ++ (" (".toList ++ rest.toList) := by
      simp only [String.toList_append]
      rfl
    have hopen : (char '(' (blanks ((char '*' (blanks (" (".toList ++ rest.toList))).getD
        (blanks (" (".toList ++ rest.toList))))).isSome = true := rfl
    simp only [functionValue, hl, word_append, hopen, Bool.or_true]
  | generator rest =>
    have hl : ("function* (" ++ rest).toList =
        "function".toList ++ ("* (".toList ++ rest.toList) := by
      simp only [String.toList_append]
      rfl
    have hopen : (char '(' (blanks ((char '*' (blanks ("* (".toList ++ rest.toList))).getD
        (blanks ("* (".toList ++ rest.toList))))).isSome = true := rfl
    simp only [functionValue, hl, word_append, hopen, Bool.or_true]

/-- A function value of a documented form opens with no blank. -/
theorem head_not_blank_of_form {value : String} (h : Idiom.FunctionForm value) :
    ∀ c, value.toList.head? = some c → isBlank c = false := by
  intro c hc
  cases h with
  | @arrow params rest =>
    simp only [String.toList_append] at hc
    cases hc
    decide
  | @arrowParameter param rest hparam =>
    rw [String.toList_append, String.toList_append, List.append_assoc] at hc
    exact head_not_blank_of_isWord hparam _ c hc
  | expression rest =>
    simp only [String.toList_append] at hc
    cases hc
    decide
  | generator rest =>
    simp only [String.toList_append] at hc
    cases hc
    decide

/-- A documented function value, after `async` or not, is recognised as one. -/
theorem asyncFunctionValue_of_form {asy value : String} (hasy : asy ∈ ["", "async "])
    (h : Idiom.FunctionForm value) : asyncFunctionValue (asy ++ value).toList = true := by
  simp only [List.mem_cons, List.not_mem_nil, or_false] at hasy
  rcases hasy with rfl | rfl
  · rw [String.empty_append, asyncFunctionValue, functionValue_of_form h, Bool.or_true]
  · have hl : ("async " ++ value).toList = "async".toList ++ ' ' :: value.toList := by
      simp only [String.toList_append]
      rfl
    rw [hl, asyncFunctionValue, word_append, Option.bind_some,
      blanks1_space (head_not_blank_of_form h)]
    dsimp only
    rw [functionValue_of_form h, Bool.true_or]

/-- A binding of a function value is read at its keyword. -/
theorem bindingAt_form {kw : String} (hkw : kw ∈ ["const", "let", "var"]) {name : List Char}
    (hname : isWord name = true) {value : List Char} (hvalue : asyncFunctionValue value = true)
    (hhead : ∀ c, value.head? = some c → isBlank c = false) :
    bindingAt (kw.toList ++ ' ' :: (name ++ ' ' :: '=' :: ' ' :: value)) = some name := by
  obtain ⟨hne, hchars⟩ := (isWord_iff name).1 hname
  have hkeyword : ∀ rest, (((word "const".toList (kw.toList ++ rest)).orElse fun _ =>
      word "let".toList (kw.toList ++ rest)).orElse fun _ =>
        word "var".toList (kw.toList ++ rest)) = some rest := by
    intro rest
    simp only [List.mem_cons, List.not_mem_nil, or_false] at hkw
    rcases hkw with rfl | rfl | rfl
    · rw [word_append]
      rfl
    · rw [show word "const".toList ("let".toList ++ rest) = none from rfl, word_append]
      rfl
    · rw [show word "const".toList ("var".toList ++ rest) = none from rfl,
        show word "let".toList ("var".toList ++ rest) = none from rfl, word_append]
      rfl
  have hspace : blanks1 (' ' :: (name ++ ' ' :: '=' :: ' ' :: value)) =
      some (name ++ ' ' :: '=' :: ' ' :: value) :=
    blanks1_space (head_not_blank_of_isWord hname _)
  have hrun : run1 isWordChar (name ++ ' ' :: '=' :: ' ' :: value) =
      some (name, ' ' :: '=' :: ' ' :: value) :=
    run1_append hne hchars fun c hc => by cases hc; decide
  simp only [bindingAt, hkeyword, hspace, hrun, blanks_cons_blank (by decide : isBlank ' ' = true),
    blanks_cons (by decide : isBlank '=' = false), char_cons, blanks_eq_self hhead, hvalue,
    Option.bind_eq_bind, Option.bind_some, if_true]

theorem bindingAt_cons_of_ne {c : Char} (hc : c ≠ 'c' ∧ c ≠ 'l' ∧ c ≠ 'v') (t : List Char) :
    bindingAt (c :: t) = none := by
  simp [bindingAt, word, Ne.symm hc.1, Ne.symm hc.2.1, Ne.symm hc.2.2]

end Reader

/-! ## Each idiom recognises its documented lines -/

namespace Idiom

open Reader Text

theorem toList_ne_nil {r : String} (hr : r ≠ "") : r.toList ≠ [] := by
  intro h
  exact hr (by rw [← String.ofList_toList (s := r), h])

theorem recognize_express_line {obj v r h x : String} {m : HttpMethod} {q1 q2 : Char}
    (hobj : obj = "app" ∨ obj = "router") (hv : HttpMethod.asciiUpper v = m.name) (hr : r ≠ "")
    (hrq : ∀ c ∈ r.toList, isQuote c = false) (hq1 : isQuote q1 = true) (hq2 : isQuote q2 = true)
    (hh : isHandlerIdentifier h.toList = true) (hx : x = "" ∨ x.toList.head? = some ',') :
    expressRoute.recognize
        (obj ++ "." ++ v ++ "(" ++ q1.toString ++ r ++ q2.toString ++ ", " ++ h ++ x ++ ")") =
      some (.endpoint ⟨m, r, some h, .express⟩) := by
  have hline : (obj ++ "." ++ v ++ "(" ++ q1.toString ++ r ++ q2.toString ++ ", " ++ h ++ x ++
      ")").toList = obj.toList ++ '.' :: (v.toList ++ '(' :: q1 ::
        (r.toList ++ q2 :: ',' :: ' ' :: (h.toList ++ (x.toList ++ [')'])))) := by
    simp only [String.toList_append, Char.toString_eq_singleton, String.toList_singleton,
      List.append_assoc, List.singleton_append]
    rfl
  have hat := expressAt_form hobj (map_toUpper_of_asciiUpper hv) (toList_ne_nil hr) hrq hq1 hq2 hh
    x.toList
  -- what follows the handler up to the closing parenthesis is nothing or starts with a comma
  have hrest : x.toList.takeWhile (· != ')') = [] ∨
      (x.toList.takeWhile (· != ')')).head? = some ',' := by
    rcases hx with rfl | hx
    · exact .inl rfl
    · obtain ⟨x', hx'⟩ : ∃ x', x.toList = ',' :: x' := by
        cases hl : x.toList with
        | nil => rw [hl] at hx; cases hx
        | cons c x' => rw [hl] at hx; cases hx; exact ⟨x', rfl⟩
      right
      rw [hx']
      rfl
  simp only [recognize, hline, leftmost_of_eq_some hat, String.ofList_toList,
    parse?_of_asciiUpper hv, handlerName_form hh hrest, Option.bind_eq_bind, Option.bind_some,
    Option.pure_def]

theorem recognize_flask_line {r : String} {q1 q2 : Char} (hr : r ≠ "")
    (hrq : ∀ c ∈ r.toList, isQuote c = false) (hq1 : isQuote q1 = true) (hq2 : isQuote q2 = true) :
    flaskRoute.recognize ("@app.route(" ++ q1.toString ++ r ++ q2.toString ++ ")") =
      some (.endpoint ⟨.get, r, none, .flask⟩) := by
  have hline : ("@app.route(" ++ q1.toString ++ r ++ q2.toString ++ ")").toList =
      "@app.route".toList ++ '(' :: q1 :: (r.toList ++ [q2, ')']) := by
    simp only [String.toList_append, Char.toString_eq_singleton, String.toList_singleton,
      List.append_assoc, List.singleton_append]
    rfl
  simp only [recognize, hline, leftmost_of_eq_some (flaskAt_route (toList_ne_nil hr) hrq hq1 hq2),
    String.ofList_toList, Option.bind_eq_bind, Option.bind_some, Option.pure_def]

theorem recognize_flask_methods_line {r v : String} {m : HttpMethod} {q1 q2 q3 q4 : Char}
    (hr : r ≠ "") (hrq : ∀ c ∈ r.toList, isQuote c = false) (hq1 : isQuote q1 = true)
    (hq2 : isQuote q2 = true) (hv : HttpMethod.asciiUpper v = m.name) (hq3 : isQuote q3 = true)
    (hq4 : isQuote q4 = true) :
    flaskRoute.recognize ("@app.route(" ++ q1.toString ++ r ++ q2.toString ++ ", methods=[" ++
        q3.toString ++ v ++ q4.toString ++ "])") =
      some (.endpoint ⟨m, r, none, .flask⟩) := by
  have hline : ("@app.route(" ++ q1.toString ++ r ++ q2.toString ++ ", methods=[" ++
      q3.toString ++ v ++ q4.toString ++ "])").toList =
      "@app.route".toList ++ '(' :: q1 :: (r.toList ++ q2 :: ',' :: ' ' ::
        ("methods".toList ++ '=' :: '[' :: q3 :: (v.toList ++ q4 :: ']' :: [')']))) := by
    simp only [String.toList_append, Char.toString_eq_singleton, String.toList_singleton,
      List.append_assoc, List.singleton_append]
    rfl
  have hat := flaskAt_methods (toList_ne_nil hr) hrq hq1 hq2 (map_toUpper_of_asciiUpper hv) hq3 hq4
  simp only [recognize, hline, leftmost_of_eq_some hat, String.ofList_toList,
    parse?_of_asciiUpper hv, Option.bind_eq_bind, Option.bind_some, Option.pure_def]

theorem recognize_spring_line {v r : String} {m : HttpMethod} {q1 q2 : Char}
    (hm : m ∈ [.get, .post, .put, .delete, .patch]) (hv : HttpMethod.asciiUpper v = m.name)
    (hr : r ≠ "") (hrq : ∀ c ∈ r.toList, isQuote c = false) (hq1 : isQuote q1 = true)
    (hq2 : isQuote q2 = true) :
    springMapping.recognize ("@" ++ v ++ "Mapping(" ++ q1.toString ++ r ++ q2.toString ++ ")") =
      some (.endpoint ⟨m, r, none, .spring⟩) := by
  have hline : ("@" ++ v ++ "Mapping(" ++ q1.toString ++ r ++ q2.toString ++ ")").toList =
      '@' :: (v.toList ++ ("Mapping".toList ++ '(' :: q1 :: (r.toList ++ [q2, ')']))) := by
    simp only [String.toList_append, Char.toString_eq_singleton, String.toList_singleton,
      List.append_assoc, List.singleton_append]
    rfl
  have hat := springAt_form hm (map_toUpper_of_asciiUpper hv) (toList_ne_nil hr) hrq hq1 hq2
  simp only [recognize, hline, leftmost_of_eq_some hat, String.ofList_toList,
    parse?_of_asciiUpper hv, Option.bind_eq_bind, Option.bind_some, Option.pure_def]

theorem recognize_function_line {pre name x : String}
    (hpre : pre ∈ ["", "export ", "async ", "export async "]) (hname : isWord name.toList = true) :
    functionStatement.recognize (pre ++ "function " ++ name ++ "(" ++ x) =
      some (.function name) := by
  have hline : (pre ++ "function " ++ name ++ "(" ++ x).toList =
      pre.toList ++ ("function".toList ++ ' ' :: (name.toList ++ '(' :: x.toList)) := by
    simp only [String.toList_append, List.append_assoc]
    rfl
  -- no letter of the words before the keyword is the keyword's first letter
  have hskip : ∀ c ∈ pre.toList, ∀ t, functionAt (c :: t) = none := by
    intro c hc t
    refine functionAt_cons_of_ne ?_ t
    rintro rfl
    simp only [List.mem_cons, List.not_mem_nil, or_false] at hpre
    rcases hpre with rfl | rfl | rfl | rfl <;> simp at hc
  simp only [recognize, hline, leftmost_append_of_head_fails hskip,
    leftmost_of_eq_some (functionAt_form hname x.toList), String.ofList_toList,
    Option.bind_eq_bind, Option.bind_some, Option.pure_def]

theorem recognize_binding_line {pre kw name asy value : String} (hpre : pre ∈ ["", "export "])
    (hkw : kw ∈ ["const", "let", "var"]) (hname : isWord name.toList = true)
    (hasy : asy ∈ ["", "async "]) (hvalue : FunctionForm value) :
    anonymousBinding.recognize (pre ++ kw ++ " " ++ name ++ " = " ++ asy ++ value) =
      some (.function name) := by
  have hline : (pre ++ kw ++ " " ++ name ++ " = " ++ asy ++ value).toList =
      pre.toList ++ (kw.toList ++ ' ' :: (name.toList ++ ' ' :: '=' :: ' ' ::
        (asy ++ value).toList)) := by
    simp only [String.toList_append, List.append_assoc]
    rfl
  -- the value opens with no blank, after `async` as without it
  have hhead : ∀ c, (asy ++ value).toList.head? = some c → isBlank c = false := by
    simp only [List.mem_cons, List.not_mem_nil, or_false] at hasy
    rcases hasy with rfl | rfl
    · rw [String.empty_append]
      exact head_not_blank_of_form hvalue
    · intro c hc
      simp only [String.toList_append] at hc
      cases hc
      decide
  have hskip : ∀ c ∈ pre.toList, ∀ t, bindingAt (c :: t) = none := by
    intro c hc t
    simp only [List.mem_cons, List.not_mem_nil, or_false] at hpre
    refine bindingAt_cons_of_ne ⟨?_, ?_, ?_⟩ t <;> rintro rfl <;> rcases hpre with rfl | rfl <;>
      simp at hc
  have hat := bindingAt_form hkw hname (asyncFunctionValue_of_form hasy hvalue) hhead
  simp only [recognize, hline, leftmost_append_of_head_fails hskip, leftmost_of_eq_some hat,
    String.ofList_toList, Option.bind_eq_bind, Option.bind_some, Option.pure_def]

/-- Each idiom accepts the lines it documents and reads back exactly their parts: the method from
the verb in any ASCII case, the route between its quotes, the dotted identifier as an express
handler, and the name of a function. -/
theorem recognizes_documented_lines {idiom : Idiom} {line : String} {result : Recognized}
    (h : DocumentedLine idiom line result) : idiom.recognize line = some result := by
  cases h with
  | express hobj hv hr hrq hq1 hq2 hh hx =>
    exact recognize_express_line hobj hv hr hrq hq1 hq2 hh hx
  | flask hr hrq hq1 hq2 => exact recognize_flask_line hr hrq hq1 hq2
  | flaskMethods hr hrq hq1 hq2 hv hq3 hq4 =>
    exact recognize_flask_methods_line hr hrq hq1 hq2 hv hq3 hq4
  | spring hm hv hr hrq hq1 hq2 => exact recognize_spring_line hm hv hr hrq hq1 hq2
  | functionStatement hpre hname => exact recognize_function_line hpre hname
  | binding hpre hkw hname hasy hvalue => exact recognize_binding_line hpre hkw hname hasy hvalue

/-- `router.Post('/users', users.create)` is a documented express route, read for POST with its
handler. -/
theorem recognizes_documented_lines_router_post :
    DocumentedLine .expressRoute
        ("router" ++ "." ++ "Post" ++ "(" ++ '\x27'.toString ++ "/users" ++ '\x27'.toString ++
          ", " ++ "users.create" ++ "" ++ ")")
        (.endpoint ⟨.post, "/users", some "users.create", .express⟩) ∧
      expressRoute.recognize
        ("router" ++ "." ++ "Post" ++ "(" ++ '\x27'.toString ++ "/users" ++ '\x27'.toString ++
          ", " ++ "users.create" ++ "" ++ ")") =
        some (.endpoint ⟨.post, "/users", some "users.create", .express⟩) :=
  have hdoc : DocumentedLine .expressRoute
      ("router" ++ "." ++ "Post" ++ "(" ++ '\x27'.toString ++ "/users" ++ '\x27'.toString ++
        ", " ++ "users.create" ++ "" ++ ")")
      (.endpoint ⟨.post, "/users", some "users.create", .express⟩) :=
    .express (.inr rfl) (by decide) (by decide) (by simp [isQuote]) rfl rfl (by decide) (.inl rfl)
  ⟨hdoc, recognizes_documented_lines hdoc⟩

end Idiom

end OrphanedCode
