import OrphanedCode.Proofs.Forms
import OrphanedCode.Code.Extract
/-!
What a documented line declares.

A line declares the endpoint of the first route idiom, in the order express, flask, spring, whose
leftmost reading succeeds on the trimmed line, and in a script language the function of the first
function idiom, the function statement before the binding. A documented line is its own trimmed
form, up to blanks after its last part, and the idioms tried before its own never read it. An
express reading opens a quoted route after a part without quotes and needs a comma after the
closing quote; a flask reading needs a comma or a closing parenthesis there. The quotes of a
documented route line stand around its route, and around the verb of a flask route's methods, with
other text after them, and no reader starts in the text before them. So a documented route line
declares its endpoint, with the idiom's confidence and the line as snippet, and a documented
function statement declares its function. A binding declares its own function when no function
statement stands on it; on `const a = x => function g(` the statement `g` comes first.
-/

namespace OrphanedCode

namespace Reader

open Text

/-! ## Texts without quotes -/

/-- A text with no quote character. -/
def NoQuote (cs : List Char) : Prop :=
  ∀ c ∈ cs, isQuote c = false

@[simp] theorem noQuote_nil : NoQuote [] := by
  simp [NoQuote]

@[simp] theorem noQuote_cons {c : Char} {cs : List Char} :
    NoQuote (c :: cs) ↔ isQuote c = false ∧ NoQuote cs := by
  simp [NoQuote]

@[simp] theorem noQuote_append {a b : List Char} : NoQuote (a ++ b) ↔ NoQuote a ∧ NoQuote b := by
  simp only [NoQuote, List.mem_append, or_imp, forall_and]

theorem NoQuote.suffix {t cs : List Char} (h : NoQuote cs) (ht : t <:+ cs) : NoQuote t :=
  fun c hc => h c (ht.subset hc)

/-- Two texts that each run without quotes up to a quote part there alike. -/
theorem eq_of_noQuote_append {X X' Y Y' : List Char} {q q' : Char}
    (h : X ++ q :: Y = X' ++ q' :: Y') (hX : NoQuote X) (hX' : NoQuote X')
    (hq : isQuote q = true) (hq' : isQuote q' = true) : X = X' ∧ q = q' ∧ Y = Y' := by
  induction X generalizing X' with
  | nil =>
    cases X' with
    | nil => simpa using h
    | cons c X' =>
      rw [List.nil_append, List.cons_append] at h
      obtain ⟨rfl, -⟩ := List.cons_eq_cons.1 h
      rw [(noQuote_cons.1 hX').1] at hq
      cases hq
  | cons c X ih =>
    cases X' with
    | nil =>
      rw [List.nil_append, List.cons_append] at h
      obtain ⟨rfl, -⟩ := List.cons_eq_cons.1 h
      rw [(noQuote_cons.1 hX).1] at hq'
      cases hq'
    | cons c' X' =>
      rw [List.cons_append, List.cons_append] at h
      obtain ⟨rfl, htail⟩ := List.cons_eq_cons.1 h
      obtain ⟨rfl, rfl, rfl⟩ := ih htail (noQuote_cons.1 hX).2 (noQuote_cons.1 hX').2
      exact ⟨rfl, rfl, rfl⟩

/-! ## Readers pass no quote before the route -/

theorem isQuote_of_isBlank {c : Char} (h : isBlank c = true) : isQuote c = false := by
  cases hq : isQuote c
  · rfl
  · rw [isBlank_of_isQuote hq] at h
    cases h

theorem blanks_noQuote (cs : List Char) : ∃ P, cs = P ++ blanks cs ∧ NoQuote P :=
  ⟨cs.takeWhile isBlank, List.takeWhile_append_dropWhile.symm,
    fun _ hc => isQuote_of_isBlank (List.mem_takeWhile_imp hc)⟩

/-- A character that matches a letter without regard to case is no quote: quotes have no case. -/
theorem isQuote_of_caselessEq {p c : Char} (h : caselessEq p c = true)
    (hp : isQuote p.toLower = false) : isQuote c = false := by
  cases hq : isQuote c
  · rfl
  · have hlow : c.toLower = c := by rcases isQuote_cases hq with rfl | rfl | rfl <;> rfl
    have hne : c ≠ 'K' ∧ c ≠ 'ſ' := by
      rcases isQuote_cases hq with rfl | rfl | rfl <;> decide
    simp only [caselessEq, hlow, Bool.or_eq_true, Bool.and_eq_true, beq_iff_eq, hne.1, hne.2,
      and_false, or_false] at h
    rw [h, hq] at hp
    cases hp

theorem caseless_noQuote {w cs r : List Char} (h : caseless w cs = some r)
    (hw : w.all (fun p => !isQuote p.toLower) = true) : ∃ P, cs = P ++ r ∧ NoQuote P := by
  induction w generalizing cs with
  | nil => cases h; exact ⟨[], rfl, noQuote_nil⟩
  | cons p ps ih =>
    rw [List.all_cons, Bool.and_eq_true, Bool.not_eq_true'] at hw
    cases cs with
    | nil => cases h
    | cons c cs =>
      rw [caseless] at h
      split at h
      · rename_i hpc
        obtain ⟨P, rfl, hP⟩ := ih h hw.2
        exact ⟨c :: P, rfl, noQuote_cons.2 ⟨isQuote_of_caselessEq hpc hw.1, hP⟩⟩
      · cases h

theorem caselessChoice_noQuote {ws : List String} {cs v r : List Char}
    (h : caselessChoice ws cs = some (v, r))
    (hws : ws.all (fun w => w.toList.all fun p => !isQuote p.toLower) = true) :
    ∃ P, cs = P ++ r ∧ NoQuote P := by
  obtain ⟨w, hw, hread⟩ := List.exists_of_findSome?_eq_some h
  obtain ⟨r', hr', hvr⟩ := Option.map_eq_some_iff.1 hread
  cases hvr
  exact caseless_noQuote hr' (List.all_eq_true.1 hws w hw)

/-- A quoted text is a quote, a run without quotes, and a quote. -/
theorem quoted_eq_some {cs body r : List Char} (h : quoted cs = some (body, r)) :
    ∃ qa qb, cs = qa :: (body ++ qb :: r) ∧ isQuote qa = true ∧ NoQuote body ∧ isQuote qb = true := by
  simp only [quoted, Option.bind_eq_bind, Option.bind_eq_some_iff] at h
  obtain ⟨r1, h1, ⟨body', r2⟩, h2, r3, h3, hpure⟩ := h
  cases hpure
  obtain ⟨rfl, -, hbody⟩ := run1_eq_some h2
  have hquote : ∀ {cs r : List Char}, quote cs = some r → ∃ q, cs = q :: r ∧ isQuote q = true := by
    intro cs r hq
    cases cs with
    | nil => cases hq
    | cons q cs =>
      rw [quote] at hq
      split at hq
      · rename_i hq'
        cases hq
        exact ⟨q, rfl, hq'⟩
      · cases hq
  obtain ⟨qa, rfl, hqa⟩ := hquote h1
  obtain ⟨qb, rfl, hqb⟩ := hquote h3
  exact ⟨qa, qb, rfl, hqa, fun c hc => by simpa using hbody c hc, hqb⟩

/-! ## Readers of a quoted route -/

/-- A reader whose every reading passes a part without quotes, then reads a quoted route, after
whose closing quote the first character that is not blank is one that `after` allows. -/
def QuotedRouteReader {α : Type} (m : List Char → Option α) (after : Option Char → Prop) : Prop :=
  ∀ cs a, m cs = some a → ∃ A qa route qb B, cs = A ++ qa :: (route ++ qb :: B) ∧ NoQuote A ∧
    isQuote qa = true ∧ NoQuote route ∧ isQuote qb = true ∧ after (blanks B).head?

theorem quotedRoute_expressAt : QuotedRouteReader expressAt (· = some ',') := by
  intro cs x h
  simp only [expressAt, Option.bind_eq_bind, Option.bind_eq_some_iff] at h
  obtain ⟨r1, h1, r2, h2, ⟨v, r3⟩, h3, r4, h4, ⟨route, r5⟩, h5, r6, h6, -, -, -⟩ := h
  -- the object, the dot, the verb, the parenthesis and the blanks around it hold no quote
  obtain ⟨P1, rfl, hP1⟩ : ∃ P, cs = P ++ r1 ∧ NoQuote P := by
    rcases orElse_eq_some h1 with h1 | h1 <;> exact caseless_noQuote h1 rfl
  obtain rfl := char_eq_some h2
  obtain ⟨P3, rfl, hP3⟩ := caselessChoice_noQuote h3 rfl
  obtain ⟨B3, hB3, hB3q⟩ := blanks_noQuote r3
  obtain ⟨B4, hB4, hB4q⟩ := blanks_noQuote r4
  obtain ⟨qa, qb, h5', hqa, hroute, hqb⟩ := quoted_eq_some h5
  refine ⟨P1 ++ '.' :: (P3 ++ B3 ++ '(' :: B4), qa, route, qb, r5, ?_, ?_, hqa, hroute, hqb, ?_⟩
  · rw [hB3, char_eq_some h4, hB4, h5']
    simp
  · simp [hP1, hP3, hB3q, hB4q, isQuote]
  · rw [char_eq_some h6]
    rfl

theorem quotedRoute_flaskAt : QuotedRouteReader flaskAt (fun c => c = some ',' ∨ c = some ')') := by
  intro cs x h
  simp only [flaskAt, Option.bind_eq_bind, Option.bind_eq_some_iff] at h
  obtain ⟨r1, h1, r2, h2, ⟨route, r3⟩, h3, hend⟩ := h
  obtain ⟨P1, rfl, hP1⟩ := caseless_noQuote h1 rfl
  obtain ⟨B1, hB1, hB1q⟩ := blanks_noQuote r1
  obtain ⟨B2, hB2, hB2q⟩ := blanks_noQuote r2
  obtain ⟨qa, qb, h3', hqa, hroute, hqb⟩ := quoted_eq_some h3
  refine ⟨P1 ++ B1 ++ '(' :: B2, qa, route, qb, r3, ?_, ?_, hqa, hroute, hqb, ?_⟩
  · rw [hB1, char_eq_some h2, hB2, h3']
    simp
  · simp [hP1, hB1q, hB2q, isQuote]
  · -- the methods open with a comma; without them the route closes with a parenthesis
    rcases orElse_eq_some hend with hverb | hclose
    · obtain ⟨⟨verb, r4⟩, hm, -⟩ := Option.bind_eq_some_iff.1 hverb
      simp only [flaskMethods, Option.bind_eq_bind, Option.bind_eq_some_iff] at hm
      obtain ⟨r5, h5, -⟩ := hm
      left
      rw [char_eq_some h5]
      rfl
    · obtain ⟨r5, h5, -⟩ := Option.map_eq_some_iff.1 hclose
      right
      rw [char_eq_some h5]
      rfl

section QuotedRoute

variable {α : Type} {m : List Char → Option α} {after : Option Char → Prop}
  {X Y W : List Char} {q q' : Char}

/-- A reader of a quoted route fails where the first two quotes are followed by what it does not
allow. -/
theorem QuotedRouteReader.eq_none_of_quotes (hm : QuotedRouteReader m after) (hX : NoQuote X)
    (hq : isQuote q = true) (hY : NoQuote Y) (hq' : isQuote q' = true)
    (hW : ¬after (blanks W).head?) : m (X ++ q :: (Y ++ q' :: W)) = none := by
  cases ha : m (X ++ q :: (Y ++ q' :: W)) with
  | none => rfl
  | some a =>
    obtain ⟨A, qa, route, qb, B, hcs, hA, hqa, hroute, hqb, hB⟩ := hm _ a ha
    obtain ⟨-, -, hrest⟩ := eq_of_noQuote_append hcs hX hA hq hqa
    obtain ⟨-, -, rfl⟩ := eq_of_noQuote_append hrest hY hroute hq' hqb
    exact absurd hB hW

/-- A reader of a quoted route fails where only one quote is left. -/
theorem QuotedRouteReader.eq_none_of_quote (hm : QuotedRouteReader m after) (hX : NoQuote X)
    (hq : isQuote q = true) (hY : NoQuote Y) : m (X ++ q :: Y) = none := by
  cases ha : m (X ++ q :: Y) with
  | none => rfl
  | some a =>
    obtain ⟨A, qa, route, qb, B, hcs, hA, hqa, hroute, hqb, -⟩ := hm _ a ha
    obtain ⟨-, -, hrest⟩ := eq_of_noQuote_append hcs hX hA hq hqa
    rw [hrest] at hY
    rw [(noQuote_append.1 hY).2 qb List.mem_cons_self] at hqb
    cases hqb

/-- A reader of a quoted route fails where no quote is left. -/
theorem QuotedRouteReader.eq_none_of_noQuote (hm : QuotedRouteReader m after) (hX : NoQuote X) :
    m X = none := by
  cases ha : m X with
  | none => rfl
  | some a =>
    obtain ⟨A, qa, route, qb, B, rfl, -, hqa, -, -, -⟩ := hm _ a ha
    rw [(noQuote_append.1 hX).2 qa List.mem_cons_self] at hqa
    cases hqa

end QuotedRoute

/-! ## The leftmost search -/

/-- The leftmost search passes a part and the quote after it when the reader fails at each of
their positions. -/
theorem leftmost_append_cons {α : Type} {m : List Char → Option α} {X rest : List Char} {q : Char}
    (h : ∀ t, t <:+ X → m (t ++ q :: rest) = none) :
    leftmost m (X ++ q :: rest) = leftmost m rest := by
  induction X with
  | nil =>
    have h0 := h [] (List.suffix_refl [])
    rw [List.nil_append] at h0 ⊢
    rw [leftmost, h0]
  | cons c X ih =>
    have hc := h (c :: X) (List.suffix_refl _)
    rw [List.cons_append] at hc ⊢
    rw [leftmost, hc]
    exact ih fun t ht => h t (ht.trans (List.suffix_cons _ _))

theorem QuotedRouteReader.leftmost_eq_none {α : Type} {m : List Char → Option α}
    {after : Option Char → Prop} (hm : QuotedRouteReader m after) {X : List Char}
    (hX : NoQuote X) : leftmost m X = none := by
  induction X with
  | nil => exact hm.eq_none_of_noQuote hX
  | cons c X ih =>
    rw [leftmost, hm.eq_none_of_noQuote hX]
    exact ih (noQuote_cons.1 hX).2

/-- Each part of a text without quotes, and the quote after it, is passed when the reader fails
where the first two quotes are followed by what it does not allow. -/
theorem QuotedRouteReader.leftmost_of_quotes {α : Type} {m : List Char → Option α}
    {after : Option Char → Prop} (hm : QuotedRouteReader m after) {X Y W : List Char} {q q' : Char}
    (hX : NoQuote X) (hq : isQuote q = true) (hY : NoQuote Y) (hq' : isQuote q' = true)
    (hW : ¬after (blanks W).head?) :
    leftmost m (X ++ q :: (Y ++ q' :: W)) = leftmost m (Y ++ q' :: W) :=
  leftmost_append_cons fun _ ht => hm.eq_none_of_quotes (hX.suffix ht) hq hY hq' hW

theorem QuotedRouteReader.leftmost_of_quote {α : Type} {m : List Char → Option α}
    {after : Option Char → Prop} (hm : QuotedRouteReader m after) {X Y : List Char} {q : Char}
    (hX : NoQuote X) (hq : isQuote q = true) (hY : NoQuote Y) :
    leftmost m (X ++ q :: Y) = none := by
  rw [leftmost_append_cons fun _ ht => hm.eq_none_of_quote (hX.suffix ht) hq hY]
  exact hm.leftmost_eq_none hY

/-! ## Where the readers cannot start -/

theorem expressAt_cons_quote {q : Char} (hq : isQuote q = true) (t : List Char) :
    expressAt (q :: t) = none := by
  rcases isQuote_cases hq with rfl | rfl | rfl <;> simp [expressAt, caseless, caselessEq]

/-- No express route starts in the decorator of a flask route. -/
theorem expressAt_decorator {t : List Char} (ht : t <:+ "@app.route(".toList) (hne : t ≠ [])
    (rest : List Char) : expressAt (t ++ rest) = none := by
  obtain ⟨i, hi, rfl⟩ : ∃ i, i < 11 ∧ t = "@app.route(".toList.drop i := by
    refine ⟨11 - t.length, ?_, List.suffix_iff_eq_drop.1 ht⟩
    have := List.length_pos_iff.2 hne
    omega
  interval_cases i <;> simp [expressAt, caseless, caselessEq, caselessChoice, expressVerbs, char]

/-- Of the ASCII characters only `@` reads as the at sign of a decorator. -/
theorem flaskAt_cons_of_ne {c : Char} (hc : c.toNat < 128) (hne : c ≠ '@') (t : List Char) :
    flaskAt (c :: t) = none := by
  have table : ∀ n < 128, n ≠ 64 → (Char.ofNat n).toLower ≠ '@' := by decide
  have hlow : c.toLower ≠ '@' := by
    have hn : c.toNat ≠ 64 := fun h => hne (Char.toNat_inj.1 h)
    simpa [Char.ofNat_toNat] using table c.toNat hc hn
  simp [flaskAt, caseless, caselessEq, Ne.symm hlow]

/-- A spring verb opens with no letter that reads as the `a` of `app`. -/
theorem flaskAt_spring_verb {m : HttpMethod} (hm : m ∈ [.get, .post, .put, .delete, .patch])
    {v : List Char} (hv : v.map Char.toUpper = m.name.toList) (rest : List Char) :
    flaskAt ('@' :: (v ++ rest)) = none := by
  obtain ⟨c, v', rfl⟩ : ∃ c v', v = c :: v' := by
    cases v with
    | nil => cases m <;> simp [HttpMethod.name] at hv
    | cons c v' => exact ⟨c, v', rfl⟩
  have table : ∀ n < 128, (Char.ofNat n).toLower = 'a' → (Char.ofNat n).toUpper = 'A' := by
    decide
  have hup : c.toUpper ≠ 'A' := by
    simp only [List.mem_cons, List.not_mem_nil, or_false] at hm
    rcases hm with rfl | rfl | rfl | rfl | rfl <;> simp [HttpMethod.name] at hv <;> rw [hv.1] <;>
      decide
  have hascii := spelling_ascii hv c List.mem_cons_self
  have hlow : c.toLower ≠ 'a' := by
    intro h
    have hA := table c.toNat hascii (by rw [Char.ofNat_toNat]; exact h)
    rw [Char.ofNat_toNat] at hA
    exact hup hA
  simp [flaskAt, caseless, caselessEq, Ne.symm hlow]

end Reader

/-! ## Trimming -/

namespace Text

/-- Trimming a text whose first part opens and closes with no blank drops blanks after that part
only. -/
theorem trimChars_append_of_ends {F : List Char} (hF : F ≠ [])
    (hhead : ∀ c, F.head? = some c → isBlank c = false)
    (hlast : ∀ c, F.getLast? = some c → isBlank c = false) (x : List Char) :
    trimChars (F ++ x) = F ++ dropBlankEnd x := by
  have hfront : (F ++ x).dropWhile isBlank = F ++ x := by
    obtain ⟨c, F', rfl⟩ := List.exists_cons_of_ne_nil hF
    exact List.dropWhile_cons_of_neg (by simp [hhead c rfl])
  have hback : F.reverse.dropWhile isBlank = F.reverse := by
    obtain ⟨c, F', hc⟩ := List.exists_cons_of_ne_nil (List.reverse_ne_nil_iff.2 hF)
    have hl : F.getLast? = some c := by rw [List.getLast?_eq_head?_reverse, hc]; rfl
    rw [hc]
    exact List.dropWhile_cons_of_neg (by simp [hlast c hl])
  rw [trimChars, hfront, dropBlankEnd, dropBlankEnd, List.reverse_append, List.dropWhile_append]
  split
  · rename_i hempty
    rw [hback, List.reverse_reverse, List.isEmpty_iff.1 hempty, List.reverse_nil, List.append_nil]
  · rw [List.reverse_append, List.reverse_reverse]

end Text

/-! ## Earlier idioms on documented route lines -/

namespace Idiom

open Reader Text

theorem noQuote_of_spelling {m : HttpMethod} {v : List Char} (hv : v.map Char.toUpper = m.name.toList) :
    NoQuote v := by
  intro c hc
  cases hq : isQuote c
  · rfl
  · have hw := spelling_word hv c hc
    rw [isWordChar_of_isQuote hq] at hw
    cases hw

/-- An express reading never starts on a flask route: its only quotes hold the route, and a
closing parenthesis follows. -/
theorem expressRoute_flask_line {r : String} {q1 q2 : Char}
    (hrq : ∀ c ∈ r.toList, isQuote c = false) (hq1 : isQuote q1 = true) (hq2 : isQuote q2 = true) :
    expressRoute.recognize ("@app.route(" ++ q1.toString ++ r ++ q2.toString ++ ")") = none := by
  have hline : ("@app.route(" ++ q1.toString ++ r ++ q2.toString ++ ")").toList =
      "@app.route(".toList ++ q1 :: (r.toList ++ q2 :: [')']) := by
    simp only [String.toList_append, Char.toString_eq_singleton, String.toList_singleton,
      List.append_assoc, List.singleton_append]
    rfl
  have hnone : leftmost expressAt ("@app.route(".toList ++ q1 :: (r.toList ++ q2 :: [')'])) =
      none := by
    rw [quotedRoute_expressAt.leftmost_of_quotes (by simp [isQuote]) hq1 hrq hq2 (by decide)]
    exact quotedRoute_expressAt.leftmost_of_quote hrq hq2 (by simp [isQuote])
  simp only [recognize, hline, hnone, Option.bind_eq_bind, Option.bind_none]

/-- An express reading never starts on a flask route with methods: no express route starts in the
decorator, and after the route's quote, the quote pairs are followed by the verb and by `]`. -/
theorem expressRoute_flask_methods_line {r v : String} {m : HttpMethod} {q1 q2 q3 q4 : Char}
    (hrq : ∀ c ∈ r.toList, isQuote c = false) (hq1 : isQuote q1 = true) (hq2 : isQuote q2 = true)
    (hv : HttpMethod.asciiUpper v = m.name) (hq3 : isQuote q3 = true) (hq4 : isQuote q4 = true) :
    expressRoute.recognize ("@app.route(" ++ q1.toString ++ r ++ q2.toString ++ ", methods=[" ++
        q3.toString ++ v ++ q4.toString ++ "])") = none := by
  have hline : ("@app.route(" ++ q1.toString ++ r ++ q2.toString ++ ", methods=[" ++
      q3.toString ++ v ++ q4.toString ++ "])").toList =
      "@app.route(".toList ++ q1 :: (r.toList ++ q2 :: (", methods=[".toList ++ q3 ::
        (v.toList ++ q4 :: "])".toList))) := by
    simp only [String.toList_append, Char.toString_eq_singleton, String.toList_singleton,
      List.append_assoc, List.singleton_append]
    rfl
  have hspell := map_toUpper_of_asciiUpper hv
  have hvq := noQuote_of_spelling hspell
  -- the verb opens with a word character, so no comma follows the quote before it
  have hverb : ¬(blanks (v.toList ++ q4 :: "])".toList)).head? = some ',' := by
    obtain ⟨c, v', hc⟩ : ∃ c v', v.toList = c :: v' := by
      cases hl : v.toList with
      | nil => rw [hl] at hspell; cases m <;> simp [HttpMethod.name] at hspell
      | cons c v' => exact ⟨c, v', rfl⟩
    have hw := spelling_word hspell c (by rw [hc]; exact List.mem_cons_self)
    rw [hc, List.cons_append, blanks_cons (isBlank_of_isWordChar hw)]
    intro h
    cases h
    cases hw
  have hnone : leftmost expressAt ("@app.route(".toList ++ q1 :: (r.toList ++ q2 ::
      (", methods=[".toList ++ q3 :: (v.toList ++ q4 :: "])".toList)))) = none := by
    rw [leftmost_append_cons fun t ht => ?_,
      quotedRoute_expressAt.leftmost_of_quotes hrq hq2 (by simp [isQuote]) hq3 hverb,
      quotedRoute_expressAt.leftmost_of_quotes (by simp [isQuote]) hq3 hvq hq4 (by decide)]
    · exact quotedRoute_expressAt.leftmost_of_quote hvq hq4 (by simp [isQuote])
    · cases t with
      | nil => exact expressAt_cons_quote hq1 _
      | cons c t => exact expressAt_decorator ht (List.cons_ne_nil c t) _
  simp only [recognize, hline, hnone, Option.bind_eq_bind, Option.bind_none]

section Spring

variable {v r : String} {m : HttpMethod} {q1 q2 : Char}
  (hm : m ∈ [.get, .post, .put, .delete, .patch]) (hv : HttpMethod.asciiUpper v = m.name)
  (hrq : ∀ c ∈ r.toList, isQuote c = false) (hq1 : isQuote q1 = true) (hq2 : isQuote q2 = true)

theorem spring_line_toList :
    ("@" ++ v ++ "Mapping(" ++ q1.toString ++ r ++ q2.toString ++ ")").toList =
      ('@' :: (v.toList ++ "Mapping(".toList)) ++ q1 :: (r.toList ++ q2 :: [')']) := by
  simp only [String.toList_append, Char.toString_eq_singleton, String.toList_singleton,
    List.append_assoc, List.cons_append]
  rfl

include hv hrq hq1 hq2 in
/-- An express reading never starts on a spring mapping: its only quotes hold the route, and a
closing parenthesis follows. -/
theorem expressRoute_spring_line :
    expressRoute.recognize ("@" ++ v ++ "Mapping(" ++ q1.toString ++ r ++ q2.toString ++ ")") =
      none := by
  have hX : NoQuote ('@' :: (v.toList ++ "Mapping(".toList)) := by
    simp [noQuote_of_spelling (map_toUpper_of_asciiUpper hv), isQuote]
  have hnone : leftmost expressAt (('@' :: (v.toList ++ "Mapping(".toList)) ++ q1 ::
      (r.toList ++ q2 :: [')'])) = none := by
    rw [quotedRoute_expressAt.leftmost_of_quotes hX hq1 hrq hq2 (by decide)]
    exact quotedRoute_expressAt.leftmost_of_quote hrq hq2 (by simp [isQuote])
  simp only [recognize, spring_line_toList, hnone, Option.bind_eq_bind,
    Option.bind_none]

include hm hv hrq hq1 hq2 in
/-- A flask reading never starts on a spring mapping: only its first character is an at sign, and
the verb after it is no `app`; after the opening quote only one quote is left. -/
theorem flaskRoute_spring_line :
    flaskRoute.recognize ("@" ++ v ++ "Mapping(" ++ q1.toString ++ r ++ q2.toString ++ ")") =
      none := by
  have hspell := map_toUpper_of_asciiUpper hv
  -- every character after the at sign is an ASCII word character or a parenthesis
  have hrest : ∀ c ∈ v.toList ++ "Mapping(".toList, c.toNat < 128 ∧ c ≠ '@' := by
    intro c hc
    rcases List.mem_append.1 hc with hc | hc
    · refine ⟨spelling_ascii hspell c hc, ?_⟩
      rintro rfl
      cases spelling_word hspell '@' hc
    · simp at hc
      rcases hc with rfl | rfl | rfl | rfl | rfl | rfl | rfl | rfl <;> decide
  have hstart : ∀ t, t <:+ '@' :: (v.toList ++ "Mapping(".toList) →
      flaskAt (t ++ q1 :: (r.toList ++ q2 :: [')'])) = none := by
    intro t ht
    rcases List.suffix_cons_iff.1 ht with rfl | ht
    · rw [List.cons_append, List.append_assoc]
      exact flaskAt_spring_verb hm hspell _
    · cases t with
      | nil =>
        rcases isQuote_cases hq1 with rfl | rfl | rfl <;> exact flaskAt_cons_of_ne (by decide)
          (by decide) _
      | cons c t =>
        obtain ⟨hc, hne⟩ := hrest c (ht.subset List.mem_cons_self)
        exact flaskAt_cons_of_ne hc hne _
  have hnone : leftmost flaskAt (('@' :: (v.toList ++ "Mapping(".toList)) ++ q1 ::
      (r.toList ++ q2 :: [')'])) = none := by
    rw [leftmost_append_cons hstart]
    exact quotedRoute_flaskAt.leftmost_of_quote hrq hq2 (by simp [isQuote])
  simp only [recognize, spring_line_toList, hnone, Option.bind_eq_bind,
    Option.bind_none]

end Spring

/-! ## Documented lines trimmed -/

/-- A text that opens and closes with no blank is its own trimmed form. -/
theorem trim_eq_self {s : String} (hhead : ∀ c, s.toList.head? = some c → isBlank c = false)
    (hlast : ∀ c, s.toList.getLast? = some c → isBlank c = false) : trim s = s := by
  cases hs : s.toList with
  | nil => rw [← String.toList_inj, trim, String.toList_ofList, hs]; rfl
  | cons c cs =>
    rw [hs] at hhead hlast
    have h := trimChars_append_of_ends (List.cons_ne_nil c cs) hhead hlast []
    rw [List.append_nil, show dropBlankEnd [] = [] from rfl, List.append_nil] at h
    rw [trim, hs, h, ← hs, String.ofList_toList]

/-- A documented route line opens with its object or at sign and closes with a parenthesis. -/
theorem trim_documented_route {idiom : Idiom} {line : String} {d : RouteDecl}
    (h : DocumentedLine idiom line (.endpoint d)) : trim line = line := by
  refine trim_eq_self (fun c hc => ?_) (fun c hc => ?_)
  · cases h with
    | express hobj =>
      rcases hobj with rfl | rfl <;>
        simp [String.toList_append] at hc <;> rw [← hc] <;> decide
    | flask | flaskMethods | spring =>
      simp [String.toList_append] at hc
      rw [← hc]
      decide
  · -- every form ends with its closing parenthesis
    cases h <;> rw [String.toList_append, List.getLast?_append] at hc <;> simp at hc <;>
      rw [← hc] <;> decide

/-- A function statement keeps its words, name and parenthesis when trimmed; only blanks after
them go. -/
theorem trim_function_line {pre name : String} (hpre : pre ∈ ["", "export ", "async ", "export async "])
    (x : String) :
    trim (pre ++ "function " ++ name ++ "(" ++ x) =
      pre ++ "function " ++ name ++ "(" ++ String.ofList (dropBlankEnd x.toList) := by
  have hF : (pre ++ "function " ++ name ++ "(").toList ≠ [] := by simp [String.toList_append]
  have hhead : ∀ c, (pre ++ "function " ++ name ++ "(").toList.head? = some c →
      isBlank c = false := by
    intro c hc
    simp only [List.mem_cons, List.not_mem_nil, or_false] at hpre
    rcases hpre with rfl | rfl | rfl | rfl <;> simp [String.toList_append] at hc <;> rw [← hc] <;>
      decide
  have hlast : ∀ c, (pre ++ "function " ++ name ++ "(").toList.getLast? = some c →
      isBlank c = false := by
    intro c hc
    rw [String.toList_append, List.getLast?_append] at hc
    simp at hc
    rw [← hc]
    decide
  rw [trim, String.toList_append, trimChars_append_of_ends hF hhead hlast, ← String.toList_inj]
  simp [String.toList_append]

/-- A documented function value is a part that ends with no blank, then any text, and stays
documented whatever text follows that part. -/
theorem FunctionForm.split {value : String} (h : FunctionForm value) :
    ∃ F rest, value.toList = F ++ rest ∧ F ≠ [] ∧
      (∀ c, F.getLast? = some c → isBlank c = false) ∧ ∀ rest', FunctionForm (String.ofList (F ++ rest')) := by
  cases h with
  | @arrow params rest hparams =>
    refine ⟨("(" ++ params ++ ") =>").toList, rest.toList, by simp [String.toList_append],
      by simp [String.toList_append], fun c hc => ?_, fun rest' => ?_⟩
    · rw [String.toList_append, List.getLast?_append] at hc
      simp at hc
      rw [← hc]
      decide
    · have heq : String.ofList (("(" ++ params ++ ") =>").toList ++ rest') =
          "(" ++ params ++ ") =>" ++ String.ofList rest' := by
        rw [← String.toList_inj]
        simp [String.toList_append]
      rw [heq]
      exact .arrow hparams
  | @arrowParameter param rest hparam =>
    refine ⟨(param ++ " =>").toList, rest.toList, by simp [String.toList_append],
      by simp [String.toList_append], fun c hc => ?_, fun rest' => ?_⟩
    · rw [String.toList_append, List.getLast?_append] at hc
      simp at hc
      rw [← hc]
      decide
    · have heq : String.ofList ((param ++ " =>").toList ++ rest') =
          param ++ " =>" ++ String.ofList rest' := by
        rw [← String.toList_inj]
        simp [String.toList_append]
      rw [heq]
      exact .arrowParameter hparam
  | expression rest =>
    refine ⟨"function (".toList, rest.toList, by simp [String.toList_append], by simp,
      fun c hc => ?_, fun rest' => ?_⟩
    · simp at hc
      rw [← hc]
      decide
    · have heq : String.ofList ("function (".toList ++ rest') = "function (" ++ String.ofList rest' := by
        rw [← String.toList_inj]
        simp [String.toList_append]
      rw [heq]
      exact .expression _
  | generator rest =>
    refine ⟨"function* (".toList, rest.toList, by simp [String.toList_append], by simp,
      fun c hc => ?_, fun rest' => ?_⟩
    · simp at hc
      rw [← hc]
      decide
    · have heq : String.ofList ("function* (".toList ++ rest') =
          "function* (" ++ String.ofList rest' := by
        rw [← String.toList_inj]
        simp [String.toList_append]
      rw [heq]
      exact .generator _

/-- A documented binding stays documented when trimmed: only blanks after its function value's
opening go. -/
theorem trim_binding_line {pre kw name asy value : String} (hpre : pre ∈ ["", "export "])
    (hkw : kw ∈ ["const", "let", "var"]) (hvalue : FunctionForm value) :
    ∃ value', FunctionForm value' ∧
      trim (pre ++ kw ++ " " ++ name ++ " = " ++ asy ++ value) =
        pre ++ kw ++ " " ++ name ++ " = " ++ asy ++ value' := by
  obtain ⟨F, rest, hsplit, hF, hlast, hform⟩ := hvalue.split
  have hG : (pre ++ kw ++ " " ++ name ++ " = " ++ asy).toList ++ F ≠ [] := by simp
  have hhead : ∀ c, ((pre ++ kw ++ " " ++ name ++ " = " ++ asy).toList ++ F).head? = some c →
      isBlank c = false := by
    intro c hc
    simp only [List.mem_cons, List.not_mem_nil, or_false] at hpre hkw
    rcases hpre with rfl | rfl <;> rcases hkw with rfl | rfl | rfl <;>
      simp [String.toList_append] at hc <;> rw [← hc] <;> decide
  have hlastG : ∀ c, ((pre ++ kw ++ " " ++ name ++ " = " ++ asy).toList ++ F).getLast? = some c →
      isBlank c = false := by
    intro c hc
    rw [List.getLast?_append] at hc
    cases hl : F.getLast? with
    | none => exact absurd (List.getLast?_eq_none_iff.1 hl) hF
    | some d =>
      rw [hl, Option.some_or, Option.some_inj] at hc
      rw [← hc]
      exact hlast d hl
  refine ⟨String.ofList (F ++ dropBlankEnd rest), hform _, ?_⟩
  rw [trim, String.toList_append, hsplit, ← List.append_assoc,
    trimChars_append_of_ends hG hhead hlastG, ← String.toList_inj]
  simp [String.toList_append]

theorem recognize_empty (idiom : Idiom) : idiom.recognize "" = none := by
  cases idiom <;> rfl

end Idiom

/-! ## What documented lines declare -/

namespace Extract

open Idiom Text

theorem line_of_trim {text : String} (hne : trim text ≠ "") (n : Nat) (file : String)
    (language : Language) (content : String) :
    line text n file language content =
      ⟨endpoint (trim text) n file language, function (trim text) n file language content⟩ := by
  simp [line, String.isEmpty_eq_false_iff.2 hne]

/-- A documented route line declares its endpoint, with the line as snippet and the confidence
of its idiom: the line is its own trimmed form, and no route idiom tried before its own reads
it. -/
theorem line_declares_documented_endpoint {idiom : Idiom} {line : String} {d : RouteDecl}
    (h : DocumentedLine idiom line (.endpoint d)) (n : Nat) (file : String) (language : Language)
    (content : String) :
    (Extract.line line n file language content).endpoint =
      some { language, file, startLine := n, endLine := n, snippet := line, method := d.method,
             route := d.route, handler := d.handler, framework := d.framework,
             confidence := idiom.confidence } := by
  have hrec := recognizes_documented_lines h
  have hne : line ≠ "" := by
    rintro rfl
    rw [recognize_empty] at hrec
    cases hrec
  rw [line_of_trim (by rw [trim_documented_route h]; exact hne), trim_documented_route h]
  -- the idioms before the line's own find nothing on it
  cases h with
  | express => simp only [endpoint, endpointIdioms, List.findSome?_cons, hrec]
  | flask hr hrq hq1 hq2 =>
    simp only [endpoint, endpointIdioms, List.findSome?_cons, expressRoute_flask_line hrq hq1 hq2,
      hrec]
  | flaskMethods hr hrq hq1 hq2 hv hq3 hq4 =>
    simp only [endpoint, endpointIdioms, List.findSome?_cons,
      expressRoute_flask_methods_line hrq hq1 hq2 hv hq3 hq4, hrec]
  | spring hm hv hr hrq hq1 hq2 =>
    simp only [endpoint, endpointIdioms, List.findSome?_cons, expressRoute_spring_line hv hrq hq1 hq2,
      flaskRoute_spring_line hm hv hrq hq1 hq2, hrec]

/-- A Flask decorator on line 3 of a Python file declares its GET endpoint. -/
theorem line_declares_documented_endpoint_flask :
    DocumentedLine .flaskRoute ("@app.route(" ++ '"'.toString ++ "/health" ++ '"'.toString ++ ")")
        (.endpoint ⟨.get, "/health", none, .flask⟩) ∧
      (Extract.line ("@app.route(" ++ '"'.toString ++ "/health" ++ '"'.toString ++ ")") 3 "app.py"
          .python "").endpoint =
        some { language := .python, file := "app.py", startLine := 3, endLine := 3,
               snippet := "@app.route(" ++ '"'.toString ++ "/health" ++ '"'.toString ++ ")",
               method := .get, route := "/health", handler := none, framework := .flask,
               confidence := flaskRoute.confidence } :=
  have hdoc : DocumentedLine .flaskRoute
      ("@app.route(" ++ '"'.toString ++ "/health" ++ '"'.toString ++ ")")
      (.endpoint ⟨.get, "/health", none, .flask⟩) :=
    .flask (by decide) (by simp [Reader.isQuote]) rfl rfl
  ⟨hdoc, line_declares_documented_endpoint hdoc 3 "app.py" .python ""⟩

/-- A documented function statement declares its function in a script language, with the
trimmed line as snippet: it is the first function idiom, and trimming keeps it documented. -/
theorem line_declares_documented_function {line name : String}
    (h : DocumentedLine .functionStatement line (.function name)) {language : Language}
    (hs : language.isScript = true) (n : Nat) (file content : String) :
    (Extract.line line n file language content).function =
      some { language, file, startLine := n, endLine := n, snippet := trim line, name,
             isExported := isExported (trim line), references := Reference.sites name content,
             confidence := functionStatement.confidence } := by
  cases h with
  | @functionStatement pre name x hpre hname =>
    have hrec : functionStatement.recognize (trim (pre ++ "function " ++ name ++ "(" ++ x)) =
        some (.function name) := by
      rw [trim_function_line hpre]
      exact recognizes_documented_lines (.functionStatement hpre hname)
    have hne : trim (pre ++ "function " ++ name ++ "(" ++ x) ≠ "" := by
      intro he
      rw [he, recognize_empty] at hrec
      cases hrec
    rw [line_of_trim hne]
    simp only [function, hs, Bool.not_true, Bool.false_eq_true, if_false, functionIdioms,
      List.findSome?_cons, hrec]

/-- An exported function statement with its body on the line declares an exported function. -/
theorem line_declares_documented_function_export :
    DocumentedLine .functionStatement ("export " ++ "function " ++ "start" ++ "(" ++ "port, host) ")
        (.function "start") ∧
      (Extract.line ("export " ++ "function " ++ "start" ++ "(" ++ "port, host) ") 7 "app.js"
          .javascript "").function =
        some { language := .javascript, file := "app.js", startLine := 7, endLine := 7,
               snippet := "export function start(port, host)", name := "start", isExported := true,
               references := [], confidence := functionStatement.confidence } :=
  have hdoc : DocumentedLine .functionStatement
      ("export " ++ "function " ++ "start" ++ "(" ++ "port, host) ") (.function "start") :=
    .functionStatement (by simp) rfl
  have htrim : trim ("export " ++ "function " ++ "start" ++ "(" ++ "port, host) ") =
      "export function start(port, host)" := by decide
  have hexported : isExported "export function start(port, host)" = true := by
    simp [isExported, Reference.occursAsWord, Reference.wholeWordOffsets, Reference.offsetsFrom]
    decide
  have hsites : Reference.sites "start" "" = [] := by decide
  ⟨hdoc, by rw [line_declares_documented_function hdoc rfl 7 "app.js" "", htrim, hexported, hsites]⟩

/-- A documented binding declares its function in a script language when no function statement
stands on the trimmed line: the function statement idiom is tried first. -/
theorem line_declares_documented_binding {line name : String}
    (h : DocumentedLine .anonymousBinding line (.function name)) {language : Language}
    (hs : language.isScript = true) (hno : functionStatement.recognize (trim line) = none)
    (n : Nat) (file content : String) :
    (Extract.line line n file language content).function =
      some { language, file, startLine := n, endLine := n, snippet := trim line, name,
             isExported := isExported (trim line), references := Reference.sites name content,
             confidence := anonymousBinding.confidence } := by
  cases h with
  | @binding pre kw name asy value hpre hkw hname hasy hvalue =>
    obtain ⟨value', hform, htrim⟩ := trim_binding_line hpre hkw hvalue
    have hrec : anonymousBinding.recognize (trim (pre ++ kw ++ " " ++ name ++ " = " ++ asy ++ value)) =
        some (.function name) := by
      rw [htrim]
      exact recognizes_documented_lines (.binding hpre hkw hname hasy hform)
    have hne : trim (pre ++ kw ++ " " ++ name ++ " = " ++ asy ++ value) ≠ "" := by
      intro he
      rw [he, recognize_empty] at hrec
      cases hrec
    rw [line_of_trim hne]
    simp only [function, hs, Bool.not_true, Bool.false_eq_true, if_false, functionIdioms,
      List.findSome?_cons, hno, hrec]

/-- An exported async arrow bound to a constant declares an exported function. -/
theorem line_declares_documented_binding_arrow :
    DocumentedLine .anonymousBinding ("export " ++ "const" ++ " " ++ "handler" ++ " = " ++ "async " ++
        ("(" ++ "req" ++ ") =>" ++ " reply(req)")) (.function "handler") ∧
      (Extract.line ("export " ++ "const" ++ " " ++ "handler" ++ " = " ++ "async " ++
          ("(" ++ "req" ++ ") =>" ++ " reply(req)")) 2 "app.ts" .typescript "").function =
        some { language := .typescript, file := "app.ts", startLine := 2, endLine := 2,
               snippet := "export const handler = async (req) => reply(req)", name := "handler",
               isExported := true, references := [],
               confidence := anonymousBinding.confidence } :=
  have hdoc : DocumentedLine .anonymousBinding ("export " ++ "const" ++ " " ++ "handler" ++ " = " ++
      "async " ++ ("(" ++ "req" ++ ") =>" ++ " reply(req)")) (.function "handler") :=
    .binding (by simp) (by simp) rfl (by simp) (.arrow (by decide))
  have htrim : trim ("export " ++ "const" ++ " " ++ "handler" ++ " = " ++ "async " ++
      ("(" ++ "req" ++ ") =>" ++ " reply(req)")) =
      "export const handler = async (req) => reply(req)" := by decide
  have hexported : isExported "export const handler = async (req) => reply(req)" = true := by
    simp [isExported, Reference.occursAsWord, Reference.wholeWordOffsets, Reference.offsetsFrom]
    decide
  have hsites : Reference.sites "handler" "" = [] := by decide
  ⟨hdoc, by
    rw [line_declares_documented_binding hdoc rfl (by rw [htrim]; rfl) 2 "app.ts" "", htrim,
      hexported, hsites]⟩

/-- A function statement in a binding's value comes first. -/
example : ((Extract.line "const a = x => function g(" 1 "app.js" .javascript "").function.map
    (·.name)) = some "g" := by
  rfl

end Extract

end OrphanedCode
