import ModelLineage.Json.Token

/-!
# Scanning a text

The tokens of a text can be taken one by one from its beginning, and blanks
between them go by unnoticed.
-/

namespace ModelLineage

namespace Json

/-- The tokens of the rest of a text. -/
def tokensOf (text : List Char) : List Token :=
  scanAfter [] text

theorem scanAfter_append
    (recent found : List Token)
    (text : List Char) :
    scanAfter (recent ++ found) text = found.reverse ++ scanAfter recent text := by
  induction recent, text using scanAfter.induct with
  | case1 recent =>
      rw [scanAfter, scanAfter, List.reverse_append]
  | case2 recent char rest blank ih =>
      rw [scanAfter, if_pos blank, ih, scanAfter, if_pos blank]
  | case3 recent char rest visible ih =>
      rw [scanAfter, if_neg visible, ← List.cons_append, ih, scanAfter, if_neg visible]

@[simp]
theorem tokensOf_nil : tokensOf [] = [] := by
  rw [tokensOf, scanAfter]
  rfl

theorem tokensOf_blank
    {char : Char}
    (blank : isBlank char = true)
    (rest : List Char) :
    tokensOf (char :: rest) = tokensOf rest := by
  rw [tokensOf, scanAfter, if_pos blank, tokensOf]

theorem tokensOf_visible
    {char : Char}
    (visible : isBlank char = false)
    (rest : List Char) :
    tokensOf (char :: rest) = (readToken char rest).1 :: tokensOf (readToken char rest).2 := by
  rw [tokensOf, scanAfter, visible]
  exact scanAfter_append [] [(readToken char rest).1] (readToken char rest).2

theorem tokensOf_punctuation
    {char : Char} {token : Token}
    (known : (char, token) ∈ punctuation)
    (rest : List Char) :
    tokensOf (char :: rest) = token :: tokensOf rest := by
  simp only [punctuation, List.mem_cons, List.not_mem_nil, or_false, Prod.mk.injEq] at known
  rcases known with
    ⟨rfl, rfl⟩ | ⟨rfl, rfl⟩ | ⟨rfl, rfl⟩ | ⟨rfl, rfl⟩ | ⟨rfl, rfl⟩ | ⟨rfl, rfl⟩ <;>
    exact tokensOf_visible rfl rest

end Json

end ModelLineage
