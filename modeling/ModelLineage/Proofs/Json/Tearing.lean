import Mathlib.Data.List.Infix
import ModelLineage.Proofs.Json.Lexemes

/-!
# Tokens of a torn text

A text that is cut off before its last visible character lacks a token, or it has
the beginning of one.  Of a string, this is a string of some of the units that has
ended too early, and of a literal word it is the flaw that the text has ended.  All
tokens before are whole.  Numerals are left out, as the beginning of a numeral may
be a numeral itself.
-/

namespace ModelLineage

namespace Json

/-- The beginning of a string that the text ends in. -/
structure Spelling.Torn (whole part : Spelling) : Prop where
  ended : part.flaw = some .ended
  units : part.units <+: whole.units

/-- What is read of a token that the text ends in. -/
inductive TornToken : Token → Token → Prop where
  | literal {char : Char} {token : Token} {word : List Char}
      (known : (char, token, word) ∈ literals) :
      TornToken token (.flaw .ended)
  | text {whole part : Spelling}
      (torn : whole.Torn part) :
      TornToken (.text whole) (.text part)

/-- Some of the tokens, but not all, and perhaps the beginning of the next one. -/
inductive CutShort : List Token → List Token → Prop where
  | before {token : Token} {tokens : List Token} :
      CutShort (token :: tokens) []
  | inside {token part : Token} {tokens : List Token}
      (torn : TornToken token part) :
      CutShort (token :: tokens) [part]
  | after {token : Token} {tokens parts : List Token}
      (later : CutShort tokens parts) :
      CutShort (token :: tokens) (token :: parts)

/-! ## Strings -/

theorem utf8Size_of_hexDigit?
    {char : Char} {value : Nat}
    (known : hexDigit? char = some value) :
    char.utf8Size = 1 := by
  have small : char.toNat ≤ 0x7f := by
    rw [hexDigit?] at known
    split at known
    · rename_i range
      exact Nat.le_trans range.2 (by decide)
    · split at known
      · rename_i range
        exact Nat.le_trans range.2 (by decide)
      · split at known
        · rename_i range
          exact Nat.le_trans range.2 (by decide)
        · cases known
  rw [Char.utf8Size]
  exact if_pos small

theorem sizes_of_hexCode?
    {first second third fourth : Char} {value : Nat}
    (known : hexCode? first second third fourth = some value) :
    first.utf8Size = 1 ∧ second.utf8Size = 1 ∧ third.utf8Size = 1 := by
  rw [hexCode?] at known
  rcases Option.bind_eq_some_iff.mp known with ⟨_, firstKnown, known⟩
  rcases Option.bind_eq_some_iff.mp known with ⟨_, secondKnown, known⟩
  rcases Option.bind_eq_some_iff.mp known with ⟨_, thirdKnown, _⟩
  exact ⟨utf8Size_of_hexDigit? firstKnown, utf8Size_of_hexDigit? secondKnown,
    utf8Size_of_hexDigit? thirdKnown⟩

/-- Where fewer than four bytes are left for the digits of a code, the text has ended. -/
theorem readText_code
    {digits : List Char}
    (few : byteLength digits < 4)
    (read : List TextUnit) :
    readText read ('\\' :: 'u' :: digits) = (⟨read.reverse, some .ended⟩, []) := by
  rw [readText, if_pos few]
  rintro first second third fourth rest rfl
  have firstSize := first.utf8Size_pos
  have secondSize := second.utf8Size_pos
  have thirdSize := third.utf8Size_pos
  have fourthSize := fourth.utf8Size_pos
  simp only [byteLength, List.foldr_cons] at few
  omega

theorem byteLength_append (first second : List Char) :
    byteLength (first ++ second) = byteLength first + byteLength second := by
  induction first with
  | nil => simp [byteLength]
  | cons char first ih =>
      show char.utf8Size + byteLength (first ++ second) = char.utf8Size + byteLength first + _
      rw [ih, Nat.add_assoc]

/-- A text that ends inside a unit has ended before it. -/
theorem readText_within
    {chars part : List Char} {unit : TextUnit}
    (spelled : SpellsUnit chars unit)
    (within : part <+: chars)
    (short : part ≠ chars)
    (read : List TextUnit) :
    readText read part = (⟨read.reverse, some .ended⟩, []) := by
  cases spelled with
  | @plain char =>
      have split : [char] = [] ++ [char] := rfl
      rw [split] at within short
      rcases List.prefix_concat_iff.mp within with whole | nothing
      · exact absurd whole short
      · rw [List.prefix_nil.mp nothing]
        rfl
  | @letter letter char known =>
      have split : ['\\', letter] = ['\\'] ++ [letter] := rfl
      rw [split] at within short
      rcases List.prefix_concat_iff.mp within with whole | inside
      · exact absurd whole short
      · rcases List.prefix_cons_iff.mp inside with rfl | ⟨rest, rfl, nothing⟩
        · rfl
        · rw [List.prefix_nil.mp nothing]
          rfl
  | @code first second third fourth value known =>
      rcases sizes_of_hexCode? known with ⟨firstSize, secondSize, thirdSize⟩
      have split : ['\\', 'u', first, second, third, fourth] =
          ['\\', 'u', first, second, third] ++ [fourth] := rfl
      rw [split] at within short
      rcases List.prefix_concat_iff.mp within with whole | inside
      · exact absurd whole short
      · rcases List.prefix_cons_iff.mp inside with rfl | ⟨rest, rfl, further⟩
        · rfl
        · rcases List.prefix_cons_iff.mp further with rfl | ⟨digits, rfl, ⟨lost, same⟩⟩
          · rfl
          · apply readText_code
            have bytes : byteLength (digits ++ lost) = 3 := by
              simp [same, byteLength, firstSize, secondSize, thirdSize]
            rw [byteLength_append] at bytes
            omega

theorem exists_readText_prefix
    {chars part : List Char} {units : List TextUnit}
    (spelled : SpellsUnits chars units)
    (within : part <+: chars)
    (read : List TextUnit) :
    ∃ taken, taken <+: units ∧
      readText read part = (⟨read.reverse ++ taken, some .ended⟩, []) := by
  induction spelled generalizing part read with
  | nil =>
      rw [List.prefix_nil.mp within]
      exact ⟨[], List.prefix_refl [], by rw [List.append_nil]; rfl⟩
  | @cons chars text unit units first later ih =>
      rcases within with ⟨lost, split⟩
      rcases List.append_eq_append_iff.mp split with ⟨rest, whole, _⟩ | ⟨rest, whole, further⟩
      · by_cases all : part = chars
        · refine ⟨[unit], by simp, ?_⟩
          have ended := readText_unit first read []
          rw [List.append_nil, ← all] at ended
          rw [ended, ← List.reverse_cons]
          rfl
        · refine ⟨[], List.nil_prefix, ?_⟩
          rw [readText_within first ⟨rest, whole.symm⟩ all, List.append_nil]
      · subst whole
        rcases ih ⟨lost, further.symm⟩ (unit :: read) with ⟨taken, within, same⟩
        refine ⟨unit :: taken, List.cons_prefix_cons.mpr ⟨rfl, within⟩, ?_⟩
        rw [readText_unit first, same, List.reverse_cons, List.append_assoc]
        rfl

/-! ## Tokens -/

theorem readLiteral_prefix
    {word part : List Char}
    (within : part <+: word)
    (short : part ≠ word)
    (token : Token) :
    readLiteral token word part = (.flaw .ended, []) := by
  induction word generalizing part with
  | nil => exact absurd (List.prefix_nil.mp within) short
  | cons char word ih =>
      rcases List.prefix_cons_iff.mp within with rfl | ⟨rest, rfl, inside⟩
      · rfl
      · rw [readLiteral, if_pos rfl]
        apply ih inside
        rintro rfl
        exact short rfl

theorem tokensOf_part_literal
    {char : Char} {token : Token} {word part : List Char}
    (known : (char, token, word) ∈ literals)
    (within : part <+: word)
    (short : part ≠ word) :
    tokensOf (char :: part) = [.flaw .ended] := by
  have read : readToken char part = readLiteral token word part ∧ isBlank char = false := by
    simp only [literals, List.mem_cons, List.not_mem_nil, or_false, Prod.mk.injEq] at known
    rcases known with ⟨rfl, rfl, rfl⟩ | ⟨rfl, rfl, rfl⟩ | ⟨rfl, rfl, rfl⟩ <;> exact ⟨rfl, rfl⟩
  rw [tokensOf_visible read.2, read.1, readLiteral_prefix within short, tokensOf_nil]

/-- The beginning of a token is read as one. -/
theorem exists_tokensOf_part
    {lexeme part : List Char} {token : Token}
    (spelled : SpellsToken lexeme token)
    (other : ∀ numeral, token ≠ .numeral numeral)
    (within : part <+: lexeme)
    (nonempty : part ≠ [])
    (short : part ≠ lexeme) :
    ∃ torn, TornToken token torn ∧ tokensOf part = [torn] := by
  cases spelled with
  | punctuation known =>
      rcases List.prefix_cons_iff.mp within with rfl | ⟨rest, rfl, nothing⟩
      · exact absurd rfl nonempty
      · rw [List.prefix_nil.mp nothing] at short
        exact absurd rfl short
  | literal known =>
      rcases List.prefix_cons_iff.mp within with rfl | ⟨rest, rfl, inside⟩
      · exact absurd rfl nonempty
      · refine ⟨_, .literal known, tokensOf_part_literal known inside ?_⟩
        rintro rfl
        exact short rfl
  | text spelled =>
      rcases List.prefix_cons_iff.mp within with rfl | ⟨rest, rfl, inside⟩
      · exact absurd rfl nonempty
      · rcases List.prefix_concat_iff.mp inside with rfl | inside
        · exact absurd rfl short
        · rcases exists_readText_prefix spelled inside [] with ⟨taken, prefixed, read⟩
          have token : readToken '"' rest = (.text ⟨taken, some .ended⟩, []) := by
            show (Token.text (readText [] rest).1, (readText [] rest).2) = _
            rw [read]
            rfl
          have torn : (Spelling.mk _ none).Torn ⟨taken, some .ended⟩ := ⟨rfl, prefixed⟩
          refine ⟨_, .text torn, ?_⟩
          rw [tokensOf_visible rfl, token, tokensOf_nil]
  | numeral spelled => exact absurd rfl (other _)

/-- A text that ends before its first token does is cut short, whatever was to come. -/
theorem cutShort_within
    {lexeme part : List Char} {token : Token}
    (spelled : SpellsToken lexeme token)
    (other : ∀ numeral, token ≠ .numeral numeral)
    (within : part <+: lexeme)
    (short : part ≠ lexeme)
    (tokens : List Token) :
    CutShort (token :: tokens) (tokensOf part) := by
  by_cases empty : part = []
  · rw [empty, tokensOf_nil]
    exact .before
  · rcases exists_tokensOf_part spelled other within empty short with ⟨torn, tornToken, read⟩
    rw [read]
    exact .inside tornToken

/-- A text that is cut off before its last visible character is cut short. -/
theorem cutShort_of_lexed
    {text cut lost : List Char} {tokens : List Token}
    (lexed : Lexed text tokens)
    (other : ∀ numeral, Token.numeral numeral ∉ tokens)
    (split : text = cut ++ lost)
    (visible : ∃ char ∈ lost, isBlank char = false) :
    CutShort tokens (tokensOf cut) := by
  induction lexed generalizing cut lost with
  | done =>
      rcases visible with ⟨char, listed, _⟩
      rw [(List.append_eq_nil_iff.mp split.symm).2] at listed
      cases listed
  | @blank char text tokens blank rest ih =>
      cases cut with
      | nil =>
          rcases visible with ⟨seen, listed, visible⟩
          rw [← List.nil_append lost, ← split] at listed
          rcases List.mem_cons.mp listed with rfl | later
          · rw [blank] at visible
            cases visible
          · exact ih other rfl ⟨seen, later, visible⟩
      | cons first cut =>
          cases split
          rw [tokensOf_blank blank]
          exact ih other rfl visible
  | @token lexeme text token tokens spelled longest rest ih =>
      have notNumeral : ∀ numeral, token ≠ .numeral numeral := by
        rintro numeral rfl
        exact other numeral List.mem_cons_self
      have otherLater : ∀ numeral, Token.numeral numeral ∉ tokens :=
        fun numeral listed => other numeral (List.mem_cons_of_mem _ listed)
      rcases List.append_eq_append_iff.mp split with ⟨further, rfl, same⟩ | ⟨inside, whole, rfl⟩
      · rw [tokensOf_lexeme spelled (Token.mayPrecede notNumeral further)]
        exact .after (ih otherLater same visible)
      · by_cases all : cut = lexeme
        · subst all
          have nothing : inside = [] := by
            simpa using whole.symm
          rw [nothing] at visible
          have read := tokensOf_lexeme spelled (Token.mayPrecede notNumeral [])
          rw [List.append_nil] at read
          rw [read]
          exact .after (ih otherLater rfl visible)
        · exact cutShort_within spelled notNumeral ⟨inside, whole.symm⟩ all tokens

end Json

end ModelLineage
