import Mathlib.Tactic.IntervalCases
import ModelLineage.Proofs.Json.Numerals
import ModelLineage.Proofs.Json.Scanning

/-!
# How tokens are spelled

A text is lexed as some tokens if it spells them one after the other with any
blanks around them.  A token of a text is as long as it can be: a numeral does not
stand before something that would go on with it, which in a text of JSON it never
does.  A text that is lexed as some tokens is cut into these.

A string may be spelled in many ways, as each character may stand for itself or be
escaped by a letter or by its code.  What is written of a value is one of them.
-/

namespace ModelLineage

namespace Json

/-- The ways to spell one unit of a string. -/
inductive SpellsUnit : List Char → TextUnit → Prop where
  | plain {char : Char}
      (unquoted : char ≠ '"')
      (unslashed : char ≠ '\\')
      (visible : ¬ char.toNat < 0x20) :
      SpellsUnit [char] (.plain char)
  | letter {letter char : Char}
      (known : unescaped? letter = some char) :
      SpellsUnit ['\\', letter] (.plain char)
  | code {first second third fourth : Char} {value : Nat}
      (known : hexCode? first second third fourth = some value) :
      SpellsUnit ['\\', 'u', first, second, third, fourth] (.code value)

/-- Units spelled one after the other. -/
inductive SpellsUnits : List Char → List TextUnit → Prop where
  | nil :
      SpellsUnits [] []
  | cons {chars text : List Char} {unit : TextUnit} {units : List TextUnit}
      (first : SpellsUnit chars unit)
      (later : SpellsUnits text units) :
      SpellsUnits (chars ++ text) (unit :: units)

/-- The ways to spell a token. -/
inductive SpellsToken : List Char → Token → Prop where
  | punctuation {char : Char} {token : Token}
      (known : (char, token) ∈ punctuation) :
      SpellsToken [char] token
  | literal {char : Char} {token : Token} {word : List Char}
      (known : (char, token, word) ∈ literals) :
      SpellsToken (char :: word) token
  | text {chars : List Char} {units : List TextUnit}
      (spelled : SpellsUnits chars units) :
      SpellsToken ('"' :: (chars ++ ['"'])) (.text ⟨units, none⟩)
  | numeral {chars : List Char} {numeral : Numeral}
      (spelled : Numeral.Spells chars numeral) :
      SpellsToken chars (.numeral numeral)

/-- A token may stand before a text, which a numeral may not if the text would go on with it. -/
def Token.MayPrecede : Token → List Char → Prop
  | .numeral _, rest => EndsNumeral rest
  | _, _ => True

/-- Every token but a numeral may stand before any text. -/
theorem Token.mayPrecede
    {token : Token}
    (other : ∀ numeral, token ≠ .numeral numeral)
    (text : List Char) :
    token.MayPrecede text := by
  cases token with
  | numeral numeral => exact absurd rfl (other numeral)
  | _ => trivial

/-- A text spells some tokens one after the other, with any blanks around them. -/
inductive Lexed : List Char → List Token → Prop where
  | done :
      Lexed [] []
  | blank {char : Char} {text : List Char} {tokens : List Token}
      (blank : isBlank char = true)
      (rest : Lexed text tokens) :
      Lexed (char :: text) tokens
  | token {lexeme text : List Char} {token : Token} {tokens : List Token}
      (spelled : SpellsToken lexeme token)
      (longest : token.MayPrecede text)
      (rest : Lexed text tokens) :
      Lexed (lexeme ++ text) (token :: tokens)

/-! ## Strings -/

theorem readText_plain
    {read : List TextUnit} {char : Char} {rest : List Char}
    (unquoted : char ≠ '"')
    (unslashed : char ≠ '\\')
    (visible : ¬ char.toNat < 0x20) :
    readText read (char :: rest) = readText (.plain char :: read) rest := by
  rw [readText, if_neg visible]
  all_goals
    intros
    contradiction

theorem readText_unit
    {chars : List Char} {unit : TextUnit}
    (spelled : SpellsUnit chars unit)
    (read : List TextUnit)
    (rest : List Char) :
    readText read (chars ++ rest) = readText (unit :: read) rest := by
  cases spelled with
  | plain unquoted unslashed visible => exact readText_plain unquoted unslashed visible
  | @letter letter char known =>
      have other : letter ≠ 'u' := by
        rintro rfl
        cases known
      show readText read ('\\' :: letter :: rest) = _
      rw [readText, known]
      all_goals
        intros
        contradiction
  | @code first second third fourth value known =>
      show readText read ('\\' :: 'u' :: first :: second :: third :: fourth :: rest) = _
      rw [readText, known]

theorem readText_units
    {chars : List Char} {units : List TextUnit}
    (spelled : SpellsUnits chars units)
    (read : List TextUnit)
    (rest : List Char) :
    readText read (chars ++ '"' :: rest) = (⟨read.reverse ++ units, none⟩, rest) := by
  induction spelled generalizing read with
  | nil =>
      rw [List.append_nil]
      rfl
  | cons first _ ih =>
      rw [List.append_assoc, readText_unit first, ih]
      simp

/-! ## Tokens -/

theorem tokensOf_text
    {chars : List Char} {units : List TextUnit}
    (spelled : SpellsUnits chars units)
    (rest : List Char) :
    tokensOf ('"' :: (chars ++ ['"']) ++ rest) = .text ⟨units, none⟩ :: tokensOf rest := by
  have inside : readText [] (chars ++ '"' :: rest) = (⟨units, none⟩, rest) :=
    readText_units spelled [] rest
  have token : readToken '"' (chars ++ '"' :: rest) = (.text ⟨units, none⟩, rest) := by
    show (Token.text (readText [] _).1, (readText [] _).2) = _
    rw [inside]
  rw [List.cons_append, List.append_assoc, List.singleton_append, tokensOf_visible rfl, token]

theorem tokensOf_literal
    {char : Char} {token : Token} {word : List Char}
    (known : (char, token, word) ∈ literals)
    (rest : List Char) :
    tokensOf (char :: word ++ rest) = token :: tokensOf rest := by
  simp only [literals, List.mem_cons, List.not_mem_nil, or_false, Prod.mk.injEq] at known
  rcases known with ⟨rfl, rfl, rfl⟩ | ⟨rfl, rfl, rfl⟩ | ⟨rfl, rfl, rfl⟩ <;>
    exact tokensOf_visible rfl _

/-- The decimal digits. -/
def digits : List Char :=
  ['0', '1', '2', '3', '4', '5', '6', '7', '8', '9']

theorem mem_digits_of_digit?
    {char : Char}
    (digit : (digit? char).isSome) :
    char ∈ digits := by
  have range : 48 ≤ char.toNat ∧ char.toNat ≤ 57 := by
    rw [digit?] at digit
    split at digit
    · assumption
    · cases digit
  have same : char = Char.ofNat char.toNat := (Char.ofNat_toNat char).symm
  rcases range with ⟨lower, upper⟩
  generalize char.toNat = code at same lower upper
  interval_cases code <;> subst same <;> decide

/-- A digit begins a numeral. -/
theorem tokensOf_digit
    {char : Char}
    (digit : (digit? char).isSome)
    (rest : List Char) :
    tokensOf (char :: rest) =
      (readNumeral false (char :: rest)).1 :: tokensOf (readNumeral false (char :: rest)).2 := by
  have known := mem_digits_of_digit? digit
  simp only [digits, List.mem_cons, List.not_mem_nil, or_false] at known
  rcases known with rfl | rfl | rfl | rfl | rfl | rfl | rfl | rfl | rfl | rfl <;>
    exact tokensOf_visible rfl rest

theorem tokensOf_numeral
    {chars text : List Char} {numeral : Numeral}
    (spelled : Numeral.Spells chars numeral)
    (ends : EndsNumeral text) :
    tokensOf (chars ++ text) = .numeral numeral :: tokensOf text := by
  rcases spelled.read_append ends with ⟨unsigned, rfl, ⟨first, rest, rfl, digit⟩, read⟩
  have taken :
      readNumeral numeral.negative (first :: rest ++ text) = (.numeral numeral, text) := by
    rw [readNumeral, read]
  cases sign : numeral.negative with
  | false =>
      rw [sign] at taken
      rw [if_neg Bool.false_ne_true, List.nil_append, List.cons_append, tokensOf_digit digit,
        ← List.cons_append, taken]
  | true =>
      rw [sign] at taken
      rw [if_pos rfl, List.append_assoc, List.singleton_append, tokensOf_visible rfl]
      show (readNumeral true (first :: rest ++ text)).1 ::
        tokensOf (readNumeral true (first :: rest ++ text)).2 = _
      rw [taken]

theorem tokensOf_lexeme
    {lexeme text : List Char} {token : Token}
    (spelled : SpellsToken lexeme token)
    (longest : token.MayPrecede text) :
    tokensOf (lexeme ++ text) = token :: tokensOf text := by
  cases spelled with
  | punctuation known => exact tokensOf_punctuation known text
  | literal known => exact tokensOf_literal known text
  | text spelled => exact tokensOf_text spelled text
  | numeral spelled => exact tokensOf_numeral spelled longest

/-- A text is cut into the tokens that it spells. -/
theorem tokensOf_eq_of_lexed
    {text : List Char} {tokens : List Token}
    (lexed : Lexed text tokens) :
    tokensOf text = tokens := by
  induction lexed with
  | done => exact tokensOf_nil
  | blank blank _ ih => rw [tokensOf_blank blank, ih]
  | token spelled longest _ ih => rw [tokensOf_lexeme spelled longest, ih]

end Json

end ModelLineage
