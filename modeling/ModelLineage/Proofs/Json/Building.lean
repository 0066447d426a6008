import ModelLineage.Json.Contents
import ModelLineage.Proofs.Json.Lexemes

/-!
# The tree of a text

A whole tree spells a value if it has the structure of the value, its strings spell
the strings of the value and its numerals numbers in range.  Such a tree is what is
built from its own tokens, wherever they stand, and so it is the tree of every text
that spells these tokens.
-/

namespace ModelLineage

namespace Json

mutual

/-- The tokens of a tree; a container is taken to be closed. -/
def Tree.tokens : Tree → List Token
  | .null => [.null]
  | .boolean value => [.boolean value]
  | .numeral numeral => [.numeral numeral]
  | .cutNumeral => [.cutNumeral]
  | .text spelling => [.text spelling]
  | .array items _ => .openArray :: tokensOfItems true items
  | .object members _ => .openObject :: tokensOfMembers true members
  | .flaw flaw => [.flaw flaw]
termination_by structural tree => tree

/-- The tokens of the items of an array from some point on, with the closing bracket. -/
def tokensOfItems (isFirst : Bool) : List Tree → List Token
  | [] => [.closeArray]
  | item :: items =>
    (if isFirst then [] else [.comma]) ++ (item.tokens ++ tokensOfItems false items)
termination_by structural items => items

/-- The tokens of the members of an object from some point on, with the closing brace. -/
def tokensOfMembers (isFirst : Bool) : List (Spelling × Tree) → List Token
  | [] => [.closeObject]
  | (key, tree) :: members =>
    (if isFirst then [] else [.comma]) ++
      .text key :: .colon :: (tree.tokens ++ tokensOfMembers false members)
termination_by structural members => members

end

/-- A unit spells a character, itself or by its code, but not by two halves. -/
inductive TextUnit.Spells : TextUnit → Char → Prop where
  | plain (char : Char) :
      TextUnit.Spells (.plain char) char
  | code {code : Nat}
      (notLeading : isLeadingHalf code = false)
      (notTrailing : isTrailingHalf code = false) :
      TextUnit.Spells (.code code) (Char.ofNat code)

/-- A whole string whose units spell the characters of a text. -/
structure Spelling.Spells (spelling : Spelling) (text : String) : Prop where
  whole : spelling.flaw = none
  units : List.Forall₂ TextUnit.Spells spelling.units text.toList

mutual

/-- A whole tree spells a value. -/
inductive Tree.Spells : Tree → Json → Prop where
  | null :
      Tree.Spells .null .null
  | boolean (value : Bool) :
      Tree.Spells (.boolean value) (.boolean value)
  | numeral {numeral : Numeral} {value : Json}
      (inRange : numeral.value? = some value) :
      Tree.Spells (.numeral numeral) value
  | text {spelling : Spelling} {text : String}
      (spelled : spelling.Spells text) :
      Tree.Spells (.text spelling) (.string text)
  | array {items : List Tree} {values : List Json}
      (each : SpellItems items values) :
      Tree.Spells (.array items .closed) (.array values)
  | object {members : List (Spelling × Tree)} {values : List (String × Json)}
      (each : SpellMembers members values) :
      Tree.Spells (.object members .closed) (.object values)

inductive SpellItems : List Tree → List Json → Prop where
  | nil :
      SpellItems [] []
  | cons {item : Tree} {items : List Tree} {value : Json} {values : List Json}
      (first : item.Spells value)
      (later : SpellItems items values) :
      SpellItems (item :: items) (value :: values)

inductive SpellMembers : List (Spelling × Tree) → List (String × Json) → Prop where
  | nil :
      SpellMembers [] []
  | cons
      {spelling : Spelling} {tree : Tree} {key : String} {value : Json}
      {members : List (Spelling × Tree)} {values : List (String × Json)}
      (keySpelled : spelling.Spells key)
      (first : tree.Spells value)
      (later : SpellMembers members values) :
      SpellMembers ((spelling, tree) :: members) ((key, value) :: values)

end

/-! ## Building -/

/-- Go on with some tokens after a value that is whole. -/
def resume (value : Tree) : List OpenContainer → List Token → Reading
  | [], tokens => ⟨value, tokens.isEmpty⟩
  | container :: outer, tokens => build .separator (container.fill value :: outer) tokens

theorem build_of_afterValue
    {token : Token} {expectation : Expectation} {value : Tree}
    {stack outer : List OpenContainer}
    (taken : take token expectation stack = afterValue value outer)
    (tokens : List Token) :
    build expectation stack (token :: tokens) = resume value outer tokens := by
  rw [build, taken]
  cases outer <;> rfl

/-- The tokens with which a value may begin. -/
def Token.BeginsValue (token : Token) : Prop :=
  token = .openArray ∨ token = .openObject ∨ token.leaf?.isSome

theorem exists_tokens_eq_cons (tree : Tree) :
    ∃ token tokens, tree.tokens = token :: tokens ∧ token.BeginsValue := by
  cases tree with
  | array items ending => exact ⟨_, _, rfl, .inl rfl⟩
  | object members ending => exact ⟨_, _, rfl, .inr (.inl rfl)⟩
  | _ => exact ⟨_, _, rfl, .inr (.inr rfl)⟩

/-- Where the first item of an array may stand, a value is taken as it is elsewhere. -/
theorem build_firstItem
    {token : Token}
    (begins : token.BeginsValue)
    (container : OpenContainer)
    (outer : List OpenContainer)
    (tokens : List Token) :
    build .firstItem (container :: outer) (token :: tokens) =
      build .value (container :: outer) (token :: tokens) := by
  rcases begins with rfl | rfl | leaf
  · rfl
  · rfl
  · cases token with
    | null => rfl
    | boolean value => rfl
    | numeral numeral => rfl
    | cutNumeral => rfl
    | text spelling => rfl
    | flaw flaw => rfl
    | _ => cases leaf

mutual

/-- A whole tree is built from its tokens, wherever they stand. -/
theorem build_tokens :
    ∀ {tree : Tree} {value : Json},
      tree.Spells value →
        ∀ (stack : List OpenContainer) (rest : List Token),
          build .value stack (tree.tokens ++ rest) = resume tree stack rest
  | .null, _, _, _, rest => build_of_afterValue rfl rest
  | .boolean _, _, _, _, rest => build_of_afterValue rfl rest
  | .numeral _, _, _, _, rest => build_of_afterValue rfl rest
  | .cutNumeral, _, spelled, _, _ => nomatch spelled
  | .text _, _, _, _, rest => build_of_afterValue rfl rest
  | .flaw _, _, spelled, _, _ => nomatch spelled
  | .array items _, _, .array each, stack, rest => by
      show build .firstItem (.array [] :: stack) (tokensOfItems true items ++ rest) = _
      cases each with
      | nil => exact build_of_afterValue rfl rest
      | @cons item items value values first later =>
          have built :=
            build_tokens first (.array [] :: stack) (tokensOfItems false items ++ rest)
          have others := build_tokensOfItems later [item] stack rest
          rcases exists_tokens_eq_cons item with ⟨token, tokens, same, begins⟩
          show build .firstItem (.array [] :: stack)
            (item.tokens ++ tokensOfItems false items ++ rest) = _
          rw [same] at built
          rw [List.append_assoc, same, List.cons_append, build_firstItem begins]
          exact built.trans others
  | .object members _, _, .object each, stack, rest => by
      show build .firstKey (.object [] :: stack) (tokensOfMembers true members ++ rest) = _
      cases each with
      | nil => exact build_of_afterValue rfl rest
      | @cons key tree _ _ members values _ first later =>
          have built :=
            build_tokens first (.member [] key :: stack) (tokensOfMembers false members ++ rest)
          have others := build_tokensOfMembers later [(key, tree)] stack rest
          show build .value (.member [] key :: stack)
            (tree.tokens ++ tokensOfMembers false members ++ rest) = _
          rw [List.append_assoc]
          exact built.trans others

theorem build_tokensOfItems :
    ∀ {items : List Tree} {values : List Json},
      SpellItems items values →
        ∀ (done : List Tree) (stack : List OpenContainer) (rest : List Token),
          build .separator (.array done :: stack) (tokensOfItems false items ++ rest) =
            resume (.array (done.reverse ++ items) .closed) stack rest
  | [], _, _, done, stack, rest => by
      rw [List.append_nil]
      exact build_of_afterValue rfl rest
  | item :: items, _, .cons first later, done, stack, rest => by
      have built :=
        build_tokens first (.array done :: stack) (tokensOfItems false items ++ rest)
      have others := build_tokensOfItems later (item :: done) stack rest
      rw [List.reverse_cons, List.append_assoc, List.singleton_append] at others
      show build .value (.array done :: stack)
        (item.tokens ++ tokensOfItems false items ++ rest) = _
      rw [List.append_assoc]
      exact built.trans others

theorem build_tokensOfMembers :
    ∀ {members : List (Spelling × Tree)} {values : List (String × Json)},
      SpellMembers members values →
        ∀ (done : List (Spelling × Tree)) (stack : List OpenContainer) (rest : List Token),
          build .separator (.object done :: stack) (tokensOfMembers false members ++ rest) =
            resume (.object (done.reverse ++ members) .closed) stack rest
  | [], _, _, done, stack, rest => by
      rw [List.append_nil]
      exact build_of_afterValue rfl rest
  | (key, tree) :: members, _, .cons _ first later, done, stack, rest => by
      have built :=
        build_tokens first (.member done key :: stack) (tokensOfMembers false members ++ rest)
      have others := build_tokensOfMembers later ((key, tree) :: done) stack rest
      rw [List.reverse_cons, List.append_assoc, List.singleton_append] at others
      show build .value (.member done key :: stack)
        (tree.tokens ++ tokensOfMembers false members ++ rest) = _
      rw [List.append_assoc]
      exact built.trans others

end

/-- The tree of a text that spells the tokens of a whole tree. -/
theorem ofText_of_lexed
    {text : String} {tree : Tree} {value : Json}
    (lexed : Lexed text.toList tree.tokens)
    (spelled : tree.Spells value) :
    Reading.ofText text = ⟨tree, true⟩ := by
  have built := build_tokens spelled [] []
  rw [List.append_nil, ← tokensOf_eq_of_lexed lexed] at built
  exact built

/--
A text of a value: its strings spell every character by itself or by an escape other than
two halves, its numerals are in range, and any blanks stand between the tokens.
-/
def SpelledBy (value : Json) (text : String) : Prop :=
  ∃ tree : Tree, tree.Spells value ∧ Lexed text.toList tree.tokens

end Json

end ModelLineage
