import ModelLineage.Proofs.Json.Nesting
import ModelLineage.Proofs.Json.Tearing

/-!
# Trees of torn texts

A text that is cut off has the tree of the whole text up to some place, with all
containers around that place broken by the end of the text.  At the place itself a
value may be missing, or a string stands there that has ended.  Whoever reads the
whole tree without an error goes the same way through the torn one and meets the
end of the text there.
-/

namespace ModelLineage

namespace Json

mutual

/-- The tree of a text that ends inside the text of a tree. -/
inductive Tree.Torn : Tree → Tree → Prop where
  | missing (tree : Tree) :
      Tree.Torn tree (.flaw .ended)
  | text {whole part : Spelling}
      (torn : whole.Torn part) :
      Tree.Torn (.text whole) (.text part)
  | array {items parts : List Tree}
      (torn : TornItems items parts) :
      Tree.Torn (.array items .closed) (.array parts (.broken .ended))
  | object {members parts : List (Spelling × Tree)}
      (torn : TornMembers members parts) :
      Tree.Torn (.object members .closed) (.object parts (.broken .ended))

inductive TornItems : List Tree → List Tree → Prop where
  | stop (items : List Tree) :
      TornItems items []
  | inside {item part : Tree} {items : List Tree}
      (torn : item.Torn part) :
      TornItems (item :: items) [part]
  | later {item : Tree} {items parts : List Tree}
      (torn : TornItems items parts) :
      TornItems (item :: items) (item :: parts)

inductive TornMembers : List (Spelling × Tree) → List (Spelling × Tree) → Prop where
  | stop (members : List (Spelling × Tree)) :
      TornMembers members []
  | key {key part : Spelling} {tree : Tree} {members : List (Spelling × Tree)}
      (torn : key.Torn part) :
      TornMembers ((key, tree) :: members) [(part, .flaw .ended)]
  | inside {key : Spelling} {tree part : Tree} {members : List (Spelling × Tree)}
      (torn : tree.Torn part) :
      TornMembers ((key, tree) :: members) [(key, part)]
  | later {member : Spelling × Tree} {members parts : List (Spelling × Tree)}
      (torn : TornMembers members parts) :
      TornMembers (member :: members) (member :: parts)

end

/-! ## Building -/

theorem CutShort.append_cases
    {first second parts : List Token}
    (cut : CutShort (first ++ second) parts) :
    CutShort first parts ∨ ∃ rest, parts = first ++ rest ∧ CutShort second rest := by
  induction first generalizing parts with
  | nil => exact .inr ⟨parts, rfl, cut⟩
  | cons token first ih =>
      cases cut with
      | before => exact .inl .before
      | inside torn => exact .inl (.inside torn)
      | after later =>
          rcases ih later with inside | ⟨rest, rfl, further⟩
          · exact .inl (.after inside)
          · exact .inr ⟨rest, rfl, further⟩

/-- Only the tokens that are values by themselves can be torn, and so is then their tree. -/
theorem TornToken.exists_leaf
    {token part : Token}
    (torn : TornToken token part) :
    ∃ tree partTree, token.leaf? = some tree ∧ part.leaf? = some partTree ∧
      tree.Torn partTree := by
  cases torn with
  | literal known =>
      have leaf : ∃ tree, token.leaf? = some tree := by
        simp only [literals, List.mem_cons, List.not_mem_nil, or_false, Prod.mk.injEq] at known
        rcases known with ⟨_, rfl, _⟩ | ⟨_, rfl, _⟩ | ⟨_, rfl, _⟩ <;> exact ⟨_, rfl⟩
      rcases leaf with ⟨tree, known⟩
      exact ⟨tree, _, known, rfl, .missing tree⟩
  | text torn => exact ⟨_, _, rfl, rfl, .text torn⟩

theorem TornToken.not_of_leaf?_eq_none
    {token part : Token}
    (torn : TornToken token part)
    (mark : token.leaf? = none) :
    False := by
  rcases torn.exists_leaf with ⟨tree, _, known, _⟩
  rw [mark] at known
  cases known

theorem build_leaf
    {token : Token} {tree : Tree}
    (leaf : token.leaf? = some tree)
    (stack : List OpenContainer)
    (rest : List Token) :
    build .value stack (token :: rest) = resume tree stack rest := by
  apply build_of_afterValue
  show takeValue token stack = _
  cases token with
  | openArray => cases leaf
  | openObject => cases leaf
  | closeArray => cases leaf
  | closeObject => cases leaf
  | comma => cases leaf
  | colon => cases leaf
  | _ =>
      cases leaf
      rfl

theorem tree_resume_nil (tree : Tree) (stack : List OpenContainer) :
    (resume tree stack []).tree = breakOff .ended tree stack := by
  cases stack with
  | nil => rfl
  | cons container outer =>
      cases container <;> rfl

/-- Where a value must stand, the tokens are those of a torn tree. -/
def BuildsTorn (tree : Tree) (parts : List Token) : Prop :=
  ∃ part, tree.Torn part ∧
    ∀ stack, (build .value stack parts).tree = breakOff .ended part stack

/-- Where an array is to go on, the tokens are those of its torn items. -/
def BuildsTornItems (expectation : Expectation) (items : List Tree) (parts : List Token) : Prop :=
  ∃ part, TornItems items part ∧
    ∀ done stack, (build expectation (.array done :: stack) parts).tree =
      breakOff .ended (.array (done.reverse ++ part) (.broken .ended)) stack

/-- Where an object is to go on, the tokens are those of its torn members. -/
def BuildsTornMembers
    (expectation : Expectation)
    (members : List (Spelling × Tree))
    (parts : List Token) : Prop :=
  ∃ part, TornMembers members part ∧
    ∀ done stack, (build expectation (.object done :: stack) parts).tree =
      breakOff .ended (.object (done.reverse ++ part) (.broken .ended)) stack

theorem buildsTorn_nil (tree : Tree) : BuildsTorn tree [] :=
  ⟨_, .missing tree, fun _ => rfl⟩

theorem buildsTorn_of_leaf
    {token : Token} {tree : Tree} {parts : List Token}
    (leaf : token.leaf? = some tree)
    (cut : CutShort [token] parts) :
    BuildsTorn tree parts := by
  cases cut with
  | before => exact buildsTorn_nil tree
  | inside torn =>
      rcases torn.exists_leaf with ⟨tree', part, known, partLeaf, tornTree⟩
      cases Option.some.inj (leaf.symm.trans known)
      refine ⟨part, tornTree, ?_⟩
      intro stack
      rw [build_leaf partLeaf, tree_resume_nil]
  | after later => cases later

/-- A container that the text ends in right away, or right after its last element. -/
theorem buildsTornItems_nil
    {expectation : Expectation}
    (between : expectation = .firstItem ∨ expectation = .separator)
    (items : List Tree) :
    BuildsTornItems expectation items [] := by
  refine ⟨[], .stop items, ?_⟩
  intro done stack
  rw [List.append_nil]
  rcases between with rfl | rfl <;> rfl

theorem buildsTornMembers_nil
    {expectation : Expectation}
    (between : expectation = .firstKey ∨ expectation = .key ∨ expectation = .separator)
    (members : List (Spelling × Tree)) :
    BuildsTornMembers expectation members [] := by
  refine ⟨[], .stop members, ?_⟩
  intro done stack
  rw [List.append_nil]
  rcases between with rfl | rfl | rfl <;> rfl

/-- An array is torn in the item that is next or in a later one. -/
theorem buildsTornItems_value
    {item : Tree} {value : Json} {items : List Tree} {parts : List Token}
    (spelled : item.Spells value)
    (first : ∀ {parts}, CutShort item.tokens parts → BuildsTorn item parts)
    (later : ∀ {parts}, CutShort (tokensOfItems false items) parts →
      BuildsTornItems .separator items parts)
    (cut : CutShort (item.tokens ++ tokensOfItems false items) parts) :
    BuildsTornItems .value (item :: items) parts := by
  rcases cut.append_cases with inside | ⟨rest, rfl, further⟩
  · rcases first inside with ⟨part, torn, built⟩
    refine ⟨[part], .inside torn, ?_⟩
    intro done stack
    rw [built, ← List.reverse_cons]
    rfl
  · rcases later further with ⟨part, torn, built⟩
    refine ⟨item :: part, .later torn, ?_⟩
    intro done stack
    have others := built (item :: done) stack
    rw [List.reverse_cons, List.append_assoc, List.singleton_append] at others
    rw [build_tokens spelled]
    exact others

/-- After its key and colon, an object is torn in the value of the member or in a later one. -/
theorem exists_tornMembers_value
    {key : Spelling} {tree : Tree} {value : Json}
    {members : List (Spelling × Tree)} {parts : List Token}
    (spelled : tree.Spells value)
    (first : ∀ {parts}, CutShort tree.tokens parts → BuildsTorn tree parts)
    (later : ∀ {parts}, CutShort (tokensOfMembers false members) parts →
      BuildsTornMembers .separator members parts)
    (cut : CutShort (tree.tokens ++ tokensOfMembers false members) parts) :
    ∃ part, TornMembers ((key, tree) :: members) part ∧
      ∀ done stack, (build .value (.member done key :: stack) parts).tree =
        breakOff .ended (.object (done.reverse ++ part) (.broken .ended)) stack := by
  rcases cut.append_cases with inside | ⟨rest, rfl, further⟩
  · rcases first inside with ⟨part, torn, built⟩
    refine ⟨[(key, part)], .inside torn, ?_⟩
    intro done stack
    rw [built, ← List.reverse_cons]
    rfl
  · rcases later further with ⟨part, torn, built⟩
    refine ⟨(key, tree) :: part, .later torn, ?_⟩
    intro done stack
    have others := built ((key, tree) :: done) stack
    rw [List.reverse_cons, List.append_assoc, List.singleton_append] at others
    rw [build_tokens spelled]
    exact others

/-- An object is torn in the member that is next or in a later one. -/
theorem buildsTornMembers_key
    {expectation : Expectation} {key : Spelling} {tree : Tree} {value : Json}
    {members : List (Spelling × Tree)} {parts : List Token}
    (before : expectation = .firstKey ∨ expectation = .key)
    (spelled : tree.Spells value)
    (first : ∀ {parts}, CutShort tree.tokens parts → BuildsTorn tree parts)
    (later : ∀ {parts}, CutShort (tokensOfMembers false members) parts →
      BuildsTornMembers .separator members parts)
    (cut : CutShort (.text key :: .colon :: (tree.tokens ++ tokensOfMembers false members)) parts) :
    BuildsTornMembers expectation ((key, tree) :: members) parts := by
  have taken (read : Spelling) (done : List (Spelling × Tree)) (stack : List OpenContainer)
      (rest : List Token) :
      build expectation (.object done :: stack) (.text read :: rest) =
        build .colon (.member done read :: stack) rest := by
    rcases before with rfl | rfl <;> rfl
  cases cut with
  | before =>
      apply buildsTornMembers_nil
      rcases before with rfl | rfl
      · exact .inl rfl
      · exact .inr (.inl rfl)
  | inside torn =>
      cases torn with
      | literal known => simp [literals] at known
      | @text _ part torn =>
          refine ⟨[(part, .flaw .ended)], .key torn, ?_⟩
          intro done stack
          rw [taken, ← List.reverse_cons]
          rfl
  | after afterKey =>
      cases afterKey with
      | before =>
          refine ⟨[(key, .flaw .ended)], .inside (.missing tree), ?_⟩
          intro done stack
          rw [taken, ← List.reverse_cons]
          rfl
      | inside torn => exact (torn.not_of_leaf?_eq_none rfl).elim
      | after further =>
          rcases exists_tornMembers_value spelled first later further with ⟨part, torn, built⟩
          refine ⟨part, torn, ?_⟩
          intro done stack
          rw [taken]
          exact built done stack

/-- The first token of a cut value still begins a value. -/
theorem CutShort.beginsValue
    {token part : Token} {tokens parts : List Token}
    (cut : CutShort (token :: tokens) (part :: parts))
    (begins : token.BeginsValue) :
    part.BeginsValue := by
  cases cut with
  | inside torn =>
      rcases torn.exists_leaf with ⟨_, _, _, leaf, _⟩
      rw [Token.BeginsValue, leaf]
      exact .inr (.inr rfl)
  | after later => exact begins

mutual

/-- The tokens of a tree, cut short, are those of a torn tree. -/
theorem buildsTorn_of_cutShort :
    ∀ {tree : Tree} {value : Json} {parts : List Token},
      tree.Spells value → CutShort tree.tokens parts → BuildsTorn tree parts
  | .null, _, _, _, cut => buildsTorn_of_leaf rfl cut
  | .boolean _, _, _, _, cut => buildsTorn_of_leaf rfl cut
  | .numeral _, _, _, _, cut => buildsTorn_of_leaf rfl cut
  | .cutNumeral, _, _, spelled, _ => nomatch spelled
  | .text _, _, _, _, cut => buildsTorn_of_leaf rfl cut
  | .flaw _, _, _, spelled, _ => nomatch spelled
  | .array items _, _, _, .array each, cut => by
      cases cut with
      | before => exact buildsTorn_nil _
      | inside torn => exact (torn.not_of_leaf?_eq_none rfl).elim
      | after later =>
          rcases buildsTornItems_of_cutShort true each later with ⟨part, torn, built⟩
          exact ⟨_, .array torn, built []⟩
  | .object members _, _, _, .object each, cut => by
      cases cut with
      | before => exact buildsTorn_nil _
      | inside torn => exact (torn.not_of_leaf?_eq_none rfl).elim
      | after later =>
          rcases buildsTornMembers_of_cutShort true each later with ⟨part, torn, built⟩
          exact ⟨_, .object torn, built []⟩

theorem buildsTornItems_of_cutShort :
    ∀ (isFirst : Bool) {items : List Tree} {values : List Json} {parts : List Token},
      SpellItems items values → CutShort (tokensOfItems isFirst items) parts →
        BuildsTornItems (if isFirst then .firstItem else .separator) items parts
  | isFirst, [], _, parts, _, cut => by
      cases cut with
      | before => exact buildsTornItems_nil (by cases isFirst <;> simp) []
      | inside torn => exact (torn.not_of_leaf?_eq_none rfl).elim
      | after later => cases later
  | true, item :: items, _, [], _, _ => buildsTornItems_nil (.inl rfl) _
  | true, item :: items, _, part :: parts, .cons first later, cut => by
      have inside : BuildsTornItems .value (item :: items) (part :: parts) :=
        buildsTornItems_value first (buildsTorn_of_cutShort first)
          (buildsTornItems_of_cutShort false later) cut
      rcases exists_tokens_eq_cons item with ⟨token, tokens, same, begins⟩
      rw [tokensOfItems, same] at cut
      have partBegins : part.BeginsValue := CutShort.beginsValue cut begins
      rcases inside with ⟨torn, tornItems, built⟩
      refine ⟨torn, tornItems, ?_⟩
      intro done stack
      rw [← built]
      exact congrArg Reading.tree (build_firstItem partBegins _ stack parts)
  | false, item :: items, _, _, .cons first later, cut => by
      cases cut with
      | before => exact buildsTornItems_nil (.inr rfl) _
      | inside torn => exact (torn.not_of_leaf?_eq_none rfl).elim
      | @after _ _ parts cut =>
          have afterComma : BuildsTornItems .value (item :: items) parts :=
            buildsTornItems_value first (buildsTorn_of_cutShort first)
              (buildsTornItems_of_cutShort false later) cut
          exact afterComma

theorem buildsTornMembers_of_cutShort :
    ∀ (isFirst : Bool) {members : List (Spelling × Tree)} {values : List (String × Json)}
      {parts : List Token},
      SpellMembers members values → CutShort (tokensOfMembers isFirst members) parts →
        BuildsTornMembers (if isFirst then .firstKey else .separator) members parts
  | isFirst, [], _, parts, _, cut => by
      cases cut with
      | before => exact buildsTornMembers_nil (by cases isFirst <;> simp) []
      | inside torn => exact (torn.not_of_leaf?_eq_none rfl).elim
      | after later => cases later
  | true, (key, tree) :: members, _, _, .cons _ first later, cut =>
      buildsTornMembers_key (.inl rfl) first (buildsTorn_of_cutShort first)
        (buildsTornMembers_of_cutShort false later) cut
  | false, (key, tree) :: members, _, _, .cons _ first later, cut => by
      cases cut with
      | before => exact buildsTornMembers_nil (.inr (.inr rfl)) _
      | inside torn => exact (torn.not_of_leaf?_eq_none rfl).elim
      | @after _ _ parts cut =>
          have afterComma : BuildsTornMembers .key ((key, tree) :: members) parts :=
            buildsTornMembers_key (.inr rfl) first (buildsTorn_of_cutShort first)
              (buildsTornMembers_of_cutShort false later) cut
          exact afterComma

end

/-! ## Reading -/

theorem notTrailing_of_readUnits
    {ending : Option Flaw} {read chars : List Char} {code : Nat} {units : List TextUnit}
    (done : Spelling.readUnits ending read (.code code :: units) = .ok chars) :
    ¬ isTrailingHalf code = true := by
  intro trailing
  match units, done with
  | [], done =>
      rw [Spelling.readUnits, if_pos trailing] at done
      cases done
  | .plain char :: units, done =>
      rw [Spelling.readUnits, if_pos (by rw [trailing, Bool.true_or])] at done
      cases done
  | .code next :: units, done =>
      rw [Spelling.readUnits, if_pos trailing] at done
      cases done

/-- Half of a character at the end of the text is no mistake but waits for the other half. -/
theorem readUnits_ended
    {ending : Option Flaw} :
    ∀ {units lost : List TextUnit} {read chars : List Char},
      Spelling.readUnits ending read (units ++ lost) = .ok chars →
        Spelling.readUnits (some .ended) read units = .error .ended
  | [], _, _, _, _ => rfl
  | .plain char :: units, lost, read, chars, whole => by
      rw [List.cons_append, Spelling.readUnits] at whole
      rw [Spelling.readUnits]
      exact readUnits_ended whole
  | [.code code], lost, read, chars, whole => by
      rw [Spelling.readUnits, if_neg (notTrailing_of_readUnits whole)]
      split <;> rfl
  | .code code :: .plain char :: units, lost, read, chars, whole => by
      rw [List.cons_append, List.cons_append, Spelling.readUnits] at whole
      rw [Spelling.readUnits]
      split at whole
      · cases whole
      · rename_i full
        rw [if_neg full]
        exact readUnits_ended whole
  | .code code :: .code next :: units, lost, read, chars, whole => by
      have notTrailing := notTrailing_of_readUnits whole
      rw [List.cons_append, List.cons_append, Spelling.readUnits, if_neg notTrailing] at whole
      rw [Spelling.readUnits, if_neg notTrailing]
      split at whole
      · rename_i leading
        split at whole
        · rename_i trailing
          rw [if_pos leading, if_pos trailing]
          exact readUnits_ended whole
        · cases whole
      · rename_i full
        rw [if_neg full]
        exact readUnits_ended whole

theorem Spelling.Torn.text
    {whole part : Spelling} {text : String}
    (torn : whole.Torn part)
    (read : whole.text = .ok text) :
    part.text = .error .ended := by
  rcases torn.units with ⟨lost, split⟩
  rw [Spelling.text, ← split] at read
  rcases exists_of_map_eq_ok read with ⟨chars, units, _⟩
  rw [Spelling.text, torn.ended, readUnits_ended units]
  rfl

theorem Spelling.Torn.pass
    {whole part : Spelling}
    (torn : whole.Torn part) :
    part.pass = .error .ended := by
  rw [Spelling.pass, torn.ended]

mutual

/-- Where a value is read of a whole tree, the end of the text is met in the torn one. -/
theorem value_of_torn :
    ∀ {tree part : Tree} {outside : Nat} {value : Json},
      tree.Torn part → tree.value outside = .ok value → part.value outside = .error .ended
  | _, _, _, _, .missing _, _ => rfl
  | _, _, _, _, .text torn, read => by
      rcases exists_of_map_eq_ok read with ⟨text, spelled, _⟩
      rw [Tree.value, torn.text spelled]
      rfl
  | _, _, outside, _, .array torn, read => by
      rw [Tree.value] at read
      split at read
      · rename_i inside
        rcases exists_of_bind_eq_ok read with ⟨values, contents, _⟩
        rw [Tree.value, if_pos inside]
        exact (failsOnlyBy_valuesOfItems torn contents).bind_eq_error fun _ => rfl
      · cases read
  | _, _, outside, _, .object torn, read => by
      rw [Tree.value] at read
      split at read
      · rename_i inside
        rcases exists_of_bind_eq_ok read with ⟨values, contents, _⟩
        rw [Tree.value, if_pos inside]
        exact (failsOnlyBy_valuesOfMembers torn contents).bind_eq_error fun _ => rfl
      · cases read

theorem failsOnlyBy_valuesOfItems :
    ∀ {items parts : List Tree} {outside : Nat} {values : List Json},
      TornItems items parts → valuesOfItems outside items = .ok values →
        FailsOnlyBy .ended (valuesOfItems outside parts)
  | _, _, _, _, .stop _, _ => failsOnlyBy_ok []
  | _, _, _, _, .inside torn, read => by
      rcases exists_of_bind_eq_ok read with ⟨value, first, _⟩
      rw [valuesOfItems, value_of_torn torn first]
      exact failsOnlyBy_error
  | _, _, _, _, .later torn, read => by
      rcases exists_of_bind_eq_ok read with ⟨value, first, later⟩
      rcases exists_of_bind_eq_ok later with ⟨others, rest, _⟩
      rw [valuesOfItems, first]
      exact (failsOnlyBy_valuesOfItems torn rest).bind fun _ _ => failsOnlyBy_ok _

theorem failsOnlyBy_valuesOfMembers :
    ∀ {members parts : List (Spelling × Tree)} {outside : Nat} {values : List (String × Json)},
      TornMembers members parts → valuesOfMembers outside members = .ok values →
        FailsOnlyBy .ended (valuesOfMembers outside parts)
  | _, _, _, _, .stop _, _ => failsOnlyBy_ok []
  | _, _, _, _, .key torn, read => by
      rcases exists_of_bind_eq_ok read with ⟨key, keyRead, _⟩
      rw [valuesOfMembers, torn.text keyRead]
      exact failsOnlyBy_error
  | _, _, _, _, .inside torn, read => by
      rcases exists_of_bind_eq_ok read with ⟨key, keyRead, later⟩
      rcases exists_of_bind_eq_ok later with ⟨value, first, _⟩
      rw [valuesOfMembers, keyRead, ok_bind, value_of_torn torn first]
      exact failsOnlyBy_error
  | (_, _) :: _, _, _, _, .later torn, read => by
      rcases exists_of_bind_eq_ok read with ⟨key, keyRead, later⟩
      rcases exists_of_bind_eq_ok later with ⟨value, first, later⟩
      rcases exists_of_bind_eq_ok later with ⟨others, rest, _⟩
      rw [valuesOfMembers, keyRead, ok_bind, first]
      exact (failsOnlyBy_valuesOfMembers torn rest).bind fun _ _ => failsOnlyBy_ok _

end

mutual

/-- Where a whole tree is passed over, the end of the text is met in the torn one. -/
theorem pass_of_torn :
    ∀ {tree part : Tree}, tree.Torn part → tree.pass = .ok () → part.pass = .error .ended
  | _, _, .missing _, _ => rfl
  | _, _, .text torn, _ => torn.pass
  | _, _, .array torn, passed => by
      rcases exists_of_bind_eq_ok passed with ⟨_, contents, _⟩
      exact (failsOnlyBy_passItems torn contents).bind_eq_error fun _ => rfl
  | _, _, .object torn, passed => by
      rcases exists_of_bind_eq_ok passed with ⟨_, contents, _⟩
      exact (failsOnlyBy_passMembers torn contents).bind_eq_error fun _ => rfl

theorem failsOnlyBy_passItems :
    ∀ {items parts : List Tree},
      TornItems items parts → passItems items = .ok () → FailsOnlyBy .ended (passItems parts)
  | _, _, .stop _, _ => failsOnlyBy_ok ()
  | _, _, .inside torn, passed => by
      rcases exists_of_bind_eq_ok passed with ⟨_, first, _⟩
      rw [passItems, pass_of_torn torn first]
      exact failsOnlyBy_error
  | _, _, .later torn, passed => by
      rcases exists_of_bind_eq_ok passed with ⟨_, first, rest⟩
      rw [passItems, first]
      exact failsOnlyBy_passItems torn rest

theorem failsOnlyBy_passMembers :
    ∀ {members parts : List (Spelling × Tree)},
      TornMembers members parts → passMembers members = .ok () →
        FailsOnlyBy .ended (passMembers parts)
  | _, _, .stop _, _ => failsOnlyBy_ok ()
  | _, _, .key torn, _ => by
      rw [passMembers, torn.pass]
      exact failsOnlyBy_error
  | _, _, .inside torn, passed => by
      rcases exists_of_bind_eq_ok passed with ⟨_, key, later⟩
      rcases exists_of_bind_eq_ok later with ⟨_, first, _⟩
      rw [passMembers, key, ok_bind, pass_of_torn torn first]
      exact failsOnlyBy_error
  | (_, _) :: _, _, .later torn, passed => by
      rcases exists_of_bind_eq_ok passed with ⟨_, key, later⟩
      rcases exists_of_bind_eq_ok later with ⟨_, first, rest⟩
      rw [passMembers, key, ok_bind, first]
      exact failsOnlyBy_passMembers torn rest

end

/-! ## Texts -/

mutual

/-- Where no number is spelled, none of the tokens is a numeral. -/
theorem numeral_not_mem_tokens (numeral : Numeral) :
    ∀ {tree : Tree} {value : Json},
      tree.Spells value → value.Numberless → .numeral numeral ∉ tree.tokens
  | .null, _, _, _ => by simp [Tree.tokens]
  | .boolean _, _, _, _ => by simp [Tree.tokens]
  | .numeral _, _, .numeral inRange, numberless =>
      absurd numberless (not_numberless_of_value? inRange)
  | .cutNumeral, _, spelled, _ => nomatch spelled
  | .text _, _, _, _ => by simp [Tree.tokens]
  | .flaw _, _, spelled, _ => nomatch spelled
  | .array _ _, _, .array each, numberless => by
      have inside := numeral_not_mem_tokensOfItems numeral true each numberless
      simpa [Tree.tokens] using inside
  | .object _ _, _, .object each, numberless => by
      have inside := numeral_not_mem_tokensOfMembers numeral true each numberless
      simpa [Tree.tokens] using inside

theorem numeral_not_mem_tokensOfItems (numeral : Numeral) :
    ∀ (isFirst : Bool) {items : List Tree} {values : List Json},
      SpellItems items values → NumberlessItems values →
        .numeral numeral ∉ tokensOfItems isFirst items
  | _, [], _, _, _ => by simp [tokensOfItems]
  | isFirst, _ :: _, _, .cons first later, ⟨firstNumberless, laterNumberless⟩ => by
      have inFirst := numeral_not_mem_tokens numeral first firstNumberless
      have inLater := numeral_not_mem_tokensOfItems numeral false later laterNumberless
      cases isFirst <;> simp [tokensOfItems, inFirst, inLater]

theorem numeral_not_mem_tokensOfMembers (numeral : Numeral) :
    ∀ (isFirst : Bool) {members : List (Spelling × Tree)} {values : List (String × Json)},
      SpellMembers members values → NumberlessMembers values →
        .numeral numeral ∉ tokensOfMembers isFirst members
  | _, [], _, _, _ => by simp [tokensOfMembers]
  | isFirst, _ :: _, _, .cons _ first later, ⟨firstNumberless, laterNumberless⟩ => by
      have inFirst := numeral_not_mem_tokens numeral first firstNumberless
      have inLater := numeral_not_mem_tokensOfMembers numeral false later laterNumberless
      cases isFirst <;> simp [tokensOfMembers, inFirst, inLater]

end

/-- The tree of a text that is cut off before its last visible character is torn. -/
theorem torn_ofText
    {tree : Tree} {value : Json} {text cut lost : List Char}
    (spelled : tree.Spells value)
    (numberless : value.Numberless)
    (lexed : Lexed text tree.tokens)
    (split : text = cut ++ lost)
    (visible : ∃ char ∈ lost, isBlank char = false) :
    tree.Torn (Reading.ofText (String.ofList cut)).tree := by
  have others : ∀ numeral, .numeral numeral ∉ tree.tokens :=
    fun numeral => numeral_not_mem_tokens numeral spelled numberless
  have short := cutShort_of_lexed lexed others split visible
  rcases buildsTorn_of_cutShort spelled short with ⟨part, torn, built⟩
  have read : (Reading.ofText (String.ofList cut)).tree = part := by
    rw [Reading.ofText, scan, String.toList_ofList]
    exact built []
  rwa [read]

end Json

end ModelLineage
