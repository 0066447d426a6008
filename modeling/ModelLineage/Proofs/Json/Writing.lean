import ModelLineage.Json.Printer
import ModelLineage.Proofs.Json.Contents

/-!
# What was written

What is written of a value spells the tokens of a tree that spells the value,
whatever blanks the layout puts between the tokens, so it is read as this tree.
Values with numbers in them are left out: a graph has none.
-/

namespace ModelLineage

namespace Json

/-! ## Strings -/

/-- The characters that are escaped by a letter. -/
def lettered : List Char :=
  ['"', '\\', '\x08', '\x0c', '\n', '\r', '\t']

/-- How a character of a string is spelled when it is written. -/
def writtenUnit (char : Char) : TextUnit :=
  if char.toNat < 0x20 ∧ char ∉ lettered then .code char.toNat else .plain char

theorem hexCode?_hexDigit
    {value : Nat}
    (small : value < 0x20) :
    hexCode? '0' '0' (hexDigit (value / 16)) (hexDigit (value % 16)) = some value := by
  revert value
  decide

theorem escaped_of_not_lettered
    {char : Char}
    (unlettered : char ∉ lettered) :
    escaped char =
      if char.toNat < 0x20 then
        ['\\', 'u', '0', '0', hexDigit (char.toNat / 16), hexDigit (char.toNat % 16)]
      else [char] := by
  simp only [lettered, List.mem_cons, List.not_mem_nil, or_false, not_or] at unlettered
  simp only [escaped, unlettered, if_false]

/-- What is written of a character spells one unit. -/
theorem spellsUnit_escaped (char : Char) : SpellsUnit (escaped char) (writtenUnit char) := by
  by_cases known : char ∈ lettered
  · have letter : writtenUnit char = .plain char := if_neg fun both => both.2 known
    rw [letter]
    simp only [lettered, List.mem_cons, List.not_mem_nil, or_false] at known
    rcases known with rfl | rfl | rfl | rfl | rfl | rfl | rfl <;> exact .letter rfl
  · rw [escaped_of_not_lettered known, writtenUnit]
    split
    · rename_i control
      rw [if_pos ⟨control, known⟩]
      exact .code (hexCode?_hexDigit control)
    · rename_i visible
      rw [if_neg fun both => visible both.1]
      apply SpellsUnit.plain _ _ visible
      · rintro rfl
        exact known (by decide)
      · rintro rfl
        exact known (by decide)

theorem spellsUnits_escaped (chars : List Char) :
    SpellsUnits (chars.flatMap escaped) (chars.map writtenUnit) := by
  induction chars with
  | nil => exact .nil
  | cons char chars ih => exact .cons (spellsUnit_escaped char) ih

theorem spells_writtenUnit (char : Char) : (writtenUnit char).Spells char := by
  rw [writtenUnit]
  split
  · rename_i control
    have code : TextUnit.Spells (.code char.toNat) (Char.ofNat char.toNat) := by
      constructor
      · simp [isLeadingHalf]
        omega
      · simp [isTrailingHalf]
        omega
    rwa [Char.ofNat_toNat] at code
  · exact .plain char

/-- How a string is spelled when it is written. -/
def writtenText (text : String) : Spelling :=
  ⟨text.toList.map writtenUnit, none⟩

/-- A string that was written spells itself. -/
theorem spells_writtenText (text : String) : (writtenText text).Spells text where
  whole := rfl
  units := by
    show List.Forall₂ TextUnit.Spells (text.toList.map writtenUnit) text.toList
    rw [List.forall₂_map_left_iff]
    exact List.forall₂_same.mpr fun char _ => spells_writtenUnit char

theorem text_writtenText (text : String) : (writtenText text).text = .ok text :=
  (spells_writtenText text).text

/-! ## Values without numbers -/

/-- Induction on a value, with the hypothesis for all items of an array and members of an object. -/
@[elab_as_elim]
theorem nested_induction
    {motive : Json → Prop}
    (null : motive null)
    (boolean : ∀ value, motive (boolean value))
    (integer : ∀ value, motive (integer value))
    (real : ∀ value, motive (real value))
    (string : ∀ text, motive (string text))
    (array : ∀ items, (∀ item ∈ items, motive item) → motive (array items))
    (object : ∀ members, (∀ member ∈ members, motive member.2) → motive (object members))
    (value : Json) :
    motive value := by
  refine @Json.rec motive
    (fun items => ∀ item ∈ items, motive item)
    (fun members => ∀ member ∈ members, motive member.2)
    (fun member => motive member.2)
    null boolean integer real string array object ?_ ?_ ?_ ?_ ?_ value
  · simp
  · intro item items first rest other member
    rcases List.mem_cons.mp member with rfl | later
    · exact first
    · exact rest other later
  · simp
  · intro member members first rest other listed
    rcases List.mem_cons.mp listed with rfl | later
    · exact first
    · exact rest other later
  · intro key value holds
    exact holds

mutual

/-- No numbers stand in a value. -/
def Numberless : Json → Prop
  | null => True
  | boolean _ => True
  | integer _ => False
  | real _ => False
  | string _ => True
  | array items => NumberlessItems items
  | object members => NumberlessMembers members
termination_by structural value => value

def NumberlessItems : List Json → Prop
  | [] => True
  | item :: items => Numberless item ∧ NumberlessItems items
termination_by structural items => items

def NumberlessMembers : List (String × Json) → Prop
  | [] => True
  | (_, value) :: members => Numberless value ∧ NumberlessMembers members
termination_by structural members => members

end

/-- What a numeral is read as is a number. -/
theorem not_numberless_of_value?
    {numeral : Numeral} {value : Json}
    (read : numeral.value? = some value) :
    ¬ value.Numberless := by
  rw [Numeral.value?] at read
  split at read
  · cases read
    exact id
  · rcases Option.map_eq_some_iff.mp read with ⟨real, _, rfl⟩
    exact id

mutual

/-- The tree of a value without numbers. -/
def tree : Json → Tree
  | null => .null
  | boolean value => .boolean value
  | integer _ => .cutNumeral
  | real _ => .cutNumeral
  | string text => .text (writtenText text)
  | array items => .array (treesOfItems items) .closed
  | object members => .object (treesOfMembers members) .closed
termination_by structural value => value

def treesOfItems : List Json → List Tree
  | [] => []
  | item :: items => item.tree :: treesOfItems items
termination_by structural items => items

def treesOfMembers : List (String × Json) → List (Spelling × Tree)
  | [] => []
  | (key, value) :: members => (writtenText key, value.tree) :: treesOfMembers members
termination_by structural members => members

end

theorem treesOfItems_eq_map (items : List Json) : treesOfItems items = items.map tree := by
  induction items with
  | nil => rfl
  | cons item items ih => rw [treesOfItems, ih, List.map_cons]

theorem treesOfMembers_eq_map (members : List (String × Json)) :
    treesOfMembers members =
      members.map fun member => (writtenText member.1, member.2.tree) := by
  induction members with
  | nil => rfl
  | cons member members ih => rw [treesOfMembers, ih, List.map_cons]

theorem NumberlessItems.of_mem
    {items : List Json} {item : Json}
    (numberless : NumberlessItems items)
    (listed : item ∈ items) :
    item.Numberless := by
  induction items with
  | nil => cases listed
  | cons head items ih =>
      rcases List.mem_cons.mp listed with rfl | later
      · exact numberless.1
      · exact ih numberless.2 later

theorem NumberlessMembers.of_mem
    {members : List (String × Json)} {member : String × Json}
    (numberless : NumberlessMembers members)
    (listed : member ∈ members) :
    member.2.Numberless := by
  induction members with
  | nil => cases listed
  | cons head members ih =>
      rcases List.mem_cons.mp listed with rfl | later
      · exact numberless.1
      · exact ih numberless.2 later

/-- The tree of a value spells the value. -/
theorem spells_tree
    {value : Json}
    (numberless : value.Numberless) :
    value.tree.Spells value := by
  induction value using nested_induction with
  | null => exact .null
  | boolean value => exact .boolean value
  | integer value => cases numberless
  | real value => cases numberless
  | string text => exact .text (spells_writtenText text)
  | array items ih =>
      apply Tree.Spells.array
      induction items with
      | nil => exact .nil
      | cons item items rest =>
          refine .cons (ih item List.mem_cons_self numberless.1) (rest ?_ numberless.2)
          exact fun other listed => ih other (List.mem_cons_of_mem _ listed)
  | object members ih =>
      apply Tree.Spells.object
      induction members with
      | nil => exact .nil
      | cons member members rest =>
          refine .cons (spells_writtenText member.1)
            (ih member List.mem_cons_self numberless.1) (rest ?_ numberless.2)
          exact fun other listed => ih other (List.mem_cons_of_mem _ listed)

/-! ## Texts -/

/-- Only blanks stand between the tokens. -/
structure Layout.IsBlank (layout : Layout) : Prop where
  newline : ∀ level, ∀ char ∈ layout.newline level, isBlank char = true
  gap : ∀ char ∈ layout.gap, isBlank char = true

theorem Layout.isBlank_spread : Layout.spread.IsBlank where
  newline := by
    intro level char listed
    rcases List.mem_cons.mp listed with rfl | further
    · rfl
    · rw [List.eq_of_mem_replicate further]
      rfl
  gap := by
    intro char listed
    rw [List.mem_singleton.mp listed]
    rfl

theorem Layout.isBlank_compact : Layout.compact.IsBlank where
  newline := fun _ _ none => nomatch none
  gap := fun _ none => nomatch none

theorem Lexed.blanks
    {blanks text : List Char} {tokens : List Token}
    (lexed : Lexed text tokens)
    (blank : ∀ char ∈ blanks, isBlank char = true) :
    Lexed (blanks ++ text) tokens := by
  induction blanks with
  | nil => exact lexed
  | cons char blanks ih =>
      exact .blank (blank char List.mem_cons_self)
        (ih fun other listed => blank other (List.mem_cons_of_mem _ listed))

theorem Lexed.punctuation
    {char : Char} {token : Token} {text : List Char} {tokens : List Token}
    (lexed : Lexed text tokens)
    (known : (char, token) ∈ Json.punctuation) :
    Lexed (char :: text) (token :: tokens) := by
  refine .token (.punctuation known) (Token.mayPrecede ?_ text) lexed
  rintro numeral rfl
  simp [Json.punctuation] at known

theorem Lexed.literal
    {char : Char} {token : Token} {word text : List Char} {tokens : List Token}
    (lexed : Lexed text tokens)
    (known : (char, token, word) ∈ literals) :
    Lexed (char :: word ++ text) (token :: tokens) := by
  refine .token (.literal known) (Token.mayPrecede ?_ text) lexed
  rintro numeral rfl
  simp [literals] at known

theorem Lexed.quoted
    {text : List Char} {tokens : List Token}
    (lexed : Lexed text tokens)
    (string : String) :
    Lexed (Json.quoted string ++ text) (.text (writtenText string) :: tokens) :=
  .token (.text (spellsUnits_escaped string.toList)) trivial lexed

section

variable {layout : Layout}

theorem lexed_newline
    {text : List Char} {tokens : List Token}
    (blank : layout.IsBlank)
    (lexed : Lexed text tokens)
    (isFirst : Bool)
    (level : Nat) :
    Lexed ((if isFirst then [] else layout.newline level) ++ text) tokens := by
  cases isFirst with
  | true => exact lexed
  | false => exact lexed.blanks (blank.newline level)

theorem lexed_separator
    {text : List Char} {tokens : List Token}
    (lexed : Lexed text tokens)
    (isFirst : Bool) :
    Lexed ((if isFirst then [] else [',']) ++ text)
      ((if isFirst then [] else [.comma]) ++ tokens) := by
  cases isFirst with
  | true => exact lexed
  | false => exact lexed.punctuation (by decide)

mutual

/-- What is written of a value spells the tokens of its tree. -/
theorem lexed_writeBefore
    (blank : layout.IsBlank) :
    ∀ (value : Json) (level : Nat) {rest : List Char} {tokens : List Token},
      value.Numberless →
        Lexed rest tokens →
          Lexed (value.writeBefore layout level rest) (value.tree.tokens ++ tokens)
  | .null, _, rest, tokens, _, lexed => by
      show Lexed ('n' :: ['u', 'l', 'l'] ++ rest) (.null :: tokens)
      exact lexed.literal (by decide)
  | .boolean true, _, rest, tokens, _, lexed => by
      show Lexed ('t' :: ['r', 'u', 'e'] ++ rest) (.boolean true :: tokens)
      exact lexed.literal (by decide)
  | .boolean false, _, rest, tokens, _, lexed => by
      show Lexed ('f' :: ['a', 'l', 's', 'e'] ++ rest) (.boolean false :: tokens)
      exact lexed.literal (by decide)
  | .integer _, _, _, _, numberless, _ => numberless.elim
  | .real _, _, _, _, numberless, _ => numberless.elim
  | .string text, _, _, _, _, lexed => lexed.quoted text
  | .array items, level, rest, tokens, numberless, lexed => by
      have inside := lexed_writeItems blank items level true numberless lexed
      show Lexed ('[' :: writeItems layout level true items rest) (.openArray :: _)
      exact inside.punctuation (by decide)
  | .object members, level, rest, tokens, numberless, lexed => by
      have inside := lexed_writeMembers blank members level true numberless lexed
      show Lexed ('{' :: writeMembers layout level true members rest) (.openObject :: _)
      exact inside.punctuation (by decide)

theorem lexed_writeItems
    (blank : layout.IsBlank) :
    ∀ (items : List Json) (level : Nat) (isFirst : Bool)
      {rest : List Char} {tokens : List Token},
      NumberlessItems items →
        Lexed rest tokens →
          Lexed (writeItems layout level isFirst items rest)
            (tokensOfItems isFirst (treesOfItems items) ++ tokens)
  | [], level, isFirst, rest, tokens, _, lexed => by
      have bracket : Lexed (']' :: rest) (.closeArray :: tokens) :=
        lexed.punctuation (by decide)
      exact lexed_newline blank bracket isFirst level
  | item :: items, level, isFirst, rest, tokens, numberless, lexed => by
      have others := lexed_writeItems blank items level false numberless.2 lexed
      have first := lexed_writeBefore blank item (level + 1) numberless.1 others
      rw [treesOfItems, tokensOfItems, List.append_assoc, List.append_assoc]
      exact lexed_separator (first.blanks (blank.newline (level + 1))) isFirst

theorem lexed_writeMembers
    (blank : layout.IsBlank) :
    ∀ (members : List (String × Json)) (level : Nat) (isFirst : Bool)
      {rest : List Char} {tokens : List Token},
      NumberlessMembers members →
        Lexed rest tokens →
          Lexed (writeMembers layout level isFirst members rest)
            (tokensOfMembers isFirst (treesOfMembers members) ++ tokens)
  | [], level, isFirst, rest, tokens, _, lexed => by
      have bracket : Lexed ('}' :: rest) (.closeObject :: tokens) :=
        lexed.punctuation (by decide)
      exact lexed_newline blank bracket isFirst level
  | (key, value) :: members, level, isFirst, rest, tokens, numberless, lexed => by
      have others := lexed_writeMembers blank members level false numberless.2 lexed
      have first := lexed_writeBefore blank value (level + 1) numberless.1 others
      have colon : Lexed (':' :: (layout.gap ++ _)) (.colon :: _) :=
        (first.blanks blank.gap).punctuation (by decide)
      have member := (colon.quoted key).blanks (blank.newline (level + 1))
      rw [treesOfMembers, tokensOfMembers, List.append_assoc, List.cons_append,
        List.cons_append, List.append_assoc]
      exact lexed_separator member isFirst

end

end

/-- What is written of a value, with blanks after it, spells its tokens. -/
theorem lexed_write
    {layout : Layout} {value : Json} {blanks : List Char}
    (between : layout.IsBlank)
    (numberless : value.Numberless)
    (blank : ∀ char ∈ blanks, isBlank char = true) :
    Lexed (value.write layout 0 ++ blanks) value.tree.tokens := by
  have after : Lexed blanks [] := by
    have nothing := Lexed.done.blanks blank
    rwa [List.append_nil] at nothing
  have lexed := lexed_writeBefore between value 0 numberless after
  rwa [List.append_nil, writeBefore_eq] at lexed

/-- The text of a value, spread over lines and with blanks after it, spells its tokens. -/
theorem lexed_spreadText
    {value : Json} {blanks : String}
    (numberless : value.Numberless)
    (blank : ∀ char ∈ blanks.toList, isBlank char = true) :
    Lexed (value.spreadText ++ blanks).toList value.tree.tokens := by
  rw [spreadText, String.toList_append, String.toList_ofList]
  exact lexed_write Layout.isBlank_spread numberless blank

/-- What is written of a value on one line is a text of it. -/
theorem spelledBy_compactText
    {value : Json}
    (numberless : value.Numberless) :
    value.SpelledBy value.compactText := by
  have nothing : ∀ char ∈ [], isBlank char = true := by simp
  have lexed := lexed_write Layout.isBlank_compact numberless nothing
  rw [List.append_nil] at lexed
  refine ⟨value.tree, spells_tree numberless, ?_⟩
  rwa [compactText, String.toList_ofList]

/-- The text of a value, spread over lines and with blanks after it, is read as its tree. -/
theorem ofText_spreadText
    {value : Json} {blanks : String}
    (numberless : value.Numberless)
    (blank : ∀ char ∈ blanks.toList, isBlank char = true) :
    Reading.ofText (value.spreadText ++ blanks) = ⟨value.tree, true⟩ :=
  ofText_of_lexed (lexed_spreadText numberless blank) (spells_tree numberless)

theorem exists_writeMembers_eq
    (layout : Layout)
    (level : Nat)
    (members : List (String × Json))
    (isFirst : Bool) :
    ∃ before, writeMembers layout level isFirst members [] = before ++ ['}'] := by
  induction members generalizing isFirst with
  | nil => exact ⟨_, rfl⟩
  | cons member members ih =>
      rcases member with ⟨key, value⟩
      rcases ih false with ⟨before, rest⟩
      simp only [writeMembers, writeBefore_eq, rest, ← List.append_assoc, ← List.cons_append]
      exact ⟨_, rfl⟩

/-- The text of an object ends with its closing brace. -/
theorem exists_spreadText_object_eq (members : List (String × Json)) :
    ∃ before, (object members).spreadText.toList = before ++ ['}'] := by
  rcases exists_writeMembers_eq .spread 0 members true with ⟨before, written⟩
  refine ⟨'{' :: before, ?_⟩
  rw [spreadText, String.toList_ofList, write, writeBefore, written]
  rfl

end Json

end ModelLineage
