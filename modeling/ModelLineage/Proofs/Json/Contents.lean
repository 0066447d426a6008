import ModelLineage.Proofs.Json.Building

/-!
# The contents of whole trees

A string that spells a text is read as that text, and a tree that spells a value
can be passed over.
-/

namespace ModelLineage

namespace Json

theorem readUnits_code
    {ending : Option Flaw} {read : List Char} {code : Nat}
    (units : List TextUnit)
    (notLeading : isLeadingHalf code = false)
    (notTrailing : isTrailingHalf code = false) :
    Spelling.readUnits ending read (.code code :: units) =
      Spelling.readUnits ending (Char.ofNat code :: read) units := by
  match units with
  | [] => simp [Spelling.readUnits, notLeading, notTrailing]
  | .plain _ :: _ => simp [Spelling.readUnits, notLeading, notTrailing]
  | .code _ :: _ => simp [Spelling.readUnits, notLeading, notTrailing]

/-- Units that spell characters are read as these, whatever comes after them. -/
theorem readUnits_of_spells
    {units : List TextUnit} {chars : List Char}
    (spelled : List.Forall₂ TextUnit.Spells units chars)
    (ending : Option Flaw)
    (read : List Char) :
    Spelling.readUnits ending read units =
      Spelling.readUnits ending (chars.reverse ++ read) [] := by
  induction spelled generalizing read with
  | nil => rfl
  | @cons unit char units chars first _ ih =>
      have taken :
          Spelling.readUnits ending read (unit :: units) =
            Spelling.readUnits ending (char :: read) units := by
        cases first with
        | plain char => rw [Spelling.readUnits]
        | code notLeading notTrailing => exact readUnits_code units notLeading notTrailing
      rw [taken, ih, List.reverse_cons, List.append_assoc, List.singleton_append]

theorem Spelling.Spells.text
    {spelling : Spelling} {text : String}
    (spelled : spelling.Spells text) :
    spelling.text = .ok text := by
  rw [Spelling.text, spelled.whole, readUnits_of_spells spelled.units]
  simp [Spelling.readUnits, Except.map]

theorem Spelling.Spells.pass
    {spelling : Spelling} {text : String}
    (spelled : spelling.Spells text) :
    spelling.pass = .ok () := by
  rw [Spelling.pass, spelled.whole]

mutual

/-- A tree that spells a value is passed over. -/
theorem pass_of_spells :
    ∀ {tree : Tree} {value : Json}, tree.Spells value → tree.pass = .ok ()
  | .null, _, _ => rfl
  | .boolean _, _, _ => rfl
  | .numeral _, _, _ => rfl
  | .cutNumeral, _, spelled => nomatch spelled
  | .text _, _, .text spelled => spelled.pass
  | .flaw _, _, spelled => nomatch spelled
  | .array _ _, _, .array each => by
      rw [Tree.pass, passItems_of_spell each]
      rfl
  | .object _ _, _, .object each => by
      rw [Tree.pass, passMembers_of_spell each]
      rfl

theorem passItems_of_spell :
    ∀ {items : List Tree} {values : List Json},
      SpellItems items values → passItems items = .ok ()
  | [], _, _ => rfl
  | _ :: _, _, .cons first later => by
      rw [passItems, pass_of_spells first, passItems_of_spell later]
      rfl

theorem passMembers_of_spell :
    ∀ {members : List (Spelling × Tree)} {values : List (String × Json)},
      SpellMembers members values → passMembers members = .ok ()
  | [], _, _ => rfl
  | _ :: _, _, .cons key first later => by
      rw [passMembers, key.pass, pass_of_spells first, passMembers_of_spell later]
      rfl

end

end Json

end ModelLineage
