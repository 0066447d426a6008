import ModelLineage.Proofs.Json.Writing
import ModelLineage.Proofs.Outcomes

/-!
# Nesting of values

Values are read with no more than 127 containers open at a time.  Within this
limit a written value is read back, and beyond it the text counts as malformed,
wherever in the value the limit is passed.  What is read from any tree at all
keeps to the limit.
-/

namespace ModelLineage

namespace Json

mutual

/-- How many containers of a value stand one inside the other. -/
def nesting : Json → Nat
  | null => 0
  | boolean _ => 0
  | integer _ => 0
  | real _ => 0
  | string _ => 0
  | array items => nestingOfItems items + 1
  | object members => nestingOfMembers members + 1
termination_by structural value => value

def nestingOfItems : List Json → Nat
  | [] => 0
  | item :: items => max item.nesting (nestingOfItems items)
termination_by structural items => items

def nestingOfMembers : List (String × Json) → Nat
  | [] => 0
  | (_, value) :: members => max value.nesting (nestingOfMembers members)
termination_by structural members => members

end

theorem nestingOfMembers_le_iff
    {members : List (String × Json)} {bound : Nat} :
    nestingOfMembers members ≤ bound ↔ ∀ member ∈ members, member.2.nesting ≤ bound := by
  induction members with
  | nil => simp [nestingOfMembers]
  | cons member members ih =>
      rcases member with ⟨key, value⟩
      rw [nestingOfMembers, Nat.max_le, ih, List.forall_mem_cons]

theorem valuesOfItems_treesOfItems
    {items : List Json} {outside : Nat}
    (each : ∀ item ∈ items,
      item.tree.value outside =
        ifFits .malformed (item.nesting + outside ≤ containerLimit) item)
    (room : outside ≤ containerLimit) :
    valuesOfItems outside (treesOfItems items) =
      ifFits .malformed (nestingOfItems items + outside ≤ containerLimit) items := by
  induction items with
  | nil =>
      rw [nestingOfItems, Nat.zero_add, ifFits_of room]
      rfl
  | cons item items ih =>
      have rest := ih fun other listed => each other (List.mem_cons_of_mem _ listed)
      have both :
          item.nesting + outside ≤ containerLimit ∧
              nestingOfItems items + outside ≤ containerLimit ↔
            nestingOfItems (item :: items) + outside ≤ containerLimit := by
        rw [nestingOfItems]
        omega
      rw [treesOfItems, valuesOfItems, each item List.mem_cons_self, rest, ← ifFits_congr both]
      exact ifFits_bind item (ifFits_bind_ok items rfl)

theorem valuesOfMembers_treesOfMembers
    {members : List (String × Json)} {outside : Nat}
    (each : ∀ member ∈ members,
      member.2.tree.value outside =
        ifFits .malformed (member.2.nesting + outside ≤ containerLimit) member.2)
    (room : outside ≤ containerLimit) :
    valuesOfMembers outside (treesOfMembers members) =
      ifFits .malformed (nestingOfMembers members + outside ≤ containerLimit) members := by
  induction members with
  | nil =>
      rw [nestingOfMembers, Nat.zero_add, ifFits_of room]
      rfl
  | cons member members ih =>
      rcases member with ⟨key, value⟩
      have first := each (key, value) List.mem_cons_self
      have rest := ih fun other listed => each other (List.mem_cons_of_mem _ listed)
      have both :
          value.nesting + outside ≤ containerLimit ∧
              nestingOfMembers members + outside ≤ containerLimit ↔
            nestingOfMembers ((key, value) :: members) + outside ≤ containerLimit := by
        rw [nestingOfMembers]
        omega
      rw [treesOfMembers, valuesOfMembers, text_writtenText, rest, ← ifFits_congr both]
      show value.tree.value outside >>= _ = _
      rw [first]
      exact ifFits_bind value (ifFits_bind_ok members rfl)

/-- A written value is read back if it is not nested too deeply, and else is malformed. -/
theorem value_tree
    {value : Json} {outside : Nat}
    (numberless : value.Numberless)
    (room : outside ≤ containerLimit) :
    value.tree.value outside =
      ifFits .malformed (value.nesting + outside ≤ containerLimit) value := by
  induction value using nested_induction generalizing outside with
  | null => exact (ifFits_of (by rwa [nesting, Nat.zero_add]) _).symm
  | boolean value => exact (ifFits_of (by rwa [nesting, Nat.zero_add]) _).symm
  | integer value => cases numberless
  | real value => cases numberless
  | string text =>
      rw [nesting, Nat.zero_add, ifFits_of room, tree, Tree.value, text_writtenText]
      rfl
  | array items ih =>
      rw [tree, Tree.value, nesting]
      by_cases inside : outside < containerLimit
      · have contents := valuesOfItems_treesOfItems
          (fun item listed => ih item listed (NumberlessItems.of_mem numberless listed) inside)
          inside
        rw [if_pos inside, contents, Nat.add_assoc, Nat.add_comm 1 outside]
        exact ifFits_bind_ok items rfl
      · rw [if_neg inside, ifFits_of_not (by omega)]
  | object members ih =>
      rw [tree, Tree.value, nesting]
      by_cases inside : outside < containerLimit
      · have contents := valuesOfMembers_treesOfMembers
          (fun member listed =>
            ih member listed (NumberlessMembers.of_mem numberless listed) inside)
          inside
        rw [if_pos inside, contents, Nat.add_assoc, Nat.add_comm 1 outside]
        exact ifFits_bind_ok members rfl
      · rw [if_neg inside, ifFits_of_not (by omega)]

mutual

/-- A tree that spells a value is read as this value if it is not nested too deeply. -/
theorem value_of_spells :
    ∀ {tree : Tree} {value : Json} {outside : Nat},
      tree.Spells value →
        value.nesting + outside ≤ containerLimit → tree.value outside = .ok value
  | .null, _, _, .null, _ => rfl
  | .boolean _, _, _, .boolean _, _ => rfl
  | .numeral _, _, _, .numeral inRange, _ => by
      rw [Tree.value, inRange]
  | .cutNumeral, _, _, spelled, _ => nomatch spelled
  | .text _, _, _, .text spelled, _ => by
      rw [Tree.value, spelled.text]
      rfl
  | .flaw _, _, _, spelled, _ => nomatch spelled
  | .array _ _, _, outside, .array each, fits => by
      rw [nesting] at fits
      have inside : outside < containerLimit := by
        omega
      rw [Tree.value, if_pos inside, valuesOfItems_of_spell each (by omega)]
      rfl
  | .object _ _, _, outside, .object each, fits => by
      rw [nesting] at fits
      have inside : outside < containerLimit := by
        omega
      rw [Tree.value, if_pos inside, valuesOfMembers_of_spell each (by omega)]
      rfl

theorem valuesOfItems_of_spell :
    ∀ {items : List Tree} {values : List Json} {outside : Nat},
      SpellItems items values →
        nestingOfItems values + outside ≤ containerLimit →
          valuesOfItems outside items = .ok values
  | [], _, _, .nil, _ => rfl
  | _ :: _, _, _, .cons first later, fits => by
      rw [nestingOfItems] at fits
      rw [valuesOfItems, value_of_spells first (by omega),
        valuesOfItems_of_spell later (by omega)]
      rfl

theorem valuesOfMembers_of_spell :
    ∀ {members : List (Spelling × Tree)} {values : List (String × Json)} {outside : Nat},
      SpellMembers members values →
        nestingOfMembers values + outside ≤ containerLimit →
          valuesOfMembers outside members = .ok values
  | [], _, _, .nil, _ => rfl
  | _ :: _, _, _, .cons key first later, fits => by
      rw [nestingOfMembers] at fits
      rw [valuesOfMembers, key.text, valuesOfMembers_of_spell later (by omega)]
      show Tree.value _ _ >>= _ = _
      rw [value_of_spells first (by omega)]
      rfl

end

/-! ## What is read from any tree -/

theorem nesting_of_value?
    {numeral : Numeral} {value : Json}
    (read : numeral.value? = some value) :
    value.nesting = 0 := by
  rw [Numeral.value?] at read
  split at read
  · cases read
    rfl
  · rcases Option.map_eq_some_iff.mp read with ⟨real, _, rfl⟩
    rfl

/-- A tree that spells an object is an object, for the value of a numeral is none. -/
theorem Tree.Spells.exists_of_object
    {tree : Tree} {values : List (String × Json)}
    (spelled : tree.Spells (.object values)) :
    ∃ members, tree = .object members .closed ∧ SpellMembers members values := by
  cases spelled with
  | numeral inRange => exact absurd (nesting_of_value? inRange) (Nat.succ_ne_zero _)
  | object each => exact ⟨_, rfl, each⟩

theorem eq_of_after
    {Value : Type} {ending : Ending} {value value' : Value}
    (read : ending.after value = .ok value') :
    value' = value := by
  cases ending with
  | closed =>
      cases read
      rfl
  | broken flaw => cases read

mutual

/-- A value that is read from a tree keeps to the limit. -/
theorem nesting_le_of_value :
    ∀ {tree : Tree} {outside : Nat} {value : Json},
      outside ≤ containerLimit → tree.value outside = .ok value →
        value.nesting + outside ≤ containerLimit
  | .null, outside, value, room, read => by
      cases read
      rwa [nesting, Nat.zero_add]
  | .boolean _, outside, value, room, read => by
      cases read
      rwa [nesting, Nat.zero_add]
  | .numeral numeral, outside, value, room, read => by
      rw [Tree.value] at read
      split at read
      · rename_i found known
        cases read
        rwa [nesting_of_value? known, Nat.zero_add]
      · cases read
  | .cutNumeral, outside, value, room, read => by cases read
  | .text spelling, outside, value, room, read => by
      rw [Tree.value] at read
      cases spelled : spelling.text with
      | error flaw =>
          rw [spelled] at read
          cases read
      | ok text =>
          rw [spelled] at read
          cases read
          rwa [nesting, Nat.zero_add]
  | .flaw _, outside, value, room, read => by cases read
  | .array items ending, outside, value, room, read => by
      rw [Tree.value] at read
      split at read
      · rename_i inside
        rcases exists_of_bind_eq_ok read with ⟨values, contents, ended⟩
        have bound := nestingOfItems_le_of_values inside contents
        rw [eq_of_after ended, nesting]
        omega
      · cases read
  | .object members ending, outside, value, room, read => by
      rw [Tree.value] at read
      split at read
      · rename_i inside
        rcases exists_of_bind_eq_ok read with ⟨values, contents, ended⟩
        have bound := nestingOfMembers_le_of_values inside contents
        rw [eq_of_after ended, nesting]
        omega
      · cases read

theorem nestingOfItems_le_of_values :
    ∀ {items : List Tree} {outside : Nat} {values : List Json},
      outside ≤ containerLimit → valuesOfItems outside items = .ok values →
        nestingOfItems values + outside ≤ containerLimit
  | [], outside, values, room, read => by
      cases read
      rwa [nestingOfItems, Nat.zero_add]
  | item :: items, outside, values, room, read => by
      rcases exists_of_bind_eq_ok read with ⟨value, first, later⟩
      rcases exists_of_bind_eq_ok later with ⟨others, rest, same⟩
      cases same
      have firstBound := nesting_le_of_value room first
      have restBound := nestingOfItems_le_of_values room rest
      rw [nestingOfItems]
      omega

theorem nestingOfMembers_le_of_values :
    ∀ {members : List (Spelling × Tree)} {outside : Nat} {values : List (String × Json)},
      outside ≤ containerLimit → valuesOfMembers outside members = .ok values →
        nestingOfMembers values + outside ≤ containerLimit
  | [], outside, values, room, read => by
      cases read
      rwa [nestingOfMembers, Nat.zero_add]
  | (key, tree) :: members, outside, values, room, read => by
      rcases exists_of_bind_eq_ok read with ⟨text, _, later⟩
      rcases exists_of_bind_eq_ok later with ⟨value, first, later⟩
      rcases exists_of_bind_eq_ok later with ⟨others, rest, same⟩
      cases same
      have firstBound := nesting_le_of_value room first
      have restBound := nestingOfMembers_le_of_values room rest
      rw [nestingOfMembers]
      omega

end

end Json

end ModelLineage
