import ModelLineage.Proofs.GraphDocument.Abbreviation
import ModelLineage.Proofs.GraphDocument.Members
import ModelLineage.Proofs.GraphDocument.Models

/-!
# Reading members in any order

What has been read after some members depends only on which keys were among them.  So the
order of the members does not matter, and what was left out is what is missing in the end.
-/

namespace ModelLineage

open Json (Tree Spelling SpellItems SpellMembers containerLimit)

/-! ## Members in any order -/

section

variable {State Value : Type}

/-- The part of a key, if the key is among those that were seen. -/
def partOf (key : String) (part : Option Value) (seen : List String) : Option Value :=
  if key ∈ seen then part else none

theorem partOf_of_mem
    {key : String} {seen : List String}
    (known : key ∈ seen)
    (part : Option Value) :
    partOf key part seen = part :=
  if_pos known

theorem partOf_cons_of_ne
    {key other : String}
    (differs : key ≠ other)
    (part : Option Value)
    (seen : List String) :
    partOf key part (other :: seen) = partOf key part seen := by
  simp [partOf, differs]

/--
Members are taken up one after the other if each one is, where `after` is what has been
read after some keys and no key with a meaning comes twice.
-/
theorem readMembers_of_spell
    {takeUp : State → String → Tree → Except ReadError State}
    {after : List String → State}
    {keys : List String}
    {trees : List (Spelling × Tree)} {values : List (String × Json)}
    (spell : SpellMembers trees values)
    (takes : ∀ key value, (key, value) ∈ values → ∀ tree seen,
      tree.Spells value → (key ∈ keys → key ∉ seen) →
        takeUp (after seen) key tree = .ok (after (key :: seen)))
    (distinct : ((values.map Prod.fst).filter (· ∈ keys)).Nodup)
    {seen : List String}
    (fresh : ∀ key ∈ values.map Prod.fst, key ∈ keys → key ∉ seen) :
    readMembers takeUp (after seen) trees =
      .ok (after ((values.map Prod.fst).reverse ++ seen)) := by
  induction values generalizing trees seen with
  | nil =>
      cases spell
      rfl
  | cons member values ih =>
      cases spell with
      | @cons spelling tree key value _ _ keySpelled first later =>
          have taken := takes key value List.mem_cons_self tree seen first
            (fresh key List.mem_cons_self)
          have distinctLater : ((values.map Prod.fst).filter (· ∈ keys)).Nodup :=
            distinct.sublist ((List.sublist_cons_self _ _).filter _)
          have freshLater : ∀ other ∈ values.map Prod.fst, other ∈ keys → other ∉ key :: seen := by
            intro other listed known before
            rcases List.mem_cons.mp before with rfl | earlier
            · rw [List.map_cons, List.filter_cons_of_pos (by simpa using known),
                List.nodup_cons] at distinct
              exact distinct.1 (List.mem_filter.mpr ⟨listed, by simpa using known⟩)
            · exact fresh other (List.mem_cons_of_mem _ listed) known earlier
          rw [readMembers, keySpelled.text]
          show (takeUp (after seen) key tree >>= _) = _
          rw [taken, ok_bind, ih later
            (fun key value listed => takes key value (List.mem_cons_of_mem _ listed))
            distinctLater freshLater]
          simp

end

section

variable {keys : List String} {described members : List (String × Json)}

theorem Scattered.mem_cases
    (scattered : Scattered keys described members)
    {member : String × Json}
    (listed : member ∈ members) :
    member ∈ described ∨ member.1 ∉ keys := by
  rcases scattered with ⟨added, unknown, order⟩
  rcases List.mem_append.mp (order.mem_iff.mp listed) with known | other
  · exact .inl known
  · exact .inr (unknown member other)

theorem Scattered.mem
    (scattered : Scattered keys described members)
    {member : String × Json}
    (known : member ∈ described) :
    member ∈ members := by
  rcases scattered with ⟨added, _, order⟩
  exact order.mem_iff.mpr (List.mem_append_left _ known)

theorem Scattered.key_mem
    (scattered : Scattered keys described members)
    {member : String × Json}
    (known : member ∈ described) :
    member.1 ∈ (members.map Prod.fst).reverse :=
  List.mem_reverse.mpr (List.mem_map_of_mem (scattered.mem known))

theorem Scattered.distinct
    (scattered : Scattered keys described members)
    (distinct : (described.map Prod.fst).Nodup) :
    ((members.map Prod.fst).filter (· ∈ keys)).Nodup := by
  rcases scattered with ⟨added, unknown, order⟩
  have kept := (order.map Prod.fst).filter (· ∈ keys)
  have none : (added.map Prod.fst).filter (· ∈ keys) = [] := by
    apply List.filter_eq_nil_iff.mpr
    intro key listed
    rcases List.mem_map.mp listed with ⟨member, added, rfl⟩
    simpa using unknown member added
  rw [List.map_append, List.filter_append, none, List.append_nil] at kept
  exact kept.nodup_iff.mpr (distinct.filter _)

end

/-! ## Members that may be left out -/

section

variable {Value : Type}

/-- What is known from a member that may have been left out. -/
def kept (written : List (String × Json)) (value : Value) : Option Value :=
  if written.isEmpty then none else some value

variable {member : String × Json} {needless : Prop} {written : List (String × Json)}

theorem Omissible.keys_sublist (omissible : Omissible member needless written) :
    (written.map Prod.fst).Sublist [member.1] := by
  cases omissible with
  | written => exact List.Sublist.refl _
  | omitted => exact List.nil_sublist _

theorem Omissible.eq_of_mem
    (omissible : Omissible member needless written)
    {other : String × Json}
    (listed : other ∈ written) :
    other = member := by
  cases omissible with
  | written => exact List.mem_singleton.mp listed
  | omitted => cases listed

theorem kept_of_mem
    {other : String × Json}
    (listed : other ∈ written)
    (value : Value) :
    kept written value = some value := by
  cases written with
  | nil => cases listed
  | cons => rfl

/-- In the end what was left out is missing, and nothing else. -/
theorem Omissible.partOf_kept
    (omissible : Omissible member needless written)
    {seen : List String}
    (met : ∀ other ∈ written, other.1 ∈ seen)
    (value : Value) :
    partOf member.1 (kept written value) seen = kept written value := by
  cases omissible with
  | written => exact partOf_of_mem (met member List.mem_cons_self) _
  | omitted => exact ite_self none

theorem Omissible.getD_kept
    (omissible : Omissible member needless written)
    {value default : Value}
    (same : needless → value = default) :
    (kept written value).getD default = value := by
  cases omissible with
  | written => rfl
  | omitted unneeded => exact (same unneeded).symm

end

/-! ## Values and what they are read as -/

/-- Every tree that spells the value is read in the same way, unless it is nested too deeply. -/
def ReadAs
    {Value : Type}
    (read : Nat → Tree → Except ReadError Value)
    (written : Json)
    (value : Value) : Prop :=
  ∀ tree outside, tree.Spells written → written.nesting + outside ≤ containerLimit →
    read outside tree = .ok value

theorem readAs_string (text : String) : ReadAs (fun _ => stringOfTree) (.string text) text := by
  intro tree outside spelled fits
  cases spelled with
  | numeral inRange => exact absurd trivial (Json.not_numberless_of_value? inRange)
  | text spelled =>
      show flawed _ = _
      rw [spelled.text]
      rfl

theorem readAs_boolean (value : Bool) :
    ReadAs (fun _ => booleanOfTree) (.boolean value) value := by
  intro tree outside spelled fits
  cases spelled with
  | numeral inRange => exact absurd trivial (Json.not_numberless_of_value? inRange)
  | boolean => rfl

theorem mapM_of_readAs
    {Value : Type} {read : Nat → Tree → Except ReadError Value}
    {outside : Nat} {trees : List Tree} {written : List Json} {values : List Value}
    (each : List.Forall₂ (ReadAs read) written values)
    (spell : SpellItems trees written)
    (fits : Json.nestingOfItems written + outside ≤ containerLimit) :
    trees.mapM (read outside) = .ok values := by
  induction each generalizing trees with
  | nil =>
      cases spell
      rfl
  | cons first _ ih =>
      cases spell with
      | cons spelled later =>
          rw [Json.nestingOfItems] at fits
          rw [List.mapM_cons, first _ _ spelled (by omega), ok_bind, ih later (by omega)]
          rfl

theorem readAs_array
    {Value : Type} {read : Nat → Tree → Except ReadError Value}
    {written : List Json} {values : List Value}
    (each : List.Forall₂ (ReadAs read) written values) :
    ReadAs (listOfTree read) (.array written) values := by
  intro tree outside spelled fits
  cases spelled with
  | numeral inRange => exact absurd (Json.nesting_of_value? inRange) (Nat.succ_ne_zero _)
  | array spell =>
      rw [Json.nesting] at fits
      rw [listOfTree, openInside_of_lt (by omega), ok_bind,
        mapM_of_readAs each spell (by omega)]
      rfl

theorem readAs_strings (texts : List String) : ReadAs stringsOfTree (.strings texts) texts := by
  have each : List.Forall₂ (ReadAs fun _ => stringOfTree) (texts.map Json.string) texts := by
    rw [List.forall₂_map_left_iff]
    exact List.forall₂_same.mpr fun text _ => readAs_string text
  exact readAs_array each

/-! ## Parts that are read from scattered members -/

/-- What is known after some keys are the parts of these keys, out of all that there are. -/
structure KnownAfter
    {State : Type}
    (slots : List (MemberSlot State))
    (whole : State)
    (after : List String → State) : Prop where
  unread : ∀ slot ∈ slots, ∀ seen, slot.key ∉ seen → slot.part (after seen) = none
  put : ∀ slot ∈ slots, ∀ part seen, slot.part whole = some part →
    slot.put (after seen) part = after (slot.key :: seen)
  other : ∀ key seen, key ∉ slots.map MemberSlot.key → after (key :: seen) = after seen

/-- A member stands for one of the parts. -/
def StandsForPart
    {State : Type}
    (slots : List (MemberSlot State))
    (whole : State)
    (member : String × Json) : Prop :=
  ∃ slot ∈ slots, ∃ part,
    slot.key = member.1 ∧ slot.part whole = some part ∧ ReadAs slot.read member.2 part

section

variable
    {State : Type} {slots : List (MemberSlot State)}
    {whole : State} {after : List String → State}
    {outside : Nat} {tree : Tree} {seen : List String}

/-- A member that stands for a part is taken up as this part. -/
theorem KnownAfter.takeUp
    {member : String × Json}
    (known : KnownAfter slots whole after)
    (distinct : (slots.map MemberSlot.key).Nodup)
    (stands : StandsForPart slots whole member)
    (spelled : tree.Spells member.2)
    (fits : member.2.nesting + outside ≤ containerLimit)
    (fresh : member.1 ∉ seen) :
    takeUpMember slots outside (after seen) member.1 tree = .ok (after (member.1 :: seen)) := by
  rcases stands with ⟨slot, listed, part, key, given, read⟩
  rw [← key] at fresh ⊢
  rw [takeUpMember_of_mem distinct listed, read tree outside spelled fits, readOnce,
    known.unread slot listed seen fresh, ← known.put slot listed part seen given]
  rfl

/-- A member whose key stands for no part is passed over. -/
theorem KnownAfter.pass
    {key : String}
    (known : KnownAfter slots whole after)
    (unknown : key ∉ slots.map MemberSlot.key)
    (passed : tree.pass = .ok ()) :
    takeUpMember slots outside (after seen) key tree = .ok (after (key :: seen)) := by
  rw [takeUpMember_of_not_mem unknown, passed, known.other key seen unknown]
  rfl

/-- Of scattered members those are taken up that stand for parts, and all others are passed. -/
theorem readMembers_of_scattered
    {described members : List (String × Json)} {trees : List (Spelling × Tree)}
    (known : KnownAfter slots whole after)
    (distinct : (slots.map MemberSlot.key).Nodup)
    (scattered : Scattered (slots.map MemberSlot.key) described members)
    (sublist : (described.map Prod.fst).Sublist (slots.map MemberSlot.key))
    (stand : ∀ member ∈ described, StandsForPart slots whole member)
    (spell : SpellMembers trees members)
    (fits : Json.nestingOfMembers members + outside ≤ containerLimit) :
    readMembers (takeUpMember slots outside) (after []) trees =
      .ok (after (members.map Prod.fst).reverse) := by
  have room : outside ≤ containerLimit := Nat.le_trans (Nat.le_add_left _ _) fits
  have bounds := Json.nestingOfMembers_le_iff.mp (Nat.le_sub_of_add_le fits)
  have each : ∀ key value, (key, value) ∈ members → ∀ tree seen,
      tree.Spells value → (key ∈ slots.map MemberSlot.key → key ∉ seen) →
        takeUpMember slots outside (after seen) key tree = .ok (after (key :: seen)) := by
    intro key value listed tree seen spelled fresh
    rcases scattered.mem_cases listed with meant | unknown
    · have bound : value.nesting + outside ≤ containerLimit :=
        Nat.add_le_of_le_sub room (bounds (key, value) listed)
      exact known.takeUp distinct (stand (key, value) meant) spelled bound
        (fresh (sublist.subset (List.mem_map_of_mem meant)))
    · exact known.pass unknown (Json.pass_of_spells spelled)
  have fresh : ∀ key ∈ members.map Prod.fst, key ∈ slots.map MemberSlot.key → key ∉ [] :=
    fun _ _ _ => List.not_mem_nil
  have read := readMembers_of_spell spell each
    (scattered.distinct (distinct.sublist sublist)) fresh
  rwa [List.append_nil] at read

end

end ModelLineage
