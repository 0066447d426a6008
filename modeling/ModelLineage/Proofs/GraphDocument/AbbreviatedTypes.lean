import ModelLineage.Proofs.GraphDocument.Abbreviation
import ModelLineage.Proofs.GraphDocument.FieldTypes

/-!
# Reading abbreviated types

A type is read from its parts alone, so that it does not matter what else stands in its
object, nor in which order.  The kind is found wherever it stands, both in a tree, where
it is read on the way, and in a value, where it is looked for first.
-/

namespace ModelLineage

open Json (Tree Spelling SpellMembers containerLimit)

section

variable {kind : Kind} {key : String}

theorem part?_of_not_mem_keys (unknown : key ∉ kind.keys) : kind.part? key = none := by
  cases kind <;> simp_all [Kind.keys, Kind.part?]

theorem part?_kind (kind : Kind) : kind.part? "kind" = none := by
  cases kind <;> rfl

end

/-- A key stands for a part of the types of a kind. -/
def Kind.hasPart (kind : Kind) (member : String × Json) : Bool :=
  (kind.part? member.1).isSome

/-- What is no part is passed over. -/
theorem typeOfMembers_filter
    (kind : Kind)
    (parts : TypeParts)
    (members : List (String × Json)) :
    typeOfMembers kind parts (members.filter kind.hasPart) = typeOfMembers kind parts members := by
  induction members generalizing parts with
  | nil => rfl
  | cons member members ih =>
      rcases member with ⟨key, value⟩
      cases known : kind.part? key with
      | none =>
          have passed : kind.hasPart (key, value) = false := by
            rw [Kind.hasPart, known]
            rfl
          rw [List.filter_cons_of_neg (by simp [passed]), ih, typeOfMembers, known]
      | some part =>
          have kept : kind.hasPart (key, value) = true := by
            rw [Kind.hasPart, known]
            rfl
          rw [List.filter_cons_of_pos kept]
          simp only [typeOfMembers, known, ih]

theorem typeOfMembers_filter_kind
    (kind : Kind)
    (parts : TypeParts)
    (members : List (String × Json)) :
    typeOfMembers kind parts (members.filter fun member => member.1 ≠ "kind") =
      typeOfMembers kind parts members := by
  have none : ∀ member : String × Json,
      (kind.hasPart member && decide (member.1 ≠ "kind")) = kind.hasPart member := by
    intro member
    by_cases same : member.1 = "kind"
    · rw [Kind.hasPart, same, part?_kind]
      rfl
    · simp [same]
  rw [← typeOfMembers_filter, List.filter_filter, ← typeOfMembers_filter kind parts members]
  simp only [none]

/-! ## The kind -/

/-- The kind is known, or else one of the members tells it; no other member may. -/
inductive TellsKind (kind : Kind) : Option Kind → List (String × Json) → Prop where
  | done :
      TellsKind kind (some kind) []
  | here {members : List (String × Json)}
      (rest : TellsKind kind (some kind) members) :
      TellsKind kind none (("kind", .string kind.word) :: members)
  | other {found : Option Kind} {member : String × Json} {members : List (String × Json)}
      (differs : member.1 ≠ "kind")
      (rest : TellsKind kind found members) :
      TellsKind kind found (member :: members)

section

variable {kind : Kind} {found : Option Kind} {members values : List (String × Json)}

theorem TellsKind.append
    {before : List (String × Json)}
    (tells : TellsKind kind found members)
    (others : ∀ member ∈ before, member.1 ≠ "kind") :
    TellsKind kind found (before ++ members) := by
  induction before with
  | nil => exact tells
  | cons member before ih =>
      exact .other (others member List.mem_cons_self)
        (ih fun other listed => others other (List.mem_cons_of_mem _ listed))

theorem tellsKind_of_perm
    {others : List (String × Json)}
    (order : members.Perm (("kind", .string kind.word) :: others))
    (differ : ∀ member ∈ others, member.1 ≠ "kind") :
    TellsKind kind none members := by
  rcases List.append_of_mem (order.mem_iff.mpr List.mem_cons_self) with ⟨before, after, rfl⟩
  have rest : (before ++ after).Perm others :=
    (List.perm_middle.symm.trans order).cons_inv
  have differBefore : ∀ member ∈ before, member.1 ≠ "kind" :=
    fun member listed => differ member (rest.mem_iff.mp (List.mem_append_left _ listed))
  have differAfter : ∀ member ∈ after, member.1 ≠ "kind" :=
    fun member listed => differ member (rest.mem_iff.mp (List.mem_append_right _ listed))
  have known : TellsKind kind (some kind) (after ++ []) := TellsKind.done.append differAfter
  rw [List.append_nil] at known
  exact (TellsKind.here known).append differBefore

theorem kindOfMembers_of_tells
    (tells : TellsKind kind found members) :
    kindOfMembers found members = .ok kind := by
  induction tells with
  | done => rfl
  | here rest ih =>
      rw [kindOfMembers, if_pos rfl, kindOfValue, kindOfWord_word]
      exact ih
  | @other found member members differs rest ih =>
      rcases member with ⟨key, value⟩
      rw [kindOfMembers, if_neg differs]
      exact ih

theorem readTypeMembers_of_tells
    {outside : Nat} {trees : List (Spelling × Tree)}
    (tells : TellsKind kind found values)
    (spell : SpellMembers trees values)
    (fits : Json.nestingOfMembers values + outside ≤ containerLimit)
    (before : List (String × Json)) :
    readTypeMembers outside found before trees =
      .ok (some kind, before.reverse ++ values.filter fun member => member.1 ≠ "kind") := by
  induction tells generalizing trees before with
  | done =>
      cases spell
      rw [List.filter_nil, List.append_nil]
      rfl
  | @here values rest ih =>
      cases spell with
      | cons key first later =>
          cases first with
          | numeral inRange => exact absurd trivial (Json.not_numberless_of_value? inRange)
          | text spelled =>
              rw [Json.nestingOfMembers] at fits
              rw [readTypeMembers, key.text]
              show (kindOfTree _ >>= _) = _
              rw [kindOfTree, spelled.text]
              show mismatched (kindOfWord kind.word) >>= _ = _
              rw [kindOfWord_word, List.filter_cons_of_neg (by simp)]
              exact ih later (by omega) before
  | @other found member values differs rest ih =>
      cases spell with
      | @cons spelling tree key value _ _ keySpelled first later =>
          rw [Json.nestingOfMembers] at fits
          have others := ih later (by omega) ((key, value) :: before)
          rw [List.reverse_cons, List.append_assoc] at others
          rw [readTypeMembers, keySpelled.text]
          show (if key = "kind" then _ else _) = _
          rw [if_neg differs, Json.value_of_spells first (by omega),
            List.filter_cons_of_pos (by simpa using differs)]
          exact others

end

/-! ## The parts -/

/-- The members of an object tell the kind of a type and have its parts. -/
structure Describes (type : FieldType) (members : List (String × Json)) : Prop where
  tells : TellsKind type.kind none members
  parts : typeOfMembers type.kind .none members = .ok type

theorem typeOfValue_of_describes
    {type : FieldType} {members : List (String × Json)}
    (describes : Describes type members) :
    typeOfValue (.object members) = .ok type := by
  rw [typeOfValue, kindOfMembers_of_tells describes.tells]
  exact describes.parts

/-- The kind and the parts are all that counts among scattered members. -/
theorem describes_of_scattered
    {type : FieldType} {parts members : List (String × Json)}
    (scattered :
      Scattered type.kind.keys (("kind", .string type.kind.word) :: parts) members)
    (known : ∀ part ∈ parts, type.kind.hasPart part = true)
    (read : ∀ ordered, ordered.Perm parts → typeOfMembers type.kind .none ordered = .ok type) :
    Describes type members := by
  rcases scattered with ⟨added, unknown, order⟩
  have noKind : type.kind.hasPart ("kind", .string type.kind.word) = false := by
    rw [Kind.hasPart, part?_kind]
    rfl
  have noPart : ∀ member ∈ added, ¬ type.kind.hasPart member = true := by
    intro member listed
    rw [Kind.hasPart, part?_of_not_mem_keys (unknown member listed)]
    exact Bool.false_ne_true
  constructor
  case tells =>
    apply tellsKind_of_perm order
    intro member listed same
    rcases List.mem_append.mp listed with part | other
    · have kept := known member part
      rw [Kind.hasPart, same, part?_kind] at kept
      cases kept
    · apply unknown member other
      rw [same]
      cases type <;> exact List.mem_cons_self
  case parts =>
    have kept := order.filter type.kind.hasPart
    rw [List.cons_append, List.filter_cons_of_neg (by simp [noKind]), List.filter_append,
      List.filter_eq_self.mpr known, List.filter_eq_nil_iff.mpr noPart, List.append_nil] at kept
    rw [← typeOfMembers_filter]
    exact read _ kept

theorem describes_of_part
    {type : FieldType} {part : String × Json} {members : List (String × Json)}
    (scattered : Scattered type.kind.keys [("kind", .string type.kind.word), part] members)
    (known : type.kind.hasPart part = true)
    (read : typeOfMembers type.kind .none [part] = .ok type) :
    Describes type members := by
  apply describes_of_scattered scattered
  · exact List.forall_mem_singleton.mpr known
  · intro ordered order
    rw [List.perm_singleton.mp order]
    exact read

theorem perm_pair
    {Item : Type} {first second : Item} {items : List Item}
    (order : items.Perm [first, second]) :
    items = [first, second] ∨ items = [second, first] := by
  match items, order.length_eq with
  | [item, other], _ =>
      rcases List.mem_pair.mp (order.mem_iff.mp List.mem_cons_self) with rfl | rfl
      · left
        rw [List.singleton_perm_singleton.mp order.cons_inv]
      · right
        rw [List.singleton_perm_singleton.mp (order.trans (List.Perm.swap _ _ _)).cons_inv]

theorem primitiveOfWord_of_spelledBy
    {primitive : Primitive} {word : String}
    (spelled : primitive.SpelledBy word) :
    primitiveOfWord word = .ok primitive := by
  rcases spelled with rfl | ⟨rfl, rfl⟩
  · exact primitiveOfWord_word primitive
  · decide

/-- A type is described by what it may be written as. -/
theorem exists_describes
    {type : FieldType} {value : Json}
    (abbreviated : type.AbbreviatedBy value) :
    ∃ members, value = .object members ∧ Describes type members := by
  induction abbreviated with
  | @primitive name word members spelled scattered =>
      refine ⟨members, rfl, describes_of_part scattered rfl ?_⟩
      simp [FieldType.kind, typeOfMembers, Kind.part?, TypeParts.has, TypeParts.none,
        TypeParts.assemble, primitiveOfValue, primitiveOfWord_of_spelledBy spelled, bind,
        Except.bind]
  | @reference model members scattered =>
      refine ⟨members, rfl, describes_of_part scattered rfl ?_⟩
      simp [FieldType.kind, typeOfMembers, Kind.part?, TypeParts.has, TypeParts.none,
        TypeParts.assemble, stringOfValue, bind, Except.bind]
  | @list items unique value mark members content marked scattered ih =>
      rcases ih with ⟨inside, rfl, describes⟩
      have contentRead := typeOfValue_of_describes describes
      cases marked with
      | omitted unmarked =>
          refine ⟨members, rfl, describes_of_part scattered rfl ?_⟩
          simp [FieldType.kind, typeOfMembers, Kind.part?, TypeParts.has, TypeParts.none,
            TypeParts.assemble, contentRead, unmarked, bind, Except.bind]
      | written =>
          refine ⟨members, rfl, describes_of_scattered scattered ?_ ?_⟩
          · simp [FieldType.kind, Kind.hasPart, Kind.part?]
          · intro ordered order
            rcases perm_pair order with rfl | rfl <;>
              simp [FieldType.kind, typeOfMembers, Kind.part?, TypeParts.has, TypeParts.none,
                TypeParts.assemble, contentRead, booleanOfValue, bind, Except.bind]
  | @map values value members content scattered ih =>
      rcases ih with ⟨inside, rfl, describes⟩
      have contentRead := typeOfValue_of_describes describes
      refine ⟨members, rfl, describes_of_part scattered rfl ?_⟩
      simp [FieldType.kind, typeOfMembers, Kind.part?, TypeParts.has, TypeParts.none,
        TypeParts.assemble, contentRead, bind, Except.bind]

/-- What a type may be written as is read as this type, wherever it stands in a document. -/
theorem typeOfTree_of_abbreviated
    {type : FieldType} {value : Json} {tree : Tree} {outside : Nat}
    (abbreviated : type.AbbreviatedBy value)
    (spelled : tree.Spells value)
    (fits : value.nesting + outside ≤ containerLimit) :
    typeOfTree outside tree = .ok type := by
  rcases exists_describes abbreviated with ⟨members, rfl, describes⟩
  rcases spelled.exists_of_object with ⟨_, rfl, each⟩
  rw [Json.nesting] at fits
  have room : outside < containerLimit := by
    omega
  have read := readTypeMembers_of_tells describes.tells each
    (show Json.nestingOfMembers members + (outside + 1) ≤ containerLimit by omega) []
  have parts := describes.parts
  rw [← typeOfMembers_filter_kind] at parts
  rw [typeOfTree, openInside, if_pos room, ok_bind, read]
  show mismatched (typeOfMembers type.kind .none _) = _
  rw [List.reverse_nil, List.nil_append, parts]
  rfl

end ModelLineage
