import Mathlib.Data.String.Basic
import ModelLineage.Storage.FilePath

/-!
# Plain names

A path without slashes is a single name.  A plain name is one that can be the name
of a file: it is not empty, stands for no directory and is not too long.
-/

namespace ModelLineage

namespace FilePath

/-- Looking for slashes in the rest of a text that has none comes to its end. -/
theorem splitOnAux_slash
    (before after : List Char)
    (slashFree : '/' ∉ after) :
    (String.ofList (before ++ after)).splitOnAux "/" 0 ⟨String.utf8Len before⟩ 0 [] =
      [String.ofList (before ++ after)] := by
  induction after generalizing before with
  | nil =>
      have whole := String.extract_of_valid [] before []
      rw [List.nil_append, String.utf8Len_nil, Nat.zero_add] at whole
      rw [String.splitOnAux, if_pos ((String.atEnd_of_valid before []).mpr rfl)]
      simp only [List.append_nil] at whole ⊢
      exact congrArg (fun part => [part]) whole
  | cons char after ih =>
      rw [List.mem_cons, not_or] at slashFree
      have running : ¬ String.Pos.Raw.atEnd (String.ofList (before ++ char :: after))
          ⟨String.utf8Len before⟩ = true := by
        rw [String.atEnd_of_valid]
        exact List.cons_ne_nil char after
      have slash : String.Pos.Raw.get "/" 0 = '/' := String.get_of_valid [] ['/']
      have other : ¬ ((char :: after).headD default == '/') = true := by
        rw [List.headD_cons, beq_iff_eq]
        exact Ne.symm slashFree.1
      have next : String.Pos.Raw.next (String.ofList (before ++ char :: after))
          ⟨String.utf8Len before⟩ = ⟨String.utf8Len (before ++ [char])⟩ := by
        rw [String.next_of_valid]
        simp
      rw [String.splitOnAux, if_neg running, String.get_of_valid, slash, if_neg other]
      show String.splitOnAux _ _ _ (String.Pos.Raw.next _ ⟨String.utf8Len before - 0⟩) _ _ = _
      rw [Nat.sub_zero, next]
      have rest := ih (before ++ [char]) slashFree.2
      rwa [List.append_assoc] at rest

theorem splitOn_slash
    {text : String}
    (slashFree : '/' ∉ text.toList) :
    text.splitOn "/" = [text] := by
  have whole := splitOnAux_slash [] text.toList slashFree
  rw [List.nil_append, String.ofList_toList] at whole
  rw [String.splitOn, if_neg (by decide)]
  exact whole

/-- A text that can be the name of a file. -/
structure PlainName (text : String) : Prop where
  nonempty : text ≠ ""
  slashFree : '/' ∉ text.toList
  nulFree : '\x00' ∉ text.toList
  notHere : text ≠ "."
  notUp : text ≠ ".."
  short : text.utf8ByteSize ≤ nameLimit

theorem PlainName.ofText_eq
    {text : String}
    (plain : PlainName text) :
    ofText text = .ok ⟨false, [text], false⟩ := by
  have short : ¬ pathLimit < text.utf8ByteSize :=
    Nat.not_lt.mpr (Nat.le_trans plain.short (by decide))
  rw [ofText, if_neg plain.nulFree, if_neg short, splitOn_slash plain.slashFree]
  simp [plain.nonempty]

end FilePath

end ModelLineage
