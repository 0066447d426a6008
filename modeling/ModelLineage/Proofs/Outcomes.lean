/-!
# Outcomes that may be failures

A computation goes step by step, and a step that fails fails the whole.  One that
has come to its end can be taken apart again.  Where a single thing can go wrong,
and always with the same failure, the whole comes to a condition on its parts.
-/

namespace ModelLineage

theorem exists_of_isOk
    {Failure Value : Type} {outcome : Except Failure Value}
    (succeeds : outcome.isOk = true) :
    ∃ value, outcome = .ok value := by
  cases outcome with
  | error failure => cases succeeds
  | ok value => exact ⟨value, rfl⟩

theorem ok_of_toOption_eq_some
    {Failure Value : Type}
    {outcome : Except Failure Value} {value : Value}
    (found : outcome.toOption = some value) :
    outcome = .ok value := by
  cases outcome with
  | error failure => cases found
  | ok other =>
      cases found
      rfl

/-- A computation goes on with what its first part gave. -/
theorem ok_bind
    {Failure First Value : Type}
    (found : First)
    (next : First → Except Failure Value) :
    (Except.ok found >>= next) = next found :=
  rfl

/-- The value of a computation of two parts, and what the first part gave. -/
theorem exists_of_bind_eq_ok
    {Failure First Value : Type}
    {first : Except Failure First} {next : First → Except Failure Value} {value : Value}
    (done : (first >>= next) = .ok value) :
    ∃ found, first = .ok found ∧ next found = .ok value := by
  cases first with
  | error failure => cases done
  | ok found => exact ⟨found, rfl, done⟩

theorem exists_of_map_eq_ok
    {Failure First Value : Type}
    {first : Except Failure First} {next : First → Value} {value : Value}
    (done : first.map next = .ok value) :
    ∃ found, first = .ok found ∧ next found = value := by
  cases first with
  | error failure => cases done
  | ok found =>
      cases done
      exact ⟨found, rfl, rfl⟩

theorem ok_of_mapError_eq_ok
    {Failure Failure' Value : Type}
    {wrap : Failure → Failure'} {outcome : Except Failure Value} {value : Value}
    (done : outcome.mapError wrap = .ok value) :
    outcome = .ok value := by
  cases outcome with
  | error failure => cases done
  | ok found =>
      cases done
      rfl

/-! ## One failure -/

/-- What reading gives if the only thing that can go wrong is that something does not fit. -/
def ifFits {Failure Value : Type}
    (failure : Failure)
    (fits : Prop) [Decidable fits]
    (value : Value) : Except Failure Value :=
  if fits then .ok value else .error failure

section

variable
    {Failure Value Result : Type}
    {failure : Failure}
    {fits fits' : Prop} [Decidable fits] [Decidable fits']

theorem ifFits_of (holds : fits) (value : Value) : ifFits failure fits value = .ok value :=
  if_pos holds

theorem ifFits_of_not (unfit : ¬ fits) (value : Value) :
    ifFits failure fits value = .error failure :=
  if_neg unfit

theorem ifFits_congr
    (same : fits ↔ fits')
    (value : Value) :
    ifFits failure fits value = ifFits failure fits' value := by
  simp only [ifFits, same]

/-- What is read after one another fits if each part does. -/
theorem ifFits_bind
    (value : Value)
    {next : Value → Except Failure Result} {result : Result}
    (after : next value = ifFits failure fits' result) :
    (ifFits failure fits value >>= next) = ifFits failure (fits ∧ fits') result := by
  by_cases first : fits
  · rw [ifFits_of first, ifFits_congr (and_iff_right first), ← after]
    rfl
  · rw [ifFits_of_not first, ifFits_of_not fun both => first both.1]
    rfl

theorem ifFits_bind_ok
    (value : Value)
    {next : Value → Except Failure Result} {result : Result}
    (after : next value = .ok result) :
    (ifFits failure fits value >>= next) = ifFits failure fits result := by
  have fine : next value = ifFits failure True result :=
    after.trans (ifFits_of trivial result).symm
  rw [ifFits_bind value fine]
  exact ifFits_congr (and_iff_left trivial) result

end

/-- A computation that fails in no other way. -/
def FailsOnlyBy {Failure Value : Type}
    (failure : Failure)
    (outcome : Except Failure Value) : Prop :=
  ∀ other, outcome = .error other → other = failure

section

variable
    {Failure First Value : Type}
    {failure : Failure}
    {first : Except Failure First}
    {next : First → Except Failure Value}

theorem failsOnlyBy_ok (value : Value) : FailsOnlyBy failure (.ok value) := by
  intro other failed
  cases failed

theorem failsOnlyBy_error : FailsOnlyBy failure (.error failure : Except Failure Value) := by
  intro other failed
  cases failed
  rfl

theorem FailsOnlyBy.bind
    (before : FailsOnlyBy failure first)
    (after : ∀ found, first = .ok found → FailsOnlyBy failure (next found)) :
    FailsOnlyBy failure (first >>= next) := by
  cases first with
  | error other =>
      rw [before other rfl]
      exact failsOnlyBy_error
  | ok found => exact after found rfl

/-- What fails only in one way, and is followed by what fails in this way, fails in this way. -/
theorem FailsOnlyBy.bind_eq_error
    (before : FailsOnlyBy failure first)
    (after : ∀ found, next found = .error failure) :
    (first >>= next) = .error failure := by
  cases first with
  | error other =>
      rw [before other rfl]
      rfl
  | ok found => exact after found

end

/-- The items of a list that was written are read back if each one fits. -/
theorem mapM_ifFits
    {Failure Item Written : Type} {failure : Failure}
    {read : Written → Except Failure Item} {write : Item → Written}
    {fits : Item → Prop} [DecidablePred fits]
    {items : List Item}
    (each : ∀ item ∈ items, read (write item) = ifFits failure (fits item) item) :
    (items.map write).mapM read = ifFits failure (∀ item ∈ items, fits item) items := by
  induction items with
  | nil => exact (ifFits_of (by simp) _).symm
  | cons item items ih =>
      have rest := ih fun other listed => each other (List.mem_cons_of_mem _ listed)
      rw [List.map_cons, List.mapM_cons, each item List.mem_cons_self, rest,
        ← ifFits_congr List.forall_mem_cons.symm]
      exact ifFits_bind item (ifFits_bind_ok items rfl)

/-- What is on a list that was read has been read from an item. -/
theorem exists_of_mem_mapM
    {Failure Item Written : Type}
    {read : Written → Except Failure Item}
    {written : List Written} {items : List Item} {item : Item}
    (done : written.mapM read = .ok items)
    (listed : item ∈ items) :
    ∃ source ∈ written, read source = .ok item := by
  induction written generalizing items with
  | nil =>
      cases done
      cases listed
  | cons source written ih =>
      rw [List.mapM_cons] at done
      rcases exists_of_bind_eq_ok done with ⟨first, firstRead, later⟩
      rcases exists_of_bind_eq_ok later with ⟨others, rest, same⟩
      cases same
      rcases List.mem_cons.mp listed with rfl | further
      · exact ⟨source, List.mem_cons_self, firstRead⟩
      · rcases ih rest further with ⟨other, member, otherRead⟩
        exact ⟨other, List.mem_cons_of_mem _ member, otherRead⟩

end ModelLineage
