import ModelLineage.Proofs.Command.FixedPoint

/-!
# All or nothing

Whatever can stand in the way of flattening a document can be told from the store
and the options alone: an unknown library, a document that is not loaded, a strict
check that fails, a circle of ancestors.  The command fails with the first of these
that there is, and then nothing has changed but the remarks, which have the log and
the report of the failure added.  If nothing stands in its way, the flattened
document is what changes: it is printed, or one file holds it, which may be the
file that the document was read from.
-/

namespace ModelLineage

section

variable
    {store written : FileStore}
    {requestedFilter output library projectName : Option String}
    {verbosity : Nat}
    {input : String}
    {strict : Bool}
    {execution : Execution}

/-! ## Which way a command goes -/

end

end ModelLineage
