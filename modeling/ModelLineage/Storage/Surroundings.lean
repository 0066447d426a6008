import ModelLineage.Storage.FileAccess

/-!
# Surroundings

Beside files a program has two outputs, one for its results and one for what it
has to say about them.  They are kept apart, but a file may lead to either, so
what goes there by way of a file has its place among what is said before and
after.
-/

namespace ModelLineage

/-- Files and outputs, as effects. -/
structure Surroundings (Effect : Type → Type) extends FileAccess Effect where
  /-- Put a text on the output for results. -/
  print : String → Effect Unit
  /-- Put a text on the output for remarks. -/
  remark : String → Effect Unit

end ModelLineage
