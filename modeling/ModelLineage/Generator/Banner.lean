import ModelLineage.Schema.ModelGraph

/-!
# The closing banner

A run closes with a framed banner that lists the models it processed.  Lines are
eighty characters wide, or wider where their text needs it.
-/

namespace ModelLineage

namespace Banner

/-- The width of the frame. -/
def width : Nat := 80

/-- The line above and below. -/
def rule : String :=
  String.ofList (List.replicate width '#')

/-- A line of text in the frame, filled up with blanks. -/
def framed (text : String) : String :=
  "# " ++ text ++ String.ofList (List.replicate (width - 3 - text.length) ' ') ++ "#"

/-- The text for one model. -/
def modelText (model : Model) : String :=
  "  " ++ model.name ++ " (" ++ model.fields.length.repr ++ " fields)"

/-- What the banner says, line by line. -/
def texts (processed : Option ModelGraph) : List String :=
  "Thanks for using BOAT Swift OpenAPI Generator." ::
    match processed with
    | none => ["No models were post processed."]
    | some graph =>
      ("Post processed " ++ graph.size.repr ++ " models:") :: graph.models.map modelText

/-- The lines of the banner. -/
def lines (processed : Option ModelGraph) : List String :=
  rule :: (texts processed).map framed ++ [rule]

/-- The banner as one text. -/
def text (processed : Option ModelGraph) : String :=
  "\n".intercalate (lines processed)

end Banner

end ModelLineage
