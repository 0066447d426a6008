import ModelLineage.Flatten.Flattening
import ModelLineage.Generator.Banner
import ModelLineage.Generator.Options
import ModelLineage.Swift.Declaration

/-!
# Generation runs

A generator has settings and remembers the graph that it processed last.
Processing a graph flattens it; if that fails, the generator stays as it was.
-/

namespace ModelLineage

/-- A generator with the graph it processed last, if any. -/
structure Generator where
  settings : Settings
  processed : Option ModelGraph

/-- How a field is declared. -/
structure DeclaredField where
  name : String
  declaration : String
  required : Bool
  deriving DecidableEq, Inhabited

namespace Generator

/-- A generator that has processed nothing yet. -/
def ofSettings (settings : Settings) : Generator :=
  ⟨settings, none⟩

/-- What is logged when a whole graph is flattened. -/
def summary (flattened : Flattening) : Event :=
  .flattenedGraph flattened.graph.size flattened.report.dangling.size
    flattened.report.conflicts.size

/-- Flatten a graph and remember the result; a failure changes nothing. -/
def process (generator : Generator) (graph : ModelGraph) :
    Generator × Except Interruption Flattening :=
  match graph.flatten with
  | .error interruption => (generator, .error interruption)
  | .ok flattened =>
    ({ generator with processed := some flattened.graph },
      .ok { flattened with events := flattened.events.push (summary flattened) })

/-- The closing banner. -/
def banner (generator : Generator) : String :=
  Banner.text generator.processed

/-- How the fields of a model are declared; the required set decides what is required. -/
def declaredFields (model : Model) : List DeclaredField :=
  model.fields.map fun field =>
    ⟨field.name, field.type.literalDeclaration, model.required.contains field.name⟩

end Generator

end ModelLineage
