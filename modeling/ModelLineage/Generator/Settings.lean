import ModelLineage.Names.NameMap

/-!
# Settings of a generation run

The settings name the HTTP client library, the project and the folder for the
generated sources.  The library must be one of the supported ones.  A project
name also moves the source folder, unless a source folder is given as well.
-/

namespace ModelLineage

/-- How mature the generator claims to be. -/
inductive Maturity where
  | experimental
  | beta
  | stable
  | deprecated
  deriving DecidableEq, Inhabited

namespace Maturity

/-- The word for a maturity in running text. -/
def word : Maturity → String
  | experimental => "Experimental"
  | beta => "Beta"
  | stable => "Stable"
  | deprecated => "Deprecated"

/-- The word for a maturity in a document. -/
def documentWord : Maturity → String
  | experimental => "EXPERIMENTAL"
  | beta => "BETA"
  | stable => "STABLE"
  | deprecated => "DEPRECATED"

end Maturity

/-- The settings of one generation run. -/
structure Settings where
  library : String
  projectName : String
  sourceFolder : String
  supported : NameMap String
  deriving DecidableEq

namespace Settings

/-- The name of the generator. -/
def generatorName : String := "boat-swift5"

/-- The description of the generator in one line. -/
def generatorHelp : String := "Generates a BOAT Swift 5.x client library."

/-- The maturity of the generator. -/
def maturity : Maturity := .stable

/-- The folder of the templates, named after the generator. -/
def templateFolder : String := generatorName

/-- Alternatives in a schema become protocols. -/
def alternativesAsProtocols : Bool := true

/-- The library that a run uses unless told otherwise. -/
def dataProviderLibrary : String := "dbsDataProvider"

/-- The libraries to choose from, each with its description. -/
def libraries : NameMap String :=
  .ofList
    [("alamofire", "[DEPRECATED] HTTP client: Alamofire"),
      ("urlsession", "[DEFAULT] HTTP client: URLSession"),
      ("vapor", "HTTP client: Vapor"),
      (dataProviderLibrary, "HTTP client: DBSDataProvider")]

/-- The source folder of a project. -/
def folderOf (projectName : String) : String :=
  projectName ++ "/Classes/OpenAPIs"

/-- The settings of a run without any choices. -/
def standard : Settings where
  library := dataProviderLibrary
  projectName := "OpenAPIClient"
  sourceFolder := folderOf "OpenAPIClient"
  supported := libraries

instance : Inhabited Settings := ⟨standard⟩

/-- Whether the run uses the data provider library. -/
def usesDataProvider (settings : Settings) : Bool :=
  settings.library = dataProviderLibrary

/-- What may be chosen for a run. -/
structure Choices where
  library : Option String
  projectName : Option String
  sourceFolder : Option String
  deriving DecidableEq, Inhabited

/-- A library that is not among the supported ones. -/
structure UnknownLibrary where
  library : String
  supported : List String
  deriving DecidableEq, Inhabited

/-- The settings that result from some choices. -/
def ofChoices (choices : Choices) : Except UnknownLibrary Settings := do
  let library := choices.library.getD standard.library
  let projectName := choices.projectName.getD standard.projectName
  let sourceFolder := choices.sourceFolder.getD (folderOf projectName)
  if libraries.contains library then
    return ⟨library, projectName, sourceFolder, libraries⟩
  else
    throw ⟨library, libraries.keys⟩

end Settings

end ModelLineage
