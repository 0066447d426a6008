import ModelLineage.Generator.Settings
import ModelLineage.Json.Value

/-!
# Template options

What the templates of a run get to see: a few variables, and the files that are
rendered once a run.
-/

namespace ModelLineage

/-- A template that is rendered once into a file of its own. -/
structure SupportFile where
  template : String
  folder : String
  destination : String
  deriving DecidableEq, Inhabited

/-- The variables of the templates with their values, and the support files. -/
structure TemplateOptions where
  bindings : NameMap Json
  supportFiles : List SupportFile

namespace Settings

/-- The template options of a run. -/
def templateOptions (settings : Settings) : TemplateOptions where
  bindings :=
    .ofList
      [("useDBSDataProvider", .boolean settings.usesDataProvider),
        ("library", .string settings.library),
        ("projectName", .string settings.projectName)]
  supportFiles :=
    [⟨"AnyCodable.swift.mustache", settings.sourceFolder, "AnyCodable.swift"⟩]

/-- The settings as a value. -/
def toJson (settings : Settings) : Json :=
  .object
    [("library", .string settings.library),
      ("projectName", .string settings.projectName),
      ("sourceFolder", .string settings.sourceFolder),
      ("supportedLibraries", .ofTexts settings.supported.entries)]

end Settings

/-- A support file as a value. -/
def SupportFile.toJson (file : SupportFile) : Json :=
  .object
    [("templateFile", .string file.template),
      ("folder", .string file.folder),
      ("destinationFilename", .string file.destination)]

/-- The options as a value. -/
def TemplateOptions.toJson (options : TemplateOptions) : Json :=
  .object
    [("additionalProperties", .object options.bindings.entries),
      ("supportingFiles", .array (options.supportFiles.map SupportFile.toJson))]

end ModelLineage
