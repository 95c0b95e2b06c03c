/-
# Config.Codec — configurations as documents

Each section and each list may be left out, and so may every field with a
default. The defaults of the fields of a section stand here, beside those of the
whole section. A document written from a configuration names every field.
-/
import ModuleOpens.Config
import ModuleOpens.Document.Decode
import ModuleOpens.Document.JsonReader
import ModuleOpens.Document.JsonWriter

namespace ModuleOpens

set_option autoImplicit false

/-! ## Reading -/

/-- A strategy, named by its keyword. -/
def StrategyKind.ofDocument? (format : DocumentFormat) (document : Document) :
    Option StrategyKind := do
  let word ← document.asWord? format
  StrategyKind.ofKeyword? word

/-- The strategies of a JSON text that is a list of them. -/
def StrategyKind.listOfJson? (text : String) : Option (List StrategyKind) := do
  let document ← Json.parse text
  document.asList? (StrategyKind.ofDocument? .json)

def LoggingSection.ofDocument? (format : DocumentFormat) (document : Document) :
    Option LoggingSection := do
  let fields ← document.fields? format ["filter", "json_format"]
  return {
    filter := ← fields.readOr "filter" Document.asOptionalText? none
    jsonFormat := ← fields.readOr "json_format" Document.asBool? false }

def StrategiesSection.ofDocument? (format : DocumentFormat) (document : Document) :
    Option StrategiesSection := do
  let fields ← document.fields? format ["disabled"]
  return {
    disabled := ← fields.readOr "disabled"
      (Document.asList? (StrategyKind.ofDocument? format)) [] }

def ExclusiveSection.ofDocument? (format : DocumentFormat) (document : Document) :
    Option ExclusiveSection := do
  let fields ← document.fields? format ["wait_timeout_ms"]
  return {
    waitTimeoutMs := ← fields.readOr "wait_timeout_ms" Document.asUInt64? defaultWaitMs }

def ManifestSection.ofDocument? (format : DocumentFormat) (document : Document) :
    Option ManifestSection := do
  let fields ← document.fields? format ["render_add_opens"]
  return {
    renderAddOpens := ← fields.readOr "render_add_opens" Document.asBool? true }

def DeclaredOpen.ofDocument? (format : DocumentFormat) (document : Document) :
    Option DeclaredOpen := do
  let fields ← document.fields? format ["module", "to", "packages"]
  return {
    module := ← fields.readRequired "module" Document.asText?
    opening := ← fields.readOr "to" Document.asText? allUnnamed
    packages := ← fields.readRequired "packages" (Document.asList? Document.asText?) }

def ExtensionOption.ofDocument? (format : DocumentFormat) (document : Document) :
    Option ExtensionOption := do
  let fields ← document.fields? format ["name", "values"]
  return {
    name := ← fields.readRequired "name" Document.asText?
    values := ← fields.readOr "values" (Document.asList? Document.asText?) [] }

def Extension.ofDocument? (format : DocumentFormat) (document : Document) : Option Extension := do
  let fields ← document.fields? format ["name", "jvm_options"]
  return {
    name := ← fields.readRequired "name" Document.asText?
    options := ← fields.readOr "jvm_options"
      (Document.asList? (ExtensionOption.ofDocument? format)) [] }

/-- The configuration that a document describes; not validated. -/
def Config.ofDocument? (format : DocumentFormat) (document : Document) : Option Config := do
  let fields ← document.fields? format
    ["logging", "strategies", "exclusive", "manifest", "module_opens", "extensions"]
  return {
    logging := ← fields.readOr "logging" (LoggingSection.ofDocument? format) .default
    strategies := ← fields.readOr "strategies" (StrategiesSection.ofDocument? format) .default
    exclusive := ← fields.readOr "exclusive" (ExclusiveSection.ofDocument? format) .default
    manifest := ← fields.readOr "manifest" (ManifestSection.ofDocument? format) .default
    moduleOpens := ← fields.readOr "module_opens"
      (Document.asList? (DeclaredOpen.ofDocument? format)) []
    extensions := ← fields.readOr "extensions"
      (Document.asList? (Extension.ofDocument? format)) [] }

/-! ## Writing -/

def LoggingSection.toDocument (logging : LoggingSection) : Document :=
  .ofMembers [("filter", logging.filter.elim .null .ofText), ("json_format", .bool logging.jsonFormat)]

def StrategiesSection.toDocument (strategies : StrategiesSection) : Document :=
  .ofMembers [("disabled", .ofTexts (strategies.disabled.map StrategyKind.keyword))]

def ExclusiveSection.toDocument (exclusive : ExclusiveSection) : Document :=
  .ofMembers [("wait_timeout_ms", .integer (.ofNat exclusive.waitTimeoutMs.toNat))]

def ManifestSection.toDocument (manifest : ManifestSection) : Document :=
  .ofMembers [("render_add_opens", .bool manifest.renderAddOpens)]

def DeclaredOpen.toDocument (declared : DeclaredOpen) : Document :=
  .ofMembers [("module", .ofText declared.module), ("to", .ofText declared.opening),
    ("packages", .ofTexts declared.packages)]

def ExtensionOption.toDocument (option : ExtensionOption) : Document :=
  .ofMembers [("name", .ofText option.name), ("values", .ofTexts option.values)]

def Extension.toDocument (extension : Extension) : Document :=
  .ofMembers [("name", .ofText extension.name),
    ("jvm_options", .list (extension.options.map ExtensionOption.toDocument))]

def Config.toDocument (config : Config) : Document :=
  .ofMembers [("logging", config.logging.toDocument), ("strategies", config.strategies.toDocument),
    ("exclusive", config.exclusive.toDocument), ("manifest", config.manifest.toDocument),
    ("module_opens", .list (config.moduleOpens.map DeclaredOpen.toDocument)),
    ("extensions", .list (config.extensions.map Extension.toDocument))]

/-- The configuration as the JSON text that is saved. -/
def Config.toJson (config : Config) : String :=
  Json.pretty config.toDocument

end ModuleOpens
