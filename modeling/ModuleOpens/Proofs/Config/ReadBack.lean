/-
# Proofs.Config.ReadBack — saved configurations load back

The saved text parses to the document that it was written from, and is UTF-8, and
the document describes the configuration; what remains between saving and loading is
the check of the loaded configuration. The same goes for any other text whose
document describes it, so the defaults of a saved file may be crossed out.

* `ofBytes_toJson`: loading a saved configuration gives it back, or the
  condition that it breaks;
* `abridged_decodes_same`: so does loading one without its defaults.
-/
import ModuleOpens.Config.File
import ModuleOpens.Proofs.Config.Abridged
import ModuleOpens.Proofs.Document.JsonReadBack

namespace ModuleOpens

set_option autoImplicit false

open Document (AbridgedRecord)

variable {format : DocumentFormat} {document : Document}

/-! ## What is written -/

theorem LoggingSection.exact_toDocument (logging : LoggingSection) :
    logging.toDocument.Exact := by
  have filter : (logging.filter.elim Document.null Document.ofText).Exact := by
    cases logging.filter with
    | none => exact .null
    | some filter => exact .text filter
  refine .members ?_
  simp only [List.forall_mem_cons]
  exact ⟨filter, .bool _, by simp⟩

theorem DeclaredOpen.exact_toDocument (declared : DeclaredOpen) : declared.toDocument.Exact := by
  refine .members ?_
  simp only [List.forall_mem_cons]
  exact ⟨.text _, .text _, Document.exact_ofTexts _, by simp⟩

theorem ExtensionOption.exact_toDocument (option : ExtensionOption) : option.toDocument.Exact := by
  refine .members ?_
  simp only [List.forall_mem_cons]
  exact ⟨.text _, Document.exact_ofTexts _, by simp⟩

theorem Extension.exact_toDocument (extension : Extension) : extension.toDocument.Exact := by
  refine .members ?_
  simp only [List.forall_mem_cons]
  exact ⟨.text _, Document.exact_list_map ExtensionOption.exact_toDocument _, by simp⟩

/-- No text of a configuration is without content, and its only number is an integer. -/
theorem Config.exact_toDocument (config : Config) : config.toDocument.Exact := by
  have disabled : config.strategies.toDocument.Exact := by
    refine .members ?_
    simp only [List.forall_mem_cons]
    exact ⟨Document.exact_ofTexts _, by simp⟩
  have exclusive : config.exclusive.toDocument.Exact := by
    refine .members ?_
    simp only [List.forall_mem_cons]
    exact ⟨.integer _, by simp⟩
  have manifest : config.manifest.toDocument.Exact := by
    refine .members ?_
    simp only [List.forall_mem_cons]
    exact ⟨.bool _, by simp⟩
  refine .members ?_
  simp only [List.forall_mem_cons]
  exact ⟨config.logging.exact_toDocument, disabled, exclusive, manifest,
    Document.exact_list_map DeclaredOpen.exact_toDocument _,
    Document.exact_list_map Extension.exact_toDocument _, by simp⟩

/-! ## Configurations -/

namespace Config

theorem fromUTF8?_toUTF8 (text : String) : String.fromUTF8? text.toUTF8 = some text := by
  rw [String.fromUTF8?, String.toUTF8_eq_toByteArray, dif_pos text.isValidUTF8]
  rfl

/-- A file whose document describes a configuration is loaded as that one, unless it breaks a
condition: then loading it names the condition that it breaks. -/
theorem ofBytes_of_described {text : String} {config : Config}
    (parsed : documentOf? format text = some document)
    (described : Config.ofDocument? format document = some config) :
    Config.ofBytes format (some text.toUTF8) =
      match config.validate with
      | .ok () => .ok config
      | .error fault => .error (.invalid fault) := by
  simp only [ofBytes, Option.bind_some, fromUTF8?_toUTF8, ofText, parsed, ofDocument, described,
    validate]
  cases config.fault? <;> rfl

/-- A saved configuration loads back, unless it breaks a condition: then loading it names the
condition that it breaks. -/
theorem ofBytes_toJson (config : Config) :
    Config.ofBytes .json (some config.toJson.toUTF8) =
      match config.validate with
      | .ok () => .ok config
      | .error fault => .error (.invalid fault) := by
  have parsed : documentOf? .json config.toJson = some config.toDocument :=
    Json.parse_pretty config.exact_toDocument
  exact ofBytes_of_described parsed config.ofDocument?_toDocument

/-- Leaving out defaults never changes a configuration, and neither does adding what means
nothing: a document that abridges the one of a configuration describes that configuration, and
a file with such a document is loaded as it, if it breaks no condition. -/
theorem abridged_decodes_same {config : Config}
    (abridged : AbridgedRecord forms config.toDocument document) :
    Config.ofDocument? format document = some config ∧
    ∀ text, documentOf? format text = some document →
      Config.ofBytes format (some text.toUTF8) =
        match config.validate with
        | .ok () => .ok config
        | .error fault => .error (.invalid fault) :=
  have described := ofDocument?_of_abridged abridged
  ⟨described, fun _ parsed => ofBytes_of_described parsed described⟩

/-- A configuration with some values of its own. -/
def sample : Config where
  logging := ⟨some "info", false⟩
  strategies := .default
  exclusive := .default
  manifest := ⟨false⟩
  moduleOpens := [⟨"java.base", allUnnamed, ["java.lang"]⟩]
  extensions := [⟨"metrics", [⟨"add-opens", []⟩]⟩]

/-- The same without its defaults, and with remarks. -/
def sampleDocument : Document :=
  .ofMembers [
    ("remark", .ofTexts ["for the benchmarks"]),
    ("logging", .ofMembers [("filter", .ofText "info"), ("since", .integer 3)]),
    ("exclusive", .ofMembers []),
    ("manifest", .ofMembers [("render_add_opens", .bool false)]),
    ("module_opens", .list [
      .ofMembers [("module", .ofText "java.base"), ("packages", .ofTexts ["java.lang"])]]),
    ("extensions", .list [
      .ofMembers [("name", .ofText "metrics"),
        ("jvm_options", .list [.ofMembers [("name", .ofText "add-opens"), ("", .null)]])]])]

theorem abridged_sample : AbridgedRecord forms sample.toDocument sampleDocument := by
  have logging : AbridgedRecord LoggingSection.forms sample.logging.toDocument
      (.ofMembers [("filter", .ofText "info"), ("since", .integer 3)]) :=
    ⟨_, _, rfl, rfl, .keep rfl (.leave rfl (.add (by decide) .nil))⟩
  have exclusive : AbridgedRecord ExclusiveSection.forms sample.exclusive.toDocument
      (.ofMembers []) :=
    ⟨_, _, rfl, rfl, .leave rfl .nil⟩
  have manifest : AbridgedRecord ManifestSection.forms sample.manifest.toDocument
      (.ofMembers [("render_add_opens", .bool false)]) :=
    ⟨_, _, rfl, rfl, .keep rfl .nil⟩
  have declared : AbridgedRecord DeclaredOpen.forms
      (DeclaredOpen.toDocument ⟨"java.base", allUnnamed, ["java.lang"]⟩)
      (.ofMembers [("module", .ofText "java.base"), ("packages", .ofTexts ["java.lang"])]) :=
    ⟨_, _, rfl, rfl, .keep rfl (.leave rfl (.keep rfl .nil))⟩
  have option : AbridgedRecord ExtensionOption.forms
      (ExtensionOption.toDocument ⟨"add-opens", []⟩)
      (.ofMembers [("name", .ofText "add-opens"), ("", .null)]) :=
    ⟨_, _, rfl, rfl, .keep rfl (.leave rfl (.add (by decide) .nil))⟩
  have extension : AbridgedRecord Extension.forms
      (Extension.toDocument ⟨"metrics", [⟨"add-opens", []⟩]⟩)
      (.ofMembers [("name", .ofText "metrics"),
        ("jvm_options", .list [.ofMembers [("name", .ofText "add-opens"), ("", .null)]])]) :=
    ⟨_, _, rfl, rfl, .keep rfl (.keep ⟨_, _, rfl, rfl, .cons option .nil⟩ .nil)⟩
  exact ⟨_, _, rfl, rfl, .add (by decide) <| .keep logging <| .leave rfl <| .keep exclusive <|
    .keep manifest <| .keep ⟨_, _, rfl, rfl, .cons declared .nil⟩ <|
    .keep ⟨_, _, rfl, rfl, .cons extension .nil⟩ .nil⟩

/-- The sample is read from its abridged document. -/
theorem abridged_decodes_same_sample :
    AbridgedRecord forms sample.toDocument sampleDocument ∧
      Config.ofDocument? .json sampleDocument = some sample :=
  ⟨abridged_sample, (abridged_decodes_same abridged_sample).1⟩

end Config

end ModuleOpens
