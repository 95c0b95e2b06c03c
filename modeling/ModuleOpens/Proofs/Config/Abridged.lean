/-
# Proofs.Config.Abridged — documents that describe a configuration

The document of a configuration names every member. Those whose value is a default
may be left out, in any number and at any depth, and members that mean nothing may
be added to any of its records: what the document describes stays the same. The
defaults of a section's fields stand beside its decoder and those of the section in
`LoggingSection.default` and its like, so this is where the two meet. Nothing has to
be left out: each document abridges itself, and so describes what it was written from.

* `LoggingSection.forms` and the others: which members have which default;
* `Config.ofDocument?_of_abridged`: what an abridged document describes;
* `Config.ofDocument?_toDocument`: what the whole document describes.
-/
import ModuleOpens.Config.Codec
import ModuleOpens.Proofs.Document.Abridged

namespace ModuleOpens

set_option autoImplicit false

open Document (AbridgedEach AbridgedRecord MemberForm exists_fields?_of_abridged readOr_of_covers
  readOr_of_whole readRequired_of_whole asList?_of_abridged abridgedEach_self)

variable {format : DocumentFormat} {document : Document}

/-! ## Sections -/

theorem StrategyKind.ofDocument?_keyword (kind : StrategyKind) :
    StrategyKind.ofDocument? format (.ofText kind.keyword) = some kind :=
  StrategyKind.ofKeyword?_keyword kind

/-- A list of strategies decodes from their keywords. -/
theorem StrategyKind.asList?_keywords (kinds : List StrategyKind) :
    (Document.ofTexts (kinds.map keyword)).asList? (StrategyKind.ofDocument? format) =
      some kinds := by
  rw [Document.ofTexts, List.map_map]
  exact Document.asList?_map ofDocument?_keyword kinds

def LoggingSection.forms : List MemberForm :=
  [.whole "filter" (some (LoggingSection.default.filter.elim .null .ofText)),
    .whole "json_format" (some (.bool LoggingSection.default.jsonFormat))]

def StrategiesSection.forms : List MemberForm :=
  [.whole "disabled"
    (some (.ofTexts (StrategiesSection.default.disabled.map StrategyKind.keyword)))]

def ExclusiveSection.forms : List MemberForm :=
  [.whole "wait_timeout_ms"
    (some (.integer (.ofNat ExclusiveSection.default.waitTimeoutMs.toNat)))]

def ManifestSection.forms : List MemberForm :=
  [.whole "render_add_opens" (some (.bool ManifestSection.default.renderAddOpens))]

theorem LoggingSection.ofDocument?_of_abridged {logging : LoggingSection}
    (abridged : AbridgedRecord forms logging.toDocument document) :
    LoggingSection.ofDocument? format document = some logging := by
  obtain ⟨fields, read, covers⟩ :=
    exists_fields?_of_abridged format ["filter", "json_format"] rfl (by decide) abridged
  simp only [forms, List.zip_cons_cons, List.forall_mem_cons] at covers
  obtain ⟨filter, jsonFormat, -⟩ := covers
  -- here is the default of the decoder, in `forms` that of the section: the two are the same
  have filter : fields.readOr "filter" Document.asOptionalText? none = some logging.filter :=
    readOr_of_whole Document.asOptionalText?_elim filter
  have jsonFormat : fields.readOr "json_format" Document.asBool? false = some logging.jsonFormat :=
    readOr_of_whole Document.asBool?_bool jsonFormat
  simp only [ofDocument?, read, filter, jsonFormat, bind, Option.bind, pure]

theorem LoggingSection.abridged_self (logging : LoggingSection) :
    AbridgedRecord forms logging.toDocument logging.toDocument :=
  ⟨_, _, rfl, rfl, .keep rfl (.keep rfl .nil)⟩

theorem LoggingSection.ofDocument?_toDocument (logging : LoggingSection) :
    LoggingSection.ofDocument? format logging.toDocument = some logging :=
  ofDocument?_of_abridged logging.abridged_self

theorem StrategiesSection.ofDocument?_of_abridged {strategies : StrategiesSection}
    (abridged : AbridgedRecord forms strategies.toDocument document) :
    StrategiesSection.ofDocument? format document = some strategies := by
  obtain ⟨fields, read, covers⟩ :=
    exists_fields?_of_abridged format ["disabled"] rfl (by decide) abridged
  simp only [forms, List.zip_cons_cons, List.forall_mem_cons] at covers
  obtain ⟨disabled, -⟩ := covers
  have disabled : fields.readOr "disabled"
      (Document.asList? (StrategyKind.ofDocument? format)) [] = some strategies.disabled :=
    readOr_of_whole StrategyKind.asList?_keywords disabled
  simp only [ofDocument?, read, disabled, bind, Option.bind, pure]

theorem StrategiesSection.abridged_self (strategies : StrategiesSection) :
    AbridgedRecord forms strategies.toDocument strategies.toDocument :=
  ⟨_, _, rfl, rfl, .keep rfl .nil⟩

theorem StrategiesSection.ofDocument?_toDocument (strategies : StrategiesSection) :
    StrategiesSection.ofDocument? format strategies.toDocument = some strategies :=
  ofDocument?_of_abridged strategies.abridged_self

theorem ExclusiveSection.ofDocument?_of_abridged {exclusive : ExclusiveSection}
    (abridged : AbridgedRecord forms exclusive.toDocument document) :
    ExclusiveSection.ofDocument? format document = some exclusive := by
  obtain ⟨fields, read, covers⟩ :=
    exists_fields?_of_abridged format ["wait_timeout_ms"] rfl (by decide) abridged
  simp only [forms, List.zip_cons_cons, List.forall_mem_cons] at covers
  obtain ⟨wait, -⟩ := covers
  have wait : fields.readOr "wait_timeout_ms" Document.asUInt64? defaultWaitMs =
      some exclusive.waitTimeoutMs :=
    readOr_of_whole Document.asUInt64?_toNat wait
  simp only [ofDocument?, read, wait, bind, Option.bind, pure]

theorem ExclusiveSection.abridged_self (exclusive : ExclusiveSection) :
    AbridgedRecord forms exclusive.toDocument exclusive.toDocument :=
  ⟨_, _, rfl, rfl, .keep rfl .nil⟩

theorem ExclusiveSection.ofDocument?_toDocument (exclusive : ExclusiveSection) :
    ExclusiveSection.ofDocument? format exclusive.toDocument = some exclusive :=
  ofDocument?_of_abridged exclusive.abridged_self

theorem ManifestSection.ofDocument?_of_abridged {manifest : ManifestSection}
    (abridged : AbridgedRecord forms manifest.toDocument document) :
    ManifestSection.ofDocument? format document = some manifest := by
  obtain ⟨fields, read, covers⟩ :=
    exists_fields?_of_abridged format ["render_add_opens"] rfl (by decide) abridged
  simp only [forms, List.zip_cons_cons, List.forall_mem_cons] at covers
  obtain ⟨render, -⟩ := covers
  have render : fields.readOr "render_add_opens" Document.asBool? true =
      some manifest.renderAddOpens :=
    readOr_of_whole Document.asBool?_bool render
  simp only [ofDocument?, read, render, bind, Option.bind, pure]

theorem ManifestSection.abridged_self (manifest : ManifestSection) :
    AbridgedRecord forms manifest.toDocument manifest.toDocument :=
  ⟨_, _, rfl, rfl, .keep rfl .nil⟩

theorem ManifestSection.ofDocument?_toDocument (manifest : ManifestSection) :
    ManifestSection.ofDocument? format manifest.toDocument = some manifest :=
  ofDocument?_of_abridged manifest.abridged_self

/-! ## Declared opens and extensions -/

def DeclaredOpen.forms : List MemberForm :=
  [.whole "module" none, .whole "to" (some (.ofText allUnnamed)), .whole "packages" none]

def ExtensionOption.forms : List MemberForm :=
  [.whole "name" none, .whole "values" (some (.ofTexts []))]

def Extension.forms : List MemberForm :=
  [.whole "name" none,
    ⟨"jvm_options", some (.list []), AbridgedEach (AbridgedRecord ExtensionOption.forms)⟩]

theorem DeclaredOpen.ofDocument?_of_abridged {declared : DeclaredOpen}
    (abridged : AbridgedRecord forms declared.toDocument document) :
    DeclaredOpen.ofDocument? format document = some declared := by
  obtain ⟨fields, read, covers⟩ :=
    exists_fields?_of_abridged format ["module", "to", "packages"] rfl (by decide) abridged
  simp only [forms, List.zip_cons_cons, List.forall_mem_cons] at covers
  obtain ⟨module, opening, packages, -⟩ := covers
  have module : fields.readRequired "module" Document.asText? = some declared.module :=
    readRequired_of_whole Document.asText?_ofText module
  have opening : fields.readOr "to" Document.asText? allUnnamed = some declared.opening :=
    readOr_of_whole Document.asText?_ofText opening
  have packages : fields.readRequired "packages" (Document.asList? Document.asText?) =
      some declared.packages :=
    readRequired_of_whole Document.asList?_ofTexts packages
  simp only [ofDocument?, read, module, opening, packages, bind, Option.bind, pure]

theorem DeclaredOpen.abridged_self (declared : DeclaredOpen) :
    AbridgedRecord forms declared.toDocument declared.toDocument :=
  ⟨_, _, rfl, rfl, .keep rfl (.keep rfl (.keep rfl .nil))⟩

theorem DeclaredOpen.ofDocument?_toDocument (declared : DeclaredOpen) :
    DeclaredOpen.ofDocument? format declared.toDocument = some declared :=
  ofDocument?_of_abridged declared.abridged_self

theorem ExtensionOption.ofDocument?_of_abridged {option : ExtensionOption}
    (abridged : AbridgedRecord forms option.toDocument document) :
    ExtensionOption.ofDocument? format document = some option := by
  obtain ⟨fields, read, covers⟩ :=
    exists_fields?_of_abridged format ["name", "values"] rfl (by decide) abridged
  simp only [forms, List.zip_cons_cons, List.forall_mem_cons] at covers
  obtain ⟨name, values, -⟩ := covers
  have name : fields.readRequired "name" Document.asText? = some option.name :=
    readRequired_of_whole Document.asText?_ofText name
  have values : fields.readOr "values" (Document.asList? Document.asText?) [] =
      some option.values :=
    readOr_of_whole Document.asList?_ofTexts values
  simp only [ofDocument?, read, name, values, bind, Option.bind, pure]

theorem ExtensionOption.abridged_self (option : ExtensionOption) :
    AbridgedRecord forms option.toDocument option.toDocument :=
  ⟨_, _, rfl, rfl, .keep rfl (.keep rfl .nil)⟩

theorem ExtensionOption.ofDocument?_toDocument (option : ExtensionOption) :
    ExtensionOption.ofDocument? format option.toDocument = some option :=
  ofDocument?_of_abridged option.abridged_self

theorem Extension.ofDocument?_of_abridged {extension : Extension}
    (abridged : AbridgedRecord forms extension.toDocument document) :
    Extension.ofDocument? format document = some extension := by
  obtain ⟨fields, read, covers⟩ :=
    exists_fields?_of_abridged format ["name", "jvm_options"] rfl (by decide) abridged
  simp only [forms, List.zip_cons_cons, List.forall_mem_cons] at covers
  obtain ⟨name, options, -⟩ := covers
  have name : fields.readRequired "name" Document.asText? = some extension.name :=
    readRequired_of_whole Document.asText?_ofText name
  have options : fields.readOr "jvm_options"
      (Document.asList? (ExtensionOption.ofDocument? format)) [] = some extension.options :=
    readOr_of_covers (Document.asList?_map ExtensionOption.ofDocument?_toDocument)
      (fun _ => asList?_of_abridged (fun _ _ => ExtensionOption.ofDocument?_of_abridged) _)
      options
  simp only [ofDocument?, read, name, options, bind, Option.bind, pure]

theorem Extension.abridged_self (extension : Extension) :
    AbridgedRecord forms extension.toDocument extension.toDocument :=
  ⟨_, _, rfl, rfl, .keep rfl (.keep (abridgedEach_self ExtensionOption.abridged_self _) .nil)⟩

theorem Extension.ofDocument?_toDocument (extension : Extension) :
    Extension.ofDocument? format extension.toDocument = some extension :=
  ofDocument?_of_abridged extension.abridged_self

/-! ## Configurations -/

namespace Config

def forms : List MemberForm :=
  [⟨"logging", some Config.default.logging.toDocument, AbridgedRecord LoggingSection.forms⟩,
    ⟨"strategies", some Config.default.strategies.toDocument,
      AbridgedRecord StrategiesSection.forms⟩,
    ⟨"exclusive", some Config.default.exclusive.toDocument,
      AbridgedRecord ExclusiveSection.forms⟩,
    ⟨"manifest", some Config.default.manifest.toDocument, AbridgedRecord ManifestSection.forms⟩,
    ⟨"module_opens", some (.list []), AbridgedEach (AbridgedRecord DeclaredOpen.forms)⟩,
    ⟨"extensions", some (.list []), AbridgedEach (AbridgedRecord Extension.forms)⟩]

theorem ofDocument?_of_abridged {config : Config}
    (abridged : AbridgedRecord forms config.toDocument document) :
    Config.ofDocument? format document = some config := by
  obtain ⟨fields, read, covers⟩ := exists_fields?_of_abridged format
    ["logging", "strategies", "exclusive", "manifest", "module_opens", "extensions"] rfl
    (by decide) abridged
  simp only [forms, List.zip_cons_cons, List.forall_mem_cons] at covers
  obtain ⟨logging, strategies, exclusive, manifest, moduleOpens, extensions, -⟩ := covers
  have logging : fields.readOr "logging" (LoggingSection.ofDocument? format) .default =
      some config.logging :=
    readOr_of_covers LoggingSection.ofDocument?_toDocument
      (fun _ => LoggingSection.ofDocument?_of_abridged) logging
  have strategies : fields.readOr "strategies" (StrategiesSection.ofDocument? format) .default =
      some config.strategies :=
    readOr_of_covers StrategiesSection.ofDocument?_toDocument
      (fun _ => StrategiesSection.ofDocument?_of_abridged) strategies
  have exclusive : fields.readOr "exclusive" (ExclusiveSection.ofDocument? format) .default =
      some config.exclusive :=
    readOr_of_covers ExclusiveSection.ofDocument?_toDocument
      (fun _ => ExclusiveSection.ofDocument?_of_abridged) exclusive
  have manifest : fields.readOr "manifest" (ManifestSection.ofDocument? format) .default =
      some config.manifest :=
    readOr_of_covers ManifestSection.ofDocument?_toDocument
      (fun _ => ManifestSection.ofDocument?_of_abridged) manifest
  have moduleOpens : fields.readOr "module_opens"
      (Document.asList? (DeclaredOpen.ofDocument? format)) [] = some config.moduleOpens :=
    readOr_of_covers (Document.asList?_map DeclaredOpen.ofDocument?_toDocument)
      (fun _ => asList?_of_abridged (fun _ _ => DeclaredOpen.ofDocument?_of_abridged) _)
      moduleOpens
  have extensions : fields.readOr "extensions"
      (Document.asList? (Extension.ofDocument? format)) [] = some config.extensions :=
    readOr_of_covers (Document.asList?_map Extension.ofDocument?_toDocument)
      (fun _ => asList?_of_abridged (fun _ _ => Extension.ofDocument?_of_abridged) _)
      extensions
  simp only [ofDocument?, read, logging, strategies, exclusive, manifest, moduleOpens, extensions,
    bind, Option.bind, pure]

theorem abridged_self (config : Config) :
    AbridgedRecord forms config.toDocument config.toDocument :=
  ⟨_, _, rfl, rfl, .keep config.logging.abridged_self <| .keep config.strategies.abridged_self <|
    .keep config.exclusive.abridged_self <| .keep config.manifest.abridged_self <|
    .keep (abridgedEach_self DeclaredOpen.abridged_self _) <|
    .keep (abridgedEach_self Extension.abridged_self _) .nil⟩

theorem ofDocument?_toDocument (config : Config) :
    Config.ofDocument? format config.toDocument = some config :=
  ofDocument?_of_abridged config.abridged_self

end Config

end ModuleOpens
