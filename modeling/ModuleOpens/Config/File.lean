/-
# Config.File — configurations from files

The name of a file decides its notation: `.json` after a stem means JSON, and
any other name TOML. A file is read as UTF-8, decoded and validated; a file that
is missing or fails any of these may be replaced by the defaults.
-/
import ModuleOpens.Config.Codec
import ModuleOpens.Document.Toml.Reader
import ModuleOpens.Event

namespace ModuleOpens

set_option autoImplicit false

/-- What follows the last point of a file name; none when nothing precedes that point. -/
def extension? (name : String) : Option String :=
  let (reversed, rest) := name.toList.reverse.span (· != '.')
  match rest with
  | [] => none
  | _ :: stem => if stem.isEmpty then none else some (String.ofList reversed.reverse)

/-- The notation that a file name stands for. -/
def DocumentFormat.ofFileName (name : String) : DocumentFormat :=
  if extension? name = some "json" then .json else .toml

namespace Config

inductive LoadError where
  /-- There is no such file, or it is not UTF-8. -/
  | unreadable
  /-- The text is not well formed, or does not describe a configuration. -/
  | malformed
  | invalid (fault : ConfigFault)
  deriving DecidableEq, Repr

/-- The error in words, for a file of this name. -/
def LoadError.describe (name : String) : LoadError → String
  | .unreadable => "Failed to read config file " ++ name
  | .malformed => "Failed to parse config " ++ name
  | .invalid fault => fault.message

def documentOf? (format : DocumentFormat) (text : String) : Option Document :=
  match format with
  | .json => Json.parse text
  | .toml => Toml.parse text

/-- The configuration of a document, if it breaks no condition. -/
def ofDocument (format : DocumentFormat) (document : Option Document) : Except LoadError Config :=
  match document.bind (Config.ofDocument? format) with
  | none => .error .malformed
  | some config =>
    match config.fault? with
    | some fault => .error (.invalid fault)
    | none => .ok config

def ofText (format : DocumentFormat) (text : String) : Except LoadError Config :=
  ofDocument format (documentOf? format text)

/-- The configuration of a file with this content, or of one that is missing. -/
def ofBytes (format : DocumentFormat) (content : Option ByteArray) : Except LoadError Config :=
  match content.bind String.fromUTF8? with
  | none => .error .unreadable
  | some text => ofText format text

def ofFile (name : String) (content : Option ByteArray) : Except LoadError Config :=
  ofBytes (.ofFileName name) content

/-- The configuration of a file, or the defaults, with what is reported. -/
def loadOrDefault (name : String) (content : Option ByteArray) : Config × List Event :=
  match content with
  | none => (.default, [.debug ("No config file at " ++ name ++ ", using defaults")])
  | some _ =>
    match ofFile name content with
    | .ok config => (config, [.info ("Loaded module reconfiguration config from " ++ name)])
    | error =>
      withFallback error .default "Failed to load module reconfiguration config, using defaults"
        (LoadError.describe name)

end Config

end ModuleOpens
