/-
# Logging — which events are shown

A filter is one level, or a target with a level; it begins with a letter, a digit
or one of the marks `-`, `:` and `_`. The filter of the environment comes before
that of the configuration, and without either everything from `info` up is
shown. A process has one subscriber: where there is one already, no other is
installed.
-/
import ModuleOpens.Config
import ModuleOpens.Event
import ModuleOpens.Text.Alphanumeric

namespace ModuleOpens.Logging

set_option autoImplicit false

def defaultFilter : String := "info"

/-- The levels, from none to all; each also goes by its number. -/
def levels : List String := ["off", "error", "warn", "info", "debug", "trace"]

/-- A number in decimal digits, which a plus may precede. -/
def number? (word : List Char) : Option Nat :=
  let digits := if word.head? = some '+' then word.tail else word
  if digits.isEmpty || !digits.all Char.isDigit then none
  else some (digits.foldl (fun n c => n * 10 + (c.toNat - '0'.toNat)) 0)

def level? (word : List Char) : Option String :=
  match number? word with
  | some n => levels[n]?
  | none => levels.find? fun level => level.toList == word.map Char.toLower

/-- A filter may begin with this character. -/
def opensFilter (c : Char) : Bool :=
  Text.isAlphanumeric c || c == '-' || c == ':' || c == '_'

/-- The filter for all that is reported under a target, from a level up. -/
def forTarget (target : List Char) (level : String) : String :=
  String.ofList target ++ "=" ++ level

/-- A filter in its plain form. A word that names no level is a target of which all is shown,
and so is a target with nothing after the equals sign. What is no filter shows errors alone.

The blanks at the ends are left out to find the equals sign, but the parts are cut from the
whole text: a blank in front moves the cut, and a blank behind belongs to the last part. -/
def normalize (filter : String) : String :=
  let text := filter.toList
  let core := Text.trimList text
  if core.head?.any opensFilter then
    match Text.splitFirst '=' core with
    | some (target, _) =>
      let word := text.drop (target.length + 1)
      if word.isEmpty then forTarget (text.take target.length) "trace"
      else ((level? word).map (forTarget (text.take target.length))).getD "error"
    | none => (level? text).getD (forTarget text "trace")
  else "error"

/-- The filter that counts: the environment's, or else the configured one, or else the default. -/
def resolveFilter (environment configured : Option String) : String :=
  normalize ((environment.or configured).getD defaultFilter)

def installs (present : Bool) : Bool := !present

/-- What an installation from a configuration reports: events in JSON are not offered. -/
def installationEvents (config : Option LoggingSection) : List Event :=
  match config with
  | some section_ =>
    if section_.jsonFormat then
      [.debug "json-logging feature not enabled, using human-readable logs"]
    else []
  | none => []

end ModuleOpens.Logging
