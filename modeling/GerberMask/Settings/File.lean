import GerberMask.Settings.Json.Printer
import GerberMask.Settings.Json.Reader
import GerberMask.Settings.Layout
import GerberMask.Settings.Toml.Printer
import GerberMask.Settings.Toml.Reader
import GerberMask.Text.FileName

/-!
# Configuration files

A configuration is kept in a file whose extension says its format. Loading names the format, reads
the file, reads the text and checks the values, in this order; saving checks the values, names the
format, writes the text and then the file, so that no file is touched unless everything before went
well.

How texts are written and read is left to a library for every format. Whatever it does, these
programs can be run with it; `Format.library` are the printers and the readers of this project.
-/

namespace GerberMask.Settings

/-- The format of a configuration file. -/
inductive Format where
  | json
  | toml
  deriving DecidableEq, Repr

/-- What the program leaves to the library of a format. -/
structure FormatLibrary where
  /-- The text of a value, if it has one. -/
  write? : Setting → Option String
  /-- The value that a text is. -/
  read? : String → Option Setting
  /-- How the values that are read are understood as settings. -/
  conventions : Conventions

/-- The printer and the reader of JSON. -/
def Json.library : FormatLibrary where
  write? v := some (String.ofList (write 0 v))
  read? := read?
  conventions := conventions

/-- The printer and the reader of TOML; only groups are documents. -/
def Toml.library : FormatLibrary where
  write?
    | .group sections => some (String.ofList (writeDocument sections))
    | _ => none
  read? := read?
  conventions := conventions

namespace Format

/-- The format that the extension of a path names, in lower case only. -/
def ofPath (path : String) : Except ConfigError Format :=
  match Text.extension? path with
  | some "json" => .ok json
  | some "toml" => .ok toml
  | some other => .error (.unsupportedFormat other)
  | none => .error (.unsupportedFormat "<none>")

/-- The library that is used for a format. -/
def library : Format → FormatLibrary
  | json => Json.library
  | toml => Toml.library

/-- The error of a text that does not follow the format. -/
def error : Format → SettingsError
  | json => .json
  | toml => .toml

/-- The error of a configuration that has no text in the format. -/
def writingError : Format → SettingsError
  | json => .jsonWriting
  | toml => .tomlWriting

end Format

namespace Config

/-- The sections of a configuration; they are written alike in every format. -/
def sections (c : Config) : List (String × Setting) :=
  (schema Json.conventions).entries c

/-- The text that a library has for a configuration. -/
def text? (lib : FormatLibrary) (c : Config) : Option String :=
  lib.write? (.group c.sections)

/-- The configuration that a text describes; its values are not checked. -/
def parse? (lib : FormatLibrary) (text : String) : Option Config :=
  (lib.read? text).bind ((schema lib.conventions).read? lib.conventions)

variable (libs : Format → FormatLibrary)

/-- The configuration that a text describes, its values checked. -/
def accept (format : Format) (text : String) : Except SettingsError Config :=
  match parse? (libs format) text with
  | none => .error format.error
  | some c => (c.validate.mapError .config).map fun _ ↦ c

/-- The text that is to be saved at a path. -/
def output (c : Config) (path : String) : Except SettingsError String := do
  c.validate.mapError .config
  let format ← (Format.ofPath path).mapError .config
  match c.text? (libs format) with
  | none => .error format.writingError
  | some text => return text

variable {m : Type → Type} [Monad m] (files : FileAccess m)

/-- The configuration in the file at a path. -/
def load (path : String) : m (Except SettingsError Config) := do
  match Format.ofPath path with
  | .error e => return .error (.config e)
  | .ok format =>
    let text ← files.readText path
    return (text.mapError .file).bind (accept libs format)

/-- Writes a configuration to the file at a path. -/
def save (c : Config) (path : String) : m (Except SettingsError Unit) := do
  match c.output libs path with
  | .error e => return .error e
  | .ok text => return (← files.writeText path text).mapError .file

end Config

end GerberMask.Settings
