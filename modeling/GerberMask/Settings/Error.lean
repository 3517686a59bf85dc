import GerberMask.Files.Access

/-!
# Errors of the settings

A configuration can be at fault itself, or its file can be: it cannot be read or written, or its
text does not follow the format.
-/

namespace GerberMask.Settings

/-- What is wrong with a configuration or with the name of its file. -/
inductive ConfigError where
  /-- No format has this file extension. -/
  | unsupportedFormat (extension : String)
  /-- A value that cannot be used, as it is written. -/
  | valueOutOfRange (key value : String)
  deriving DecidableEq, Repr

/-- The message that tells the user. -/
def ConfigError.message : ConfigError → String
  | unsupportedFormat extension => "Unsupported config format: " ++ extension
  | valueOutOfRange key value => "Value out of range for '" ++ key ++ "': " ++ value

/-- Why a configuration cannot be loaded or saved. -/
inductive SettingsError where
  | file (cause : FileError)
  /-- The text is no JSON, or no configuration in JSON. -/
  | json
  /-- The text is no TOML, or no configuration in TOML. -/
  | toml
  /-- The configuration has no text in JSON. -/
  | jsonWriting
  /-- The configuration has no text in TOML. -/
  | tomlWriting
  | config (cause : ConfigError)
  deriving DecidableEq, Repr

namespace SettingsError

/-- The message that tells the user. -/
def message : SettingsError → String
  | file cause => "I/O error: " ++ cause.message
  | json => "JSON error: not a configuration"
  | toml => "TOML error: not a configuration"
  | jsonWriting => "JSON error: not written"
  | tomlWriting => "TOML error: not written"
  | config cause => "Config error: " ++ cause.message

/-- The message and below it the message of the cause. -/
def messages : SettingsError → List String
  | file cause => [(file cause).message, cause.message]
  | json => [json.message]
  | toml => [toml.message]
  | jsonWriting => [jsonWriting.message]
  | tomlWriting => [tomlWriting.message]
  | config cause => [(config cause).message, cause.message]

end SettingsError

end GerberMask.Settings
