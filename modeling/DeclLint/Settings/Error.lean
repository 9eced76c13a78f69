import DeclLint.Path

/-!
# Settings errors

What can be wrong with a configuration, and how it is put into words.
-/

namespace DeclLint

/-- Why a configuration file could not be read. -/
inductive FileError where
  /-- there is no such file -/
  | notFound
  /-- the file is not a text in UTF-8 -/
  | notText
deriving DecidableEq, Repr

/-- The wording of a file error. -/
def FileError.message : FileError → String
  | notFound => "No such file or directory (os error 2)"
  | notText => "stream did not contain valid UTF-8"

/-- A mistake in a configuration. -/
inductive SettingsError where
  /-- the file could not be read -/
  | file (path : Path) (cause : FileError)
  /-- the file is not a configuration -/
  | parse (message : String)
  /-- a section names a rule that does not exist -/
  | unknownRule (rule : String)
  /-- the preset does not exist -/
  | unknownPreset (preset : String)
  /-- a section has an option its rule does not know -/
  | unknownOption (rule key : String)
  /-- an option has a value of the wrong shape -/
  | invalidOption (rule key message : String)
  /-- an option holds a malformed name -/
  | invalidName (rule key value : String)
deriving Repr

/-- The wording of a mistake. -/
def SettingsError.message : SettingsError → String
  | file path cause => "Failed to read config file " ++ path.text ++ ": " ++ cause.message
  | parse message => "Failed to parse config: " ++ message
  | unknownRule rule => "Unknown rule `" ++ rule ++ "`"
  | unknownPreset preset => "Unknown preset `" ++ preset ++ "`"
  | unknownOption rule key => "Unknown option `" ++ key ++ "` for rule `" ++ rule ++ "`"
  | invalidOption rule key message =>
    "Invalid option `" ++ key ++ "` for rule `" ++ rule ++ "`: " ++ message
  | invalidName rule key value =>
    "Invalid name `" ++ value ++ "` for option `" ++ key ++ "` of rule `" ++ rule ++ "`"

end DeclLint
