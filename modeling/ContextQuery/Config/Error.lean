import ContextQuery.FileSystem

/-!
# Configuration errors
-/

namespace ContextQuery.Config

/-- Why a configuration cannot be used. -/
inductive Error where
  /-- A file cannot be read. -/
  | unreadable (path : Path) (fault : Fault)
  /-- A file does not say what a configuration file says. -/
  | malformed (path : Path)
  /-- A file names a version that is not known. -/
  | unknownVersion (path : Path) (reason : String)
  deriving DecidableEq

/-- The key of the version. -/
def versionKey : String :=
  "parser.version"

/-- The wording of an error. -/
def Error.message : Error → String
  | unreadable path fault =>
    "failed to read config file " ++ path.text ++ ": " ++ fault.message
  | malformed path => "failed to parse config file " ++ path.text
  | unknownVersion path reason =>
    "invalid value for '" ++ versionKey ++ "' in " ++ path.text ++ ": " ++ reason

end ContextQuery.Config
