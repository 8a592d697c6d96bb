import HeaderIndex.Name.Format
import HeaderIndex.Pattern.Header
import HeaderIndex.ReservedWords

/-!
# Configuration

The settings of a run.  A configuration names a module and at least one header; `Config.make` refuses
what does not.
-/

namespace HeaderIndex

/-- The settings of a run, as given by a user. -/
structure Settings where
  moduleName : String
  headers : List HeaderPattern
  ffiLib : Option String
  prefixes : List String
  blocking : List String
  reservedWords : List String
  cflags : List String
  deriving Repr

/-- Settings that are left out: no library, no prefixes, and the reserved words of Python. -/
def Settings.minimal (moduleName : String) (headers : List HeaderPattern) : Settings :=
  ⟨moduleName, headers, none, [], [], ReservedWords.python, []⟩

/-- The settings of a run.  Blocking functions and reserved words are sets, kept in order. -/
structure Config extends Settings where
  moduleName_ne : moduleName ≠ ""
  headers_ne : headers ≠ []

/-- What is missing from settings. -/
inductive ConfigError where
  | noModuleName
  | noHeaders
  deriving DecidableEq, Repr

/-- The text of an error. -/
def ConfigError.message : ConfigError → String
  | .noModuleName => "No module name given."
  | .noHeaders => "No headers given."

namespace Config

/-- The configuration with given settings. -/
def make (settings : Settings) : Except ConfigError Config :=
  if hm : settings.moduleName = "" then .error .noModuleName
  else if hh : settings.headers = [] then .error .noHeaders
  else .ok {
    settings with
    blocking := sortedTexts settings.blocking
    reservedWords := sortedTexts settings.reservedWords
    moduleName_ne := hm
    headers_ne := hh }

/-- The headers that are included by their paths. -/
def includeHeaders (config : Config) : List String := config.headers.filterMap HeaderPattern.path?

/-- Whether one of the headers stands for a file. -/
def selects (config : Config) (file : String) : Bool := config.headers.any (·.selects file)

/-- Whether a function was said to block. -/
def isBlocking (config : Config) (function : String) : Bool := config.blocking.contains function

end Config

end HeaderIndex
