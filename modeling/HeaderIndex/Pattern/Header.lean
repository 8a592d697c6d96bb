import HeaderIndex.Pattern.Glob
import HeaderIndex.Pattern.Regex.Parser
import HeaderIndex.Text.Quoted

/-!
# Header patterns

A pattern selects the header files that are read.  A path is also included in the source that is
parsed; a regular expression only selects among the files that others include.
-/

namespace HeaderIndex

/-- A path of a header, which may be a glob, or a regular expression with its source text. -/
inductive HeaderPattern where
  | path (text : String)
  | regex (source : String) (regex : Regex) (flags : RegexFlags)
  deriving DecidableEq, Repr

/-- The source text of a regular expression, and what is wrong with it. -/
structure PatternError where
  source : String
  error : RegexError
  deriving DecidableEq, Repr

namespace HeaderPattern

/-- The pattern of a regular expression, given the characters that have names. -/
def ofRegex (named : String → Option Char) (source : String) : Except PatternError HeaderPattern :=
  match Regex.parse named source with
  | .ok (expression, flags) => .ok (.regex source expression flags)
  | .error error => .error ⟨source, error⟩

/-- The regular expression in an argument between slashes. -/
def regexSource? (argument : String) : Option String :=
  match argument.toList with
  | '/' :: c :: rest =>
    if (c :: rest).getLast? = some '/' ∧ rest ≠ [] then some (String.ofList (c :: rest).dropLast)
    else none
  | _ => none

/-- The pattern that an argument of the command line stands for. -/
def ofArgument (named : String → Option Char) (argument : String) :
    Except PatternError HeaderPattern :=
  match regexSource? argument with
  | some source => ofRegex named source
  | none => .ok (.path argument)

/-- Whether a pattern selects a file.  A path selects the files that end with it, and as a glob those
that it stands for. -/
def selects (file : String) : HeaderPattern → Bool
  | path text => text.toList.isSuffixOf file.toList || Glob.isMatch text file
  | regex _ expression flags => expression.occursIn flags file

/-- The path of a pattern that is one. -/
def path? : HeaderPattern → Option String
  | path text => some text
  | regex _ _ _ => none

/-- The settings of a regular expression as they are shown. -/
def flagNames (flags : RegexFlags) : List String :=
  (if flags.template then ["re.TEMPLATE"] else []) ++
  (if flags.ignoreCase then ["re.IGNORECASE"] else []) ++
  (if flags.multiLine then ["re.MULTILINE"] else []) ++
  (if flags.dotAll then ["re.DOTALL"] else []) ++
  (if flags.spaced then ["re.VERBOSE"] else []) ++
  (if flags.ascii then ["re.ASCII"] else [])

/-- A pattern in messages.  Of a long expression only the beginning is shown. -/
def text : HeaderPattern → String
  | path text => text
  | regex source _ flags =>
    let names := flagNames flags
    let start := String.ofList ((Text.quoted source).toList.take 200)
    "re.compile(" ++ start ++ (if names = [] then "" else ", " ++ "|".intercalate names) ++ ")"

end HeaderPattern

end HeaderIndex
