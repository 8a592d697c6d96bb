import HeaderIndex.Text.Occurrence
import HeaderIndex.Text.Space
import HeaderIndex.Toolchain.System

/-!
# System include directories

The compiler `clang` lists the directories in which it looks for headers, one a line, between a line
that announces them and one that ends the list.
-/

namespace HeaderIndex.Toolchain

/-- The line in front of the directories. -/
def announces (line : String) : Bool :=
  Text.occursIn "#include <...> search starts here:".toList line.toList

/-- The line behind the directories. -/
def endsList (line : String) : Bool := "End of search list".toList.isPrefixOf line.toList

/-- Whether a line names a directory of frameworks, which holds no headers of C. -/
def isFramework (directory : String) : Bool :=
  "(framework directory)".toList.isSuffixOf directory.toList

/-- The directories in the compiler's output. -/
def includeDirectories (output : String) : List String :=
  let listed := (Text.lines output).dropWhile (!announces ·)
  let listed := listed.takeWhile fun line => announces line || !endsList line
  let directories := (listed.filter (!announces ·)).map fun line =>
    String.ofList (Text.trim line.toList)
  directories.filter fun directory => directory ≠ "" && !isFramework directory

/-- The file without contents that the compiler is given. -/
def nullFile (system : System) : String := if system.platform = "win32" then "NUL" else "/dev/null"

/-- The arguments that make the compiler list its directories. -/
def listingArguments (system : System) : List String := ["-v", "-x", "c", "-E", nullFile system]

/-- The front-end's arguments for the system's include directories.  There are none if the compiler
is not installed or does not end in time. -/
def systemIncludes (system : System) : Except ProgramError (List String) :=
  match system.program? "clang" with
  | none => .ok []
  | some clang =>
    match clang (listingArguments system) with
    | .finished _ stderr _ => .ok ((includeDirectories stderr).map ("-isystem" ++ ·))
    | .undecodable output => .error (.undecodable output)
    | .timedOut => .ok []
    | .refused => .error (.refused "clang")

end HeaderIndex.Toolchain
