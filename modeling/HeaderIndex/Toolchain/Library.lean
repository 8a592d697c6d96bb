import HeaderIndex.Name.Format
import HeaderIndex.Text.Quoted
import HeaderIndex.Text.Space
import HeaderIndex.Toolchain.System

/-!
# Finding the front-end's library

The front-end `libclang` is a shared library.  It is loaded from where the loader looks by default,
or else from the first of the platform's usual places that has it.  The choice is made once.

* `searchPaths`, `libraryPath?` — the usual places and the first file among them.
* `Loader.isAvailable`, `Loader.get` — loading the front-end by name.
* `installedVersion`, `missingMessage` — what is told when it cannot be loaded.
-/

namespace HeaderIndex.Toolchain

/-! ## Places -/

/-- The files that a glob stands for, the last one in order first. -/
def newestFirst (system : System) (glob : String) : List String :=
  ((system.glob glob).mergeSort (fun a b => decide (a ≤ b))).reverse

/-- Where the library may be on a platform, the preferred place first. -/
def searchPaths (system : System) : List String :=
  if system.platform = "darwin" then
    "/opt/homebrew/opt/llvm/lib/libclang.dylib" ::
      newestFirst system "/opt/homebrew/Cellar/llvm/*/lib/libclang.dylib" ++
      "/usr/local/opt/llvm/lib/libclang.dylib" ::
      newestFirst system "/usr/local/Cellar/llvm/*/lib/libclang.dylib" ++
      ["/Library/Developer/CommandLineTools/usr/lib/libclang.dylib"]
  else if system.platform = "linux" then
    newestFirst system "/usr/lib/llvm-*/lib/libclang.so*" ++
      ["/usr/lib64/libclang.so", "/usr/lib/libclang.so", "/usr/local/lib/libclang.so"]
  else if system.platform = "win32" then ["C:\\Program Files\\LLVM\\bin\\libclang.dll"]
  else []

/-- The first place where there is a file. -/
def libraryPath? (system : System) : Option String := (searchPaths system).find? system.isFile

/-! ## Versions -/

/-- The standard output of a program, if it is installed and ends well. -/
def outputOf (system : System) (program : String) (arguments : List String) :
    Except Undecodable (Option String) :=
  match system.program? program with
  | none => .ok none
  | some answer =>
    match answer arguments with
    | .finished stdout _ 0 => .ok (some stdout)
    | .undecodable output => .error output
    | _ => .ok none

/-- The number in front of the first point of a text. -/
def majorVersion? (output : String) : Option String :=
  let major := (Text.trim output.toList).takeWhile (· ≠ '.')
  if major ≠ [] ∧ major.all Text.isDigitSign then some (String.ofList major) else none

/-- The number behind the first mention of a version of `clang`. -/
def mentionedVersion? : List Char → Option String
  | [] => none
  | c :: rest =>
    let mention := "clang version ".toList
    let number := ((c :: rest).drop mention.length).takeWhile Text.isDigit
    if mention.isPrefixOf (c :: rest) ∧ number ≠ [] then some (String.ofList number)
    else mentionedVersion? rest

/-- The version of the compiler on the system, if one of its programs tells it. -/
def installedVersion (system : System) : Except Undecodable (Option String) := do
  match (← outputOf system "llvm-config" ["--version"]).bind majorVersion? with
  | some version => return some version
  | none =>
    let output ← outputOf system "clang" ["--version"]
    return output.bind fun output => mentionedVersion? output.toList

/-- What is told when the library cannot be loaded and there is a given version of the compiler. -/
def missingText (version : Option String) : String :=
  "libclang backend could not load the libclang library.\n" ++
  match version with
  | some version =>
    "Detected LLVM version " ++ version ++ " on your system.\n" ++
    "Install matching bindings with: pip install 'libclang==" ++ version ++ ".*'"
  | none =>
    "Install it with: pip install libclang\n" ++
    "or point LD_LIBRARY_PATH (DYLD_LIBRARY_PATH on macOS) at an LLVM installation."

/-- What is told when the library cannot be loaded. -/
def missingMessage (system : System) : Except Undecodable String :=
  (installedVersion system).map missingText

/-! ## Loading -/

/-- How libraries are loaded in a process. -/
structure Loading where
  /-- whether loading works from a file, or by default if there is none -/
  loads : Option String → Bool
  /-- the file found in the usual places -/
  found : Option String
  /-- whether there is any front-end to load a library for -/
  supported : Bool
  /-- what is told when loading fails -/
  missing : Except Undecodable String

/-- The state of the choice: whether it was made, and the file chosen instead of the default. -/
structure Loader where
  decided : Bool
  file : Option String
  deriving DecidableEq, Repr

/-- No choice was made yet. -/
def Loader.initial : Loader := ⟨false, none⟩

/-- Why there is no front-end. -/
inductive LoaderError where
  | unknown (name : String)
  | missing (message : String)
  /-- nor can it be told why -/
  | undecodable (output : Undecodable)
  deriving DecidableEq, Repr

/-- The name of the one front-end there is. -/
def frontendName : String := "libclang"

/-- The text of an error. -/
def LoaderError.message : LoaderError → String
  | unknown name => "Unknown backend: " ++ Text.quoted name ++ ". Available: " ++ frontendName
  | missing message => message
  | undecodable output => output.message

/-- The error of a library that cannot be loaded. -/
def Loading.error (loading : Loading) : LoaderError :=
  match loading.missing with
  | .ok message => .missing message
  | .error output => .undecodable output

namespace Loader

/-- Whether the library can be loaded.  The first time a file is chosen if the default fails. -/
def configure (loading : Loading) (loader : Loader) : Bool × Loader :=
  if loader.decided || loading.loads loader.file then
    (loading.loads loader.file, { loader with decided := true })
  else
    match loading.found with
    | some file => (loading.loads (some file), ⟨true, some file⟩)
    | none => (false, { loader with decided := true })

/-- Whether a front-end can be had by a name. -/
def isAvailable (loading : Loading) (name : String) (loader : Loader) : Bool × Loader :=
  if name = frontendName ∧ loading.supported then loader.configure loading else (false, loader)

/-- The front-ends that can be had. -/
def available (loading : Loading) (loader : Loader) : List String × Loader :=
  let (is, loader) := loader.isAvailable loading frontendName
  (if is then [frontendName] else [], loader)

/-- The name of the front-end that a name stands for; no name and an empty one mean the default. -/
def get (loading : Loading) (name : Option String) (loader : Loader) :
    Except LoaderError String × Loader :=
  let name := if name = none ∨ name = some "" then frontendName else name.getD ""
  if name ≠ frontendName then (.error (.unknown name), loader)
  else
    let (is, loader) := loader.isAvailable loading name
    (if is then .ok name else .error loading.error, loader)

end Loader

end HeaderIndex.Toolchain
