import HeaderIndex.Frontend.Recording
import HeaderIndex.Json.Reader

/-!
# The program

Standard input holds a recording of what the front-end reported, as the member `tu` of a JSON object,
of what programs answered, as its member `programs`, and of the values of the options, as its member
`options`.  The dump goes to standard output.
-/

namespace HeaderIndex

/-- The environment that a recording stands for.  Nothing has to be loaded for it, the front-end takes
every source, and no character is known by a name. -/
def Recording.environment (recording : Json) : Environment where
  system := Recording.system "linux" ((recording.get? "programs").getD .null) .null .null
  loading := ⟨fun _ => true, none, true, .ok ""⟩
  frontend _ := some (Recording.unit ((recording.get? "tu").getD .null))
  named _ := none

/-- Writes what a run leaves behind, and gives its status. -/
def CommandLine.finish (ending : Ending) (session : Session) : IO UInt32 := do
  IO.eprint (stderr ending session)
  IO.print (ending.shownText ++ ending.written)
  return ending.status.toUInt32

end HeaderIndex

/-- Runs the program on the recording in standard input. -/
def main : IO UInt32 := do
  let input ← (← IO.getStdin).readToEnd
  match HeaderIndex.Json.parse? input with
  | none =>
    IO.eprintln "Error: standard input is no JSON"
    return 1
  | some recording =>
    let environment := HeaderIndex.Recording.environment recording
    let options := HeaderIndex.Recording.options ((recording.get? "options").getD .null)
    let (ending, session) := HeaderIndex.CommandLine.run environment options .initial
    HeaderIndex.CommandLine.finish ending session
