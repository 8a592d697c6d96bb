import HeaderIndex.Proofs.Toolchain.Includes
import HeaderIndex.Session
import Mathlib.Data.List.Forall2

/-!
# Sequences of parses

A process parses one source after another.  In between it remembers which include directories the
system has, and of these nothing but what the system says (`Knows`).  So each parse does what it would
do alone.

* `selected_visibleFiles` — which files are read: each selected one once, and in order.
* `Deed`, `perform`, `performAll` — what a call does, and what a sequence of calls does.
* `perform_spec`, `performAll_fst` — a call does the same in every session.
* `performAll_commands` — the compiler is started at most once.
* `Served`, `performAll_independent` — what calls ask the front-end and what they come to, unless
  asking the compiler that one of them needs ends in an error.
-/

namespace HeaderIndex

namespace Session

/-! ## The files that are read -/

section Visible

variable {config : Config}

/-- The names of the included files of a unit, in order. -/
def includedFiles (unit : ParsedUnit) : List String := unit.includes.filterMap (unit.files[·]?)

theorem addVisible_nodup {files : List String} (h : files.Nodup) (file : String) :
    (addVisible config files file).Nodup := by
  unfold addVisible
  split
  · rename_i hnew
    simp only [Bool.and_eq_true, Bool.not_eq_true', List.contains_eq_mem, decide_eq_false_iff_not]
      at hnew
    refine List.nodup_append.2 ⟨h, List.pairwise_singleton _ _, ?_⟩
    rintro seen hseen _ hfile rfl
    exact hnew.1 (List.mem_singleton.1 hfile ▸ hseen)
  · exact h

theorem foldl_addVisible_nodup (files : List String) :
    ∀ {seen : List String}, seen.Nodup → (files.foldl (addVisible config) seen).Nodup := by
  induction files with
  | nil => exact id
  | cons file files ih => exact fun h => ih (addVisible_nodup h file)

/-- A file that was seen, or that is not selected, makes no difference. -/
theorem eraseDups_append_cons_of_mem {file : String} {seen : List String} (h : file ∈ seen)
    (files : List String) : (seen ++ file :: files).eraseDups = (seen ++ files).eraseDups := by
  have hcontains : ¬ seen.contains file = false := by simp [h]
  rw [List.eraseDups_append, List.eraseDups_append, List.cons_removeAll, if_neg hcontains]

/-- Files are added in order, without those that are not selected and those that were seen. -/
theorem foldl_addVisible_eq (files : List String) :
    ∀ {seen : List String}, seen.eraseDups = seen →
      files.foldl (addVisible config) seen = (seen ++ files.filter config.selects).eraseDups := by
  induction files with
  | nil => exact fun h => by rw [List.foldl_nil, List.filter_nil, List.append_nil, h]
  | cons file files ih =>
    intro seen hseen
    rw [List.foldl_cons]
    by_cases hselected : config.selects file = true
    · rw [List.filter_cons_of_pos hselected]
      by_cases hmem : file ∈ seen
      · have hadd : addVisible config seen file = seen := by simp [addVisible, hmem]
        rw [hadd, ih hseen, eraseDups_append_cons_of_mem hmem]
      · have hadd : addVisible config seen file = seen ++ [file] := by
          simp [addVisible, hmem, hselected]
        have hnew : (seen ++ [file]).eraseDups = seen ++ [file] := by
          rw [List.eraseDups_append, hseen, List.cons_removeAll, if_pos (by simp [hmem])]
          rfl
        rw [hadd, ih hnew, List.append_assoc, List.singleton_append]
    · have hadd : addVisible config seen file = seen := by simp [addVisible, hselected]
      rw [hadd, ih hseen, List.filter_cons_of_neg hselected]

/-- The files that are read: the main file and then the included ones in order, as far as they are
selected and each of them once. -/
structure Selected (config : Config) (path : String) (unit : ParsedUnit) (visible : List String) :
    Prop where
  ordered : visible = ((path :: includedFiles unit).filter config.selects).eraseDups
  once : visible.Nodup

theorem selected_visibleFiles (config : Config) (unit : ParsedUnit) (path : String) :
    Selected config path unit (visibleFiles config unit path) :=
  ⟨foldl_addVisible_eq _ rfl, foldl_addVisible_nodup _ List.nodup_nil⟩

end Visible

/-! ## Calls -/

/-- A call: the configuration and the source that are given to be parsed. -/
structure Call where
  config : Config
  source : Source

/-- What is seen of a call: what it came to, what it asked the front-end, and the lines that it wrote
to standard error. -/
structure Deed where
  outcome : Except ParseError Report
  requests : List Request
  messages : List String

/-- What a call does in a session. -/
def perform (environment : Environment) (call : Call) (session : Session) : Deed × Session :=
  let (outcome, after) := session.parse environment call.config call.source
  (⟨outcome, after.requests.drop session.requests.length,
    after.messages.drop session.messages.length⟩, after)

/-- What calls do, one after the other, in one session. -/
def performAll (environment : Environment) : List Call → Session → List Deed × Session
  | [], session => ([], session)
  | call :: calls, session =>
    let (deed, after) := perform environment call session
    let (deeds, last) := performAll environment calls after
    (deed :: deeds, last)

/-! ## What a session knows -/

variable {environment : Environment} {session : Session} {call : Call}

/-- What a session takes for the system's include directories is what the system says. -/
def Knows (environment : Environment) (session : Session) : Prop :=
  ∀ includes, session.includes = some includes →
    Toolchain.systemIncludes environment.system = .ok includes

theorem knows_initial : Knows environment .initial := nofun

/-- The command that makes the compiler list its directories. -/
def listing (environment : Environment) : String × List String :=
  ("clang", Toolchain.listingArguments environment.system)

/-- The arguments for the system's include directories that a source gets. -/
def includesFor (environment : Environment) (source : Source) :
    Except ProgramError (List String) :=
  if source.withSystemIncludes then Toolchain.systemIncludes environment.system else .ok []

/-- The arguments that it gets in a session, which may know them. -/
def includesIn (environment : Environment) (source : Source) (session : Session) :
    Except ProgramError (List String) :=
  if source.withSystemIncludes then (session.systemIncludes environment).1 else .ok []

/-- The session after a source got the arguments for the system's include directories. -/
def informed (environment : Environment) (source : Source) (session : Session) : Session :=
  if source.withSystemIncludes then (session.systemIncludes environment).2 else session

/-- The session after the front-end was asked. -/
def asked (request : Request) (session : Session) : Session :=
  { session with requests := session.requests ++ [request] }

theorem systemIncludes_fst (h : Knows environment session) :
    (session.systemIncludes environment).1 = Toolchain.systemIncludes environment.system := by
  unfold systemIncludes
  cases hknown : session.includes with
  | some includes => exact (h includes hknown).symm
  | none => cases Toolchain.systemIncludes environment.system <;> rfl

theorem includesIn_eq (h : Knows environment session) (source : Source) :
    includesIn environment source session = includesFor environment source := by
  rw [includesIn, includesFor, systemIncludes_fst h]

/-- The arguments for the system's include directories that are known after they were asked for. -/
def knownAfter (environment : Environment) (source : Source) (session : Session) :
    Option (List String) :=
  if source.withSystemIncludes then
    session.includes <|> (Toolchain.systemIncludes environment.system).toOption
  else session.includes

/-- The command by which they are asked for, unless they are known or not wanted. -/
def startedFor (environment : Environment) (source : Source) (session : Session) :
    List (String × List String) :=
  if source.withSystemIncludes && session.includes.isNone then [listing environment] else []

/-- Nothing else becomes of a session in which they are asked for. -/
theorem informed_eq (environment : Environment) (source : Source) (session : Session) :
    informed environment source session =
      { session with
        includes := knownAfter environment source session
        commands := session.commands ++ startedFor environment source session } := by
  obtain ⟨loader, includes, commands, requests, messages⟩ := session
  unfold informed knownAfter startedFor systemIncludes
  cases source.withSystemIncludes with
  | false => simp
  | true =>
    cases includes with
    | some includes => simp
    | none => cases Toolchain.systemIncludes environment.system <;> simp [listing, Except.toOption]

/-! ## What a call does -/

/-- What the answer of the front-end is read as. -/
def reading (config : Config) (path : String) : Option ParsedUnit → Except ParseError Report
  | none => .error .unparsed
  | some unit =>
    let visible := visibleFiles config unit path
    match (Reader.read config unit visible).result with
    | .ok index => .ok ⟨path, visible, unit.messages, index⟩
    | .error error => .error (.read error)

/-- What is told while the answer of the front-end is read: its diagnostics, then the warnings. -/
def told (config : Config) (path : String) : Option ParsedUnit → List String
  | none => []
  | some unit =>
    unit.messages.map ("clang diagnostic: " ++ ·) ++
      (Reader.read config unit (visibleFiles config unit path)).warnings.map Reader.Warning.text

theorem readUnit_eq (config : Config) (path : String) (unit : ParsedUnit) (session : Session) :
    readUnit config path unit session =
      (reading config path (some unit), session.tell (told config path (some unit))) := by
  unfold readUnit reading told tell
  dsimp only
  rw [List.append_assoc]
  cases (Reader.read config unit (visibleFiles config unit path)).result <;> rfl

/-- A source is parsed by reading the front-end's answer, unless the arguments cannot be had. -/
theorem parse_eq (environment : Environment) (config : Config) (source : Source)
    (session : Session) :
    session.parse environment config source =
      match includesIn environment source session with
      | .error error => (.error (.program error), informed environment source session)
      | .ok includes =>
        let request := request config source includes
        let answer := environment.frontend request
        (reading config source.path answer,
          (asked request (informed environment source session)).tell
            (told config source.path answer)) := by
  -- what is done with the arguments once they are there
  have hasked : ∀ (includes : List String) (before : Session),
      (match environment.frontend (request config source includes) with
        | none => (.error .unparsed, asked (request config source includes) before)
        | some unit =>
          readUnit config source.path unit (asked (request config source includes) before)) =
        (reading config source.path (environment.frontend (request config source includes)),
          (asked (request config source includes) before).tell
            (told config source.path (environment.frontend (request config source includes)))) := by
    intro includes before
    cases environment.frontend (request config source includes) with
    | none => simp [reading, told, tell]
    | some unit => exact readUnit_eq config source.path unit _
  unfold parse includesIn informed
  cases source.withSystemIncludes with
  | false => exact hasked [] session
  | true =>
    rw [if_pos rfl, if_pos rfl, if_pos rfl]
    rcases session.systemIncludes environment with ⟨error | includes, after⟩
    · rfl
    · exact hasked includes after

/-- What a call does, whatever was done before. -/
def deed (environment : Environment) (call : Call) : Deed :=
  match includesFor environment call.source with
  | .error error => ⟨.error (.program error), [], []⟩
  | .ok includes =>
    let request := request call.config call.source includes
    let answer := environment.frontend request
    ⟨reading call.config call.source.path answer, [request],
      told call.config call.source.path answer⟩

/-- **One step.**  In a session that knows no more than the system says, a call does what it does
alone, and leaves nothing behind but what the session was informed of. -/
theorem perform_spec (h : Knows environment session) (call : Call) :
    (perform environment call session).1 = deed environment call ∧
      (perform environment call session).2.includes =
        knownAfter environment call.source session ∧
      (perform environment call session).2.commands =
        session.commands ++ startedFor environment call.source session := by
  unfold perform deed
  rw [parse_eq, includesIn_eq h, informed_eq]
  cases includesFor environment call.source with
  | error error => simp
  | ok includes => simp [asked, tell]

theorem knows_perform (h : Knows environment session) (call : Call) :
    Knows environment (perform environment call session).2 := by
  obtain ⟨-, hincludes, -⟩ := perform_spec h call
  intro includes hknown
  rw [hincludes, knownAfter] at hknown
  split at hknown
  · cases hbefore : session.includes with
    | some known =>
      rw [hbefore] at hknown
      exact h _ (hbefore.trans hknown)
    | none =>
      rw [hbefore] at hknown
      revert hknown
      cases Toolchain.systemIncludes environment.system with
      | ok found => exact fun hknown => by cases hknown; rfl
      | error error => exact fun hknown => by cases hknown
  · exact h _ hknown

/-! ## Sequences of calls -/

theorem performAll_fst (calls : List Call) : ∀ {session : Session}, Knows environment session →
    (performAll environment calls session).1 = calls.map (deed environment) := by
  induction calls with
  | nil => exact fun _ => rfl
  | cons call calls ih =>
    intro session h
    rw [List.map_cons, ← (perform_spec h call).1, ← ih (knows_perform h call)]
    rfl

/-- If the compiler answers, it is started by the first call that wants its directories. -/
theorem performAll_commands (calls : List Call)
    (hanswers : ∀ call ∈ calls, call.source.withSystemIncludes = true →
      ∀ error, ¬ Toolchain.ClangFails environment.system error) :
    ∀ {session : Session}, Knows environment session →
      (performAll environment calls session).2.commands = session.commands ++
        if calls.any (·.source.withSystemIncludes) && session.includes.isNone then
          [listing environment] else [] := by
  induction calls with
  | nil => exact fun _ => (List.append_nil _).symm
  | cons call calls ih =>
    intro session h
    obtain ⟨-, hincludes, hcommands⟩ := perform_spec h call
    have hrest := ih (fun call hcall => hanswers call (List.mem_cons_of_mem _ hcall))
      (knows_perform h call)
    rw [hcommands, hincludes, List.append_assoc] at hrest
    refine hrest.trans (congrArg (session.commands ++ ·) ?_)
    rw [List.any_cons, knownAfter, startedFor]
    cases hwanted : call.source.withSystemIncludes with
    | false => simp
    | true =>
      rcases Toolchain.systemIncludes_cases environment.system with ⟨_, hfails, -⟩ | ⟨-, _, hfound⟩
      · exact absurd hfails (hanswers call List.mem_cons_self hwanted _)
      · cases session.includes <;> simp [hfound, Except.toOption]

/-! ## What calls are answered -/

/-- A report says what the front-end found in a source: all its diagnostics, and what is read in the
selected files. -/
structure Describes (config : Config) (source : String) (unit : ParsedUnit) (report : Report) :
    Prop where
  path : report.path = source
  visible : Selected config source unit report.visibleFiles
  diagnostics : report.diagnostics = unit.messages
  index : (Reader.read config unit report.visibleFiles).result = .ok report.index

/-- The outcome of a call by the answer of the front-end. -/
inductive Outcome (config : Config) (source : String) :
    Option ParsedUnit → Except ParseError Report → Prop
  /-- the front-end gives up -/
  | unparsed : Outcome config source none (.error .unparsed)
  | read {unit : ParsedUnit} {report : Report} (describes : Describes config source unit report) :
      Outcome config source (some unit) (.ok report)
  | unread {unit : ParsedUnit} {visible : List String} {error : Reader.ReadError}
      (selected : Selected config source unit visible)
      (fails : (Reader.read config unit visible).result = .error error) :
      Outcome config source (some unit) (.error (.read error))

/-- What a call asks the front-end if the system's include directories make these arguments: they
stand between the directories of the source and the arguments of the configuration. -/
def Call.request (includes : List String) (call : Call) : Request where
  path := call.source.path
  arguments := call.source.includeDirectories.map ("-I" ++ ·) ++
    (if call.source.withSystemIncludes then includes else []) ++ call.config.cflags ++
    call.source.extraArguments
  unsaved := [(call.source.path, call.source.code)]

/-- A call asks the front-end once and comes to what it answers. -/
structure Answered (environment : Environment) (includes : List String) (call : Call)
    (deed : Deed) : Prop where
  requests : deed.requests = [call.request includes]
  outcome : Outcome call.config call.source.path
    (environment.frontend (call.request includes)) deed.outcome
  messages : deed.messages =
    told call.config call.source.path (environment.frontend (call.request includes))

/-- Calls in a new process are served: the compiler is started once if any of them wants its
directories, these are what comes of a run of the compiler, and each call is answered with them. -/
structure Served (environment : Environment) (calls : List Call) : Prop where
  started : (performAll environment calls .initial).2.commands =
    if calls.any (·.source.withSystemIncludes) then [listing environment] else []
  answered : ∃ includes, Toolchain.Detects environment.system includes ∧
    List.Forall₂ (Answered environment includes) calls (performAll environment calls .initial).1

theorem outcome_reading (config : Config) (path : String) (answer : Option ParsedUnit) :
    Outcome config path answer (reading config path answer) := by
  cases answer with
  | none => exact .unparsed
  | some unit =>
    unfold reading
    dsimp only
    cases hread : (Reader.read config unit (visibleFiles config unit path)).result with
    | ok index =>
      exact .read ⟨rfl, selected_visibleFiles config unit path, rfl, hread⟩
    | error error => exact .unread (selected_visibleFiles config unit path) hread

theorem answered_deed {includes : List String}
    (h : call.source.withSystemIncludes = true →
      Toolchain.systemIncludes environment.system = .ok includes) :
    Answered environment includes call (deed environment call) := by
  have hrequest : includesFor environment call.source =
      .ok (if call.source.withSystemIncludes then includes else []) := by
    unfold includesFor
    split
    · rename_i hwanted
      exact h hwanted
    · rfl
  unfold deed
  rw [hrequest]
  exact ⟨rfl, outcome_reading _ _ _, rfl⟩

/-- A call that needs a compiler which does not answer fails and asks nothing. -/
theorem deed_of_fails {error : ProgramError}
    (hfails : Toolchain.ClangFails environment.system error)
    (hwanted : call.source.withSystemIncludes = true) :
    deed environment call = ⟨.error (.program error), [], []⟩ := by
  have hincludes : includesFor environment call.source = .error error := by
    unfold includesFor
    rw [if_pos hwanted]
    exact Toolchain.systemIncludes_eq_error_iff.2 hfails
  unfold deed
  rw [hincludes]

/-- Calls are not served if one of them needs a compiler which does not answer. -/
theorem not_served_of_fails {calls : List Call} {error : ProgramError}
    (hfails : Toolchain.ClangFails environment.system error) (hmem : call ∈ calls)
    (hwanted : call.source.withSystemIncludes = true) : ¬ Served environment calls := by
  rintro ⟨-, includes, -, hanswered⟩
  rw [performAll_fst calls knows_initial, List.forall₂_map_right_iff, List.forall₂_same]
    at hanswered
  have hrequests := (hanswered call hmem).requests
  rw [deed_of_fails hfails hwanted] at hrequests
  cases hrequests

theorem served_of_answers {calls : List Call}
    (hanswers : ∀ call ∈ calls, call.source.withSystemIncludes = true →
      ∀ error, ¬ Toolchain.ClangFails environment.system error) : Served environment calls := by
  refine ⟨?_, ?_⟩
  · rw [performAll_commands calls hanswers knows_initial]
    simp [initial]
  · obtain ⟨includes, hdetects⟩ := Toolchain.exists_detects environment.system
    refine ⟨includes, hdetects, ?_⟩
    rw [performAll_fst calls knows_initial, List.forall₂_map_right_iff, List.forall₂_same]
    exact fun call hcall => answered_deed fun hwanted =>
      hdetects.systemIncludes_eq (hanswers call hcall hwanted)

/-- **Parses in one process do not influence each other.**  Whatever calls are made one after the
other, each of them comes to, asks and tells what it does alone in a new process.  The compiler is
started at most once, its directories reach each call that wants them in the same way, and each call
is answered by the front-end; unless the system refuses to start an installed compiler, or what this
writes is no text, and one of the calls wants its directories, and only then. -/
theorem performAll_independent (environment : Environment) (calls : List Call) :
    (performAll environment calls .initial).1 =
        calls.map (fun call => (perform environment call .initial).1) ∧
      (Served environment calls ↔ ¬ ((∃ error, Toolchain.ClangFails environment.system error) ∧
        ∃ call ∈ calls, call.source.withSystemIncludes = true)) := by
  refine ⟨?_, ?_, ?_⟩
  · rw [performAll_fst calls knows_initial]
    exact List.map_congr_left fun call _ => ((perform_spec knows_initial call).1).symm
  · rintro hserved ⟨⟨error, hfails⟩, call, hmem, hwanted⟩
    exact not_served_of_fails hfails hmem hwanted hserved
  · intro h
    exact served_of_answers fun call hcall hwanted error hfails =>
      h ⟨⟨error, hfails⟩, call, hcall, hwanted⟩

/-- An environment in which the system refuses to start any program. -/
def refusingEnvironment : Environment where
  system := ⟨"linux", fun _ => some fun _ => .refused, fun _ => [], fun _ => false⟩
  loading := ⟨fun _ => true, none, true, .ok ""⟩
  frontend := fun _ => some .empty
  named := fun _ => none

/-- Two calls want directories of a compiler that is not started.  Nothing is what comes of asking it,
but both calls fail instead of being answered without these directories, and each of them tries to
start the compiler. -/
theorem performAll_refused_not_served :
    let config : Config :=
      ⟨Settings.minimal "test" [.path "test.h"], by decide, by simp [Settings.minimal]⟩
    let call : Call := ⟨config, ⟨"test.h", "int f(void);", ["inc"], [], true⟩⟩
    let performed := performAll refusingEnvironment [call, call] .initial
    Toolchain.Detects refusingEnvironment.system [] ∧
      performed.1.map (·.outcome) =
        [.error (.program (.refused "clang")), .error (.program (.refused "clang"))] ∧
      performed.1.map (·.requests) = [[], []] ∧
      performed.2.commands = [listing refusingEnvironment, listing refusingEnvironment] ∧
      ¬ Served refusingEnvironment [call, call] := by
  intro config call performed
  have hfails : Toolchain.ClangFails refusingEnvironment.system (.refused "clang") :=
    .refused rfl rfl
  refine ⟨.nothing ?_, rfl, rfl, rfl, not_served_of_fails hfails List.mem_cons_self rfl⟩
  rintro clang ⟨⟩ stdout stderr status ⟨⟩

end Session

end HeaderIndex
