import HeaderIndex.Toolchain.Includes

/-!
# The directories that the compiler lists

The compiler's output is specified without saying how it is searched: some lines stand in front of the
list, one announces it, and the list goes on until a line ends it.

* `Listed`, `exists_listed` — the lines of the list; every output has some, or announces none.
* `Detects`, `exists_detects` — what a run of the compiler comes to: the directories of the list if
  the run was finished, and none otherwise.
* `ClangFails`, `systemIncludes_eq_error_iff` — when asking the compiler ends in an error.
* `systemIncludes_eq_ok_iff` — the arguments for the system's include directories are what a run comes
  to otherwise.
-/

namespace HeaderIndex.Toolchain

/-! ## The list -/

/-- The lines that stand in an output's list of directories.  Lines that announce a list do not end
it. -/
inductive Listed : List String → List String → Prop
  /-- no list is announced -/
  | nothing {lines : List String} (silent : ∀ line ∈ lines, announces line = false) :
      Listed lines []
  /-- the list stands behind the first line that announces one, up to the first line that ends it -/
  | between {before listed rest : List String} {start : String}
      (silent : ∀ line ∈ before, announces line = false) (announced : announces start = true)
      (going : ∀ line ∈ listed, announces line = true ∨ endsList line = false)
      (ended : ∀ line ∈ rest.head?, announces line = false ∧ endsList line = true) :
      Listed (before ++ start :: (listed ++ rest)) listed

/-- The directories among lines: each line without the white space around it, but no blank lines, no
directories of frameworks, and no line that announces a list. -/
def directories (lines : List String) : List String :=
  ((lines.filter (!announces ·)).map fun line => String.ofList (Text.trim line.toList)).filter
    fun directory => directory ≠ "" && !isFramework directory

/-- Every output lists some lines. -/
theorem exists_listed (lines : List String) : ∃ listed, Listed lines listed := by
  have hsilent : ∀ line ∈ lines.takeWhile (!announces ·), announces line = false := by
    intro line hline
    simpa using List.all_eq_true.1 List.all_takeWhile line hline
  have hsplit := List.takeWhile_append_dropWhile (p := (!announces ·)) (l := lines)
  cases hbehind : lines.dropWhile (!announces ·) with
  | nil =>
    rw [hbehind, List.append_nil] at hsplit
    exact ⟨[], .nothing (hsplit ▸ hsilent)⟩
  | cons start behind =>
    have hannounced : announces start = true := by
      simpa [hbehind] using List.head?_dropWhile_not (!announces ·) lines
    rw [hbehind, ← List.takeWhile_append_dropWhile (l := behind)
      (p := fun line => announces line || !endsList line)] at hsplit
    rw [← hsplit]
    refine ⟨_, .between hsilent hannounced (fun line hline => ?_) (fun line hline => ?_)⟩
    · simpa using List.all_eq_true.1 List.all_takeWhile line hline
    · have hnot := List.head?_dropWhile_not (fun line => announces line || !endsList line) behind
      rw [Option.mem_def.1 hline] at hnot
      simpa using hnot

/-- The directories found in an output are those in its list. -/
theorem Listed.includeDirectories_eq {output : String} {listed : List String}
    (h : Listed (Text.lines output) listed) : includeDirectories output = directories listed := by
  unfold includeDirectories
  revert h
  generalize Text.lines output = lines
  intro h
  cases h with
  | nothing silent =>
    have hnone : lines.dropWhile (!announces ·) = [] := by
      rw [← List.append_nil lines,
        List.dropWhile_append_of_pos fun line hline => by simp [silent line hline], List.dropWhile_nil]
    simp [hnone, directories]
  | @between before listed rest start silent announced going ended =>
    have hbehind : (before ++ start :: (listed ++ rest)).dropWhile (!announces ·) =
        start :: (listed ++ rest) := by
      rw [List.dropWhile_append_of_pos fun line hline => by simp [silent line hline],
        List.dropWhile_cons_of_neg (by simp [announced])]
    have hrest : rest.takeWhile (fun line => announces line || !endsList line) = [] := by
      cases rest with
      | nil => rfl
      | cons line rest =>
        obtain ⟨hsilent, hends⟩ := ended line rfl
        exact List.takeWhile_cons_of_neg (by simp [hsilent, hends])
    have hlist : (start :: (listed ++ rest)).takeWhile
        (fun line => announces line || !endsList line) = start :: listed := by
      rw [List.takeWhile_cons_of_pos (by simp [announced]),
        List.takeWhile_append_of_pos fun line hline => by simpa using going line hline,
        hrest, List.append_nil]
    have hstart : (start :: listed).filter (!announces ·) = listed.filter (!announces ·) :=
      List.filter_cons_of_neg (by simp [announced])
    simp only [hbehind, hlist, hstart, directories]

/-! ## Runs of the compiler -/

/-- Asking an installed compiler for the directories ends in an error. -/
inductive ClangFails (system : System) : ProgramError → Prop
  /-- the system refuses to start it -/
  | refused {clang : List String → ProgramResult} (installed : system.program? "clang" = some clang)
      (refused : clang (listingArguments system) = .refused) : ClangFails system (.refused "clang")
  /-- what it writes is no text -/
  | undecodable {clang : List String → ProgramResult} {output : Undecodable}
      (installed : system.program? "clang" = some clang)
      (written : clang (listingArguments system) = .undecodable output) :
      ClangFails system (.undecodable output)

/-- What asking the compiler for the system's include directories comes to as arguments. -/
inductive Detects (system : System) : List String → Prop
  /-- a finished run lists directories -/
  | listed {clang : List String → ProgramResult} {stdout stderr : String} {status : Int}
      {listed : List String} (installed : system.program? "clang" = some clang)
      (finished : clang (listingArguments system) = .finished stdout stderr status)
      (lists : Listed (Text.lines stderr) listed) :
      Detects system ((directories listed).map ("-isystem" ++ ·))
  /-- there is no compiler, or it is not run to its end and understood for any reason -/
  | nothing (unfinished : ∀ clang, system.program? "clang" = some clang →
        ∀ stdout stderr status, clang (listingArguments system) ≠ .finished stdout stderr status) :
      Detects system []

theorem systemIncludes_eq_error_iff {system : System} {error : ProgramError} :
    systemIncludes system = .error error ↔ ClangFails system error := by
  constructor
  · intro h
    unfold systemIncludes at h
    cases hclang : system.program? "clang" with
    | none =>
      rw [hclang] at h
      cases h
    | some clang =>
      simp only [hclang] at h
      cases hrun : clang (listingArguments system) <;> rw [hrun] at h <;> cases h
      · exact .undecodable hclang hrun
      · exact .refused hclang hrun
  · rintro (⟨installed, refused⟩ | ⟨installed, written⟩)
    · simp only [systemIncludes, installed, refused]
    · simp only [systemIncludes, installed, written]

/-- A run comes to the arguments for the system's include directories, or to an error. -/
theorem systemIncludes_cases (system : System) :
    (∃ error, ClangFails system error ∧ systemIncludes system = .error error) ∨
      ((∀ error, ¬ ClangFails system error) ∧ ∃ includes, systemIncludes system = .ok includes) := by
  cases hincludes : systemIncludes system with
  | error error => exact .inl ⟨error, systemIncludes_eq_error_iff.1 hincludes, rfl⟩
  | ok includes =>
    refine .inr ⟨fun error hfails => ?_, includes, rfl⟩
    cases hincludes.symm.trans (systemIncludes_eq_error_iff.2 hfails)

/-- The compiler can always be asked, and something comes of it. -/
theorem exists_detects (system : System) : ∃ arguments, Detects system arguments := by
  by_cases hfinished : ∃ clang, system.program? "clang" = some clang ∧
      ∃ stdout stderr status, clang (listingArguments system) = .finished stdout stderr status
  · obtain ⟨clang, installed, stdout, stderr, status, finished⟩ := hfinished
    obtain ⟨listed, hlisted⟩ := exists_listed (Text.lines stderr)
    exact ⟨_, .listed installed finished hlisted⟩
  · refine ⟨[], .nothing fun clang installed stdout stderr status finished => ?_⟩
    exact hfinished ⟨clang, installed, stdout, stderr, status, finished⟩

/-- Nothing else comes of asking the compiler than the arguments for the directories found. -/
theorem Detects.systemIncludes_eq {system : System} {arguments : List String}
    (h : Detects system arguments) (hanswers : ∀ error, ¬ ClangFails system error) :
    systemIncludes system = .ok arguments := by
  unfold systemIncludes
  cases h with
  | listed installed finished lists =>
    simp only [installed, finished, lists.includeDirectories_eq]
  | nothing unfinished =>
    cases hclang : system.program? "clang" with
    | none => rfl
    | some clang =>
      cases hrun : clang (listingArguments system) with
      | finished stdout stderr status => exact absurd hrun (unfinished clang hclang _ _ _)
      | undecodable output => exact absurd (.undecodable hclang hrun) (hanswers _)
      | timedOut => simp only [hrun]
      | refused => exact absurd (.refused hclang hrun) (hanswers _)

/-- The arguments for the system's include directories are what a run of the compiler comes to; there
are none exactly if asking it ends in an error. -/
theorem systemIncludes_eq_ok_iff {system : System} {arguments : List String} :
    systemIncludes system = .ok arguments ↔
      (∀ error, ¬ ClangFails system error) ∧ Detects system arguments := by
  constructor
  · intro h
    rcases systemIncludes_cases system with ⟨_, -, herror⟩ | ⟨hanswers, -⟩
    · cases h.symm.trans herror
    · obtain ⟨detected, hdetects⟩ := exists_detects system
      cases h.symm.trans (hdetects.systemIncludes_eq hanswers)
      exact ⟨hanswers, hdetects⟩
  · rintro ⟨hanswers, hdetects⟩
    exact hdetects.systemIncludes_eq hanswers

end HeaderIndex.Toolchain
