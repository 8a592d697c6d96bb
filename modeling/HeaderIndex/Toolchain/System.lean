/-!
# The system around a run

What a run asks of the machine it works on: which platform it is, which programs are installed and
what they answer, and which files there are.  A system answers the same way every time.
-/

namespace HeaderIndex

/-- Output that is no text in the encoding of the system, by what is told about it. -/
structure Undecodable where
  message : String
  deriving DecidableEq, Repr

/-- What came of running a program. -/
inductive ProgramResult where
  | finished (stdout stderr : String) (status : Int)
  /-- it ended, and what it wrote is no text -/
  | undecodable (output : Undecodable)
  /-- it did not end in time -/
  | timedOut
  /-- the system refused to start it -/
  | refused
  deriving DecidableEq, Repr

/-- A system. -/
structure System where
  platform : String
  /-- an installed program: what it does with its arguments -/
  program? : String → Option (List String → ProgramResult)
  /-- the files that a glob stands for -/
  glob : String → List String
  isFile : String → Bool

/-- Why there is no answer from a program that is installed. -/
inductive ProgramError where
  /-- the system refused to start it -/
  | refused (program : String)
  | undecodable (output : Undecodable)
  deriving DecidableEq, Repr

end HeaderIndex
