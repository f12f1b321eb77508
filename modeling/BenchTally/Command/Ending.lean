import BenchTally.Command.Invocation

set_option autoImplicit false
set_option relaxedAutoImplicit false

/-!
# The end of a program run

## Main definitions

* `Ending` — the exit code and the error line of a run, and the tree that it leaves.
* `Ending.ofArguments` — the run with a given command line.
-/

namespace BenchTally

/-- The exit code for a command line that does not ask for an analysis. Who asks for help or the
version gets it. -/
def Refusal.exitCode : Refusal → UInt32
  | .help | .version => 0
  | _ => 2

/-- The line that reports the error of an analysis. -/
def AnalysisError.line (e : AnalysisError) : String :=
  e.message ++ ": " ++ e.cause

/-- How a run ends. -/
structure Ending where
  /-- The exit code. -/
  exitCode : UInt32
  /-- The line that reports the error. -/
  errorLine : Option String
  /-- The events on the way, in order. -/
  log : List Event
  /-- The tree afterwards. -/
  tree : FileTree

/-- The end of a run whose analysis ended as given. -/
def Ending.ofOutcome (outcome : Outcome) : Ending :=
  match outcome.result with
  | .ok _ => ⟨0, none, outcome.log, outcome.tree⟩
  | .error e => ⟨1, some e.line, outcome.log, outcome.tree⟩

/-- The end of a run with a given command line. -/
def Ending.ofArguments (tree : FileTree) (words : List String) : Ending :=
  match Invocation.ofArguments words with
  | .error refusal => ⟨refusal.exitCode, none, [], tree⟩
  | .ok i => .ofOutcome (i.run tree)

end BenchTally
