import BenchTally.Command.Ending

set_option autoImplicit false
set_option relaxedAutoImplicit false

/-!
# The program

The command line program. Standard input names the files that it may look at, one path a line,
relative to the working directory; a path that ends in a slash is a directory. The program reads
these files, does what its command line asks for, and writes what is new.

## Main definitions

* `main` — the program.
-/

namespace BenchTally

/-- What a user who asks for help is told. -/
def usage : String :=
  "Usage: bench-tally [--config FILE] [--strict] [--pattern GLOB] COMMAND [INPUT_DIR] [OUTPUT_DIR]\n" ++
  "\n" ++
  "Commands:\n" ++
  "  throughput  the mean operations per second of each configuration\n" ++
  "  metrics     the mean operations per second and the mean makespan of each configuration\n" ++
  "  timeline    the throughput over time of each configuration\n"

/-- The name of the working directory in a tree. -/
def workDirName : Bytes := Text.encode "work"

/-- The tree with what stands at a path. -/
def readInto (tree : FileTree) (path : String) : IO FileTree := do
  let p := Path.ofString path
  if path.endsWith "/" then
    return (tree.makeDirs p).1
  let content ← IO.FS.readBinFile path
  return ((tree.makeDirs p.parent).1.writeFile p content.data.toList).toOption.getD tree

/-- The tree with what stands at the paths that a stream names. -/
partial def readTree (input : IO.FS.Stream) (tree : FileTree) : IO FileTree := do
  let line ← input.getLine
  if line.isEmpty then
    return tree
  let path := (line.dropEndWhile Char.isWhitespace).toString
  if path.isEmpty then readTree input tree
  else readTree input (← readInto tree path)

/-- Writes what is new in a tree. -/
def writeChange (tree : FileTree) (place : Place) (node : Node) : IO Unit := do
  let path := Path.ofComponents false (place.drop tree.workDir.length)
  match Text.decode? path.bytes, node with
  | some path, .dir => IO.FS.createDirAll path
  | some path, .file content => IO.FS.writeBinFile path ⟨content.toArray⟩
  | _, _ => pure ()

/-- The line that reports an event. -/
def eventLine (e : Event) : String :=
  let level := if e.isWarning then "WARN " else "INFO "
  level ++ e.message ++ ((e.file?.map fun p => " path=" ++ p.quoted).getD "")

/-- Does what a command line asks for. -/
def run (words : List String) : IO UInt32 := do
  match Invocation.ofArguments words with
  | .error refusal =>
    IO.print usage
    return refusal.exitCode
  | .ok _ =>
    let tree ← readTree (← IO.getStdin) (.ofWorkDir workDirName)
    let ending := Ending.ofArguments tree words
    for e in ending.log do
      IO.println (eventLine e)
    for (place, node) in ending.tree.changesSince tree do
      writeChange tree place node
    for line in ending.errorLine do
      IO.println ("ERROR " ++ line)
    return ending.exitCode

end BenchTally

/-- The program. -/
def main (words : List String) : IO UInt32 :=
  BenchTally.run words
