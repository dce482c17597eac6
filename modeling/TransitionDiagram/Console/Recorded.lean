/-
TransitionDiagram.Console.Recorded: a system that is a value.

The value holds the environment, the files and the input that a program finds, and records what the
program writes. A program that runs on it is a function from such a value to such a value.
-/
import TransitionDiagram.Console.FileTree

namespace TransitionDiagram

/-- A system with what was written to it so far. -/
structure Recorded where
  environment : List (String × String) := []
  files : FileTree := .empty
  input : ByteArray := .empty
  output : String := ""
  errors : String := ""

namespace Recorded

/-- Replaces the text in a file, if that is possible. -/
def writeFile (path text : String) (r : Recorded) : Except FileError Unit × Recorded :=
  match r.files.write path text with
  | .ok files => (.ok (), { r with files })
  | .error e => (.error e, r)

instance : Console (StateM Recorded) where
  environment name := return (← get).environment.lookup name
  readFile path := return (← get).files.read path
  writeFile path text := modifyGet (writeFile path text)
  look path := return (← get).files.look path
  readInput := return FileEntry.decode (← get).input
  print text := modify fun r => { r with output := r.output ++ text }
  printError text := modify fun r => { r with errors := r.errors ++ text }

end Recorded

end TransitionDiagram
