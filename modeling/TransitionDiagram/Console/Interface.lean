/-
TransitionDiagram.Console.Interface: what the program needs of the system that it runs on.

The program reads variables of its environment, files and standard input, looks at files, and
writes files, standard output and standard error. `Console` names these actions for any monad, so
that the program can run on a real system and on one that is a value.
-/
import TransitionDiagram.Watch.Sighting

namespace TransitionDiagram

/-- Why a file or an input cannot be used. -/
inductive FileError where
  | notFound
  | notDirectory
  | isDirectory
  | nameTooLong
  /-- A path cannot hold the character zero. -/
  | zeroInPath
  | notText
  /-- Any other reason, in words. -/
  | other (reason : String)
  deriving DecidableEq, Repr

/-- The reason in the words of the system. -/
def FileError.reason : FileError → String
  | notFound => "No such file or directory (os error 2)"
  | notDirectory => "Not a directory (os error 20)"
  | isDirectory => "Is a directory (os error 21)"
  | nameTooLong => "File name too long (os error 36)"
  | zeroInPath => "file name contained an unexpected NUL byte"
  | notText => "stream did not contain valid UTF-8"
  | other reason => reason

/-- What the program needs of a system. -/
class Console (m : Type → Type) where
  /-- A variable of the environment. -/
  environment : String → m (Option String)
  /-- The text in a file. -/
  readFile : String → m (Except FileError String)
  /-- Replaces the text in a file. -/
  writeFile : String → String → m (Except FileError Unit)
  /-- Looks at a file. -/
  look : String → m Sighting
  /-- All of standard input. -/
  readInput : m (Except FileError String)
  /-- Writes to standard output. -/
  print : String → m Unit
  /-- Writes to standard error. -/
  printError : String → m Unit

/-- Actions that may end with a fault have the same system. -/
instance {m : Type → Type} {ε : Type} [Monad m] [Console m] : Console (ExceptT ε m) where
  environment name := ExceptT.lift (Console.environment name)
  readFile path := ExceptT.lift (Console.readFile path)
  writeFile path text := ExceptT.lift (Console.writeFile path text)
  look path := ExceptT.lift (Console.look path)
  readInput := ExceptT.lift Console.readInput
  print text := ExceptT.lift (Console.print text)
  printError text := ExceptT.lift (Console.printError text)

end TransitionDiagram
