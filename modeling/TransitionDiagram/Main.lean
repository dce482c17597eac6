/-
TransitionDiagram.Main: the program on a real system.

This module holds the actions of the system and nothing of what the program does. A stamp of a file
is made from its bytes: files with other contents have other stamps, but for the rare collision of
two hash codes.
-/
import TransitionDiagram.CommandLine.Program
import TransitionDiagram.Console.FileTree

namespace TransitionDiagram

/-- The number and the words of an error of the system. -/
def describeError : IO.Error → UInt32 × String
  | .alreadyExists _ code details | .permissionDenied _ code details
  | .resourceExhausted _ code details | .inappropriateType _ code details
  | .noSuchThing _ code details => (code, details)
  | .noFileOrDirectory _ code details | .interrupted _ code details
  | .invalidArgument _ code details => (code, details)
  | .otherError code details | .resourceBusy code details | .resourceVanished code details
  | .unsupportedOperation code details | .hardwareFault code details
  | .unsatisfiedConstraints code details | .illegalOperation code details
  | .protocolError code details | .timeExpired code details => (code, details)
  | .unexpectedEof => (0, "unexpected end of file")
  | .userError details => (0, details)

/-- The reason that an error of the system gives. -/
def fileErrorOf (e : IO.Error) : FileError :=
  match describeError e with
  | (2, _) => .notFound
  | (20, _) => .notDirectory
  | (21, _) => .isDirectory
  | (36, _) => .nameTooLong
  | (code, details) => .other (details ++ " (os error " ++ toString code.toNat ++ ")")

/-- Runs an action and gives its error as a value. -/
def attemptIO {β : Type} (action : IO β) : IO (Except FileError β) :=
  try
    return .ok (← action)
  catch e => return .error (fileErrorOf e)

/-- All that is left in a stream. -/
partial def readAllBytes (stream : IO.FS.Stream) (before : ByteArray) : IO ByteArray := do
  let bytes ← stream.read 65536
  if bytes.isEmpty then return before else readAllBytes stream (before ++ bytes)

/-- What is seen of a file of which these bytes were read. -/
def sightingOf : Except FileError ByteArray → Sighting
  | .ok bytes =>
    .present { modified := some (hash bytes).toNat, length := bytes.size }
      ((FileEntry.decode bytes).mapError FileError.reason)
  | .error .notFound => .missing
  | .error .notDirectory => .unknown FileError.notDirectory.reason
  | .error .nameTooLong => .unknown FileError.nameTooLong.reason
  | .error .zeroInPath => .unknown FileError.zeroInPath.reason
  | .error e => .present { modified := none, length := 0 } (.error e.reason)

/-- Writes a text at once. -/
def writeNow (stream : IO.FS.Stream) (text : String) : IO Unit := do
  stream.putStr text
  stream.flush

instance : Console IO where
  environment name := IO.getEnv name
  readFile path := do
    match ← attemptIO (IO.FS.readBinFile path) with
    | .ok bytes => return FileEntry.decode bytes
    | .error e => return .error e
  writeFile path text := attemptIO (IO.FS.writeFile path text)
  look path := return sightingOf (← attemptIO (IO.FS.readBinFile path))
  readInput := do
    match ← attemptIO (do readAllBytes (← IO.getStdin) .empty) with
    | .ok bytes => return FileEntry.decode bytes
    | .error e => return .error e
  print text := do writeNow (← IO.getStdout) text
  printError text := do writeNow (← IO.getStderr) text

/-- Milliseconds between two looks at a file that is followed. -/
def lookInterval : UInt32 := 50

/-- Repeats the steps of the program until one ends it. -/
partial def repeatSteps (started : Nat) : CommandLine.Outcome → IO UInt32
  | .exit code => return code.toUInt32
  | .follow watcher => do
    IO.sleep lookInterval
    let now ← IO.monoNanosNow
    repeatSteps started (← CommandLine.step watcher (.ofNanos (now - started)))

/-- Runs the program on some arguments, and gives its exit code. -/
def runProgram (arguments : List String) : IO UInt32 := do
  let outcome ← CommandLine.run arguments
  repeatSteps (← IO.monoNanosNow) outcome

end TransitionDiagram

/-- The program on its command line. -/
def main (arguments : List String) : IO UInt32 :=
  TransitionDiagram.runProgram arguments
