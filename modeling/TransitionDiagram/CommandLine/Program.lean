/-
TransitionDiagram.CommandLine.Program: the program behind the command line.

The program reads its arguments, does what the command says, and ends with an exit code: 0 if all
went well, 1 after a fault, and what the argument reader says if the arguments are at fault. Only
following a file has no end of its own: the program starts it and makes single steps of it, and
whoever runs the program repeats the steps until one ends.

  §1 the outcome of a run
  §2 messages
  §3 input and output
  §4 commands
  §5 the program
-/
import TransitionDiagram.CommandLine.Options
import TransitionDiagram.Console.Interface
import TransitionDiagram.Render
import TransitionDiagram.Report
import TransitionDiagram.Watch.Watcher

namespace TransitionDiagram.CommandLine

variable {m : Type → Type} [Monad m] [Console m]

/-! ## §1 Outcomes -/

/-- The outcome of a run or of a step. -/
inductive Outcome where
  /-- The program ends with this exit code. -/
  | exit (code : Nat)
  /-- The program keeps following a file. -/
  | follow (watcher : Watcher Float)

/-- What ends a command. -/
inductive CommandFault where
  /-- Standard input cannot be used. -/
  | input (error : FileError)
  /-- Anything else. -/
  | other (fault : Fault Float)

/-- The fault in words. -/
def CommandFault.message : CommandFault → String
  | input error => error.reason
  | other fault => fault.message

/-! ## §2 Messages -/

/-- The name and the version of the program. -/
def versionLine : String := "circles 0.1.0\n"

/-- How the program is used. -/
def usage : String :=
  "Usage: circles [--verbose] [--log-level LEVEL] [--log-format FORMAT] COMMAND\n\n" ++
  "Commands:\n" ++
  "  render [--input FILE] [--output FILE] [--style STYLE] [--width W] [--height H]\n" ++
  "  parse [--input FILE] [--json]\n" ++
  "  watch --input FILE [--debounce-ms N] [--style STYLE] [--width W] [--height H]\n" ++
  "  help [COMMAND]\n"

/-- Shows what the argument reader has to say, and ends. -/
def refuse (fault : ArgumentFault) : m Outcome := do
  match fault with
  | .helpRequested => Console.print usage
  | .versionRequested => Console.print versionLine
  | .nothingGiven => Console.printError usage
  | fault => Console.printError ("error: " ++ fault.message ++ "\n\n" ++ usage)
  return .exit fault.exitCode

/-- Ends a command: with an error line after a fault. -/
def finish : Except CommandFault Outcome → m Outcome
  | .ok outcome => return outcome
  | .error fault => do
    Console.printError ("Error: " ++ fault.message ++ "\n")
    return .exit 1

/-- A line on standard error if the program is to be verbose. -/
def remark (globals : Globals) (line : String) : m Unit :=
  if globals.verbose then Console.printError (line ++ "\n") else return

/-! ## §3 Input and output -/

/-- The path of a file, none for the standard stream. -/
def fileOf (path : Option String) : Option String :=
  path.filter (· ≠ "-")

/-- The text in a file or on standard input. -/
def readText (input : Option String) : ExceptT CommandFault m String := do
  match fileOf input with
  | some path =>
    match ← Console.readFile path with
    | .ok text => return text
    | .error e => throw (.other (.file (.unreadable path e.reason)))
  | none =>
    match ← Console.readInput with
    | .ok text => return text
    | .error e => throw (.input e)

/-- A text as it is shown on standard output: it ends with a line feed unless it is empty. -/
def endLine (text : String) : String :=
  if text.isEmpty || text.toList.getLast? = some '\n' then text else text ++ "\n"

/-- Writes a text to a file as it is, or to standard output as lines. -/
def writeText (output : Option String) (text : String) : ExceptT CommandFault m Unit := do
  match fileOf output with
  | some path =>
    match ← Console.writeFile path text with
    | .ok _ => return
    | .error e => throw (.other (.file (.unwritable path e.reason)))
  | none => Console.print (endLine text)

/-- What a terminal is sent to show a picture in place of the last one. -/
def screen (frame : String) : String :=
  "\x1b[2J\x1b[1;1H" ++ frame ++ "\n"

/-! ## §4 Commands -/

/-- Draws a picture once. -/
def runRender (globals : Globals) (input output : Option String) (picture : PictureConfig Float) :
    ExceptT CommandFault m Outcome := do
  let text ← readText input
  remark globals ("Read " ++ toString text.utf8ByteSize ++ " bytes of input")
  match TransitionDiagram.render picture text with
  | .error fault => throw (.other fault)
  | .ok frame =>
    writeText output frame
    return .exit 0

/-- Lists a machine. -/
def runParse (globals : Globals) (input : Option String) (json : Bool) :
    ExceptT CommandFault m Outcome := do
  let text ← readText input
  let machine := Machine.ofText text
  remark globals ("Parsed " ++ toString machine.states.length ++ " states and " ++
    toString machine.transitions.length ++ " transitions")
  Console.print ((if json then Report.json machine else Report.text machine) ++ "\n")
  return .exit 0

/-- Draws a file for the first time. -/
def runWatch (input : String) (picture : PictureConfig Float) (quietMillis : Nat) :
    ExceptT CommandFault m Outcome := do
  let seen ← Console.look input
  let config : LiveDiagram.Config Float :=
    { quiet := .ofMillis quietMillis, layout := .standard }
  match Watcher.start input picture config seen with
  | .error fault => throw (.other fault)
  | .ok watcher =>
    Console.print (screen watcher.frame)
    return .follow watcher

/-- Looks at a file that is followed, and draws it if it is to be drawn anew. -/
def stepWatch (watcher : Watcher Float) (now : Duration) : ExceptT CommandFault m Outcome := do
  let seen ← Console.look watcher.path
  match Watcher.check now seen watcher with
  | .error fault _ => throw (.other fault)
  | .ok redrawn watcher =>
    if redrawn then Console.print (screen watcher.frame)
    return .follow watcher

/-! ## §5 The program -/

/-- Finds out how to log. The environment is asked before the settings; a format that is unknown
is reported, and does no harm. -/
def setUpLog (globals : Globals) : m Unit := do
  let name := (← Console.environment "CIRCLES_LOG_FORMAT").getD globals.logFormat.name
  match LogFormat.parse name with
  | .ok _ => return
  | .error unknown =>
    Console.printError
      ("Warning: Failed to initialize logging: " ++ unknown.setupMessage ++ "\n")

/-- Does what the options say. -/
def runOptions (options : Options) : m Outcome := do
  setUpLog options.globals
  remark options.globals "Circles v0.1.0"
  match options.command with
  | .render input output picture => (runRender options.globals input output picture).run >>= finish
  | .parse input json => (runParse options.globals input json).run >>= finish
  | .watch input picture quietMillis => (runWatch input picture quietMillis).run >>= finish

/-- Runs the program. -/
def run (arguments : List String) : m Outcome :=
  match Options.read arguments with
  | .error fault => refuse fault
  | .ok options => runOptions options

/-- Makes one more step of following a file. -/
def step (watcher : Watcher Float) (now : Duration) : m Outcome :=
  (stepWatch watcher now).run >>= finish

end TransitionDiagram.CommandLine
