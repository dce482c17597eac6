/-
TransitionDiagram.CommandLine.Options: what the command line of the program can say.

There are three commands: `render` draws a picture once, `parse` lists the machine, and `watch`
follows a file. Settings of the whole program stand before the command, settings of a command
behind it.

  §1 commands and options
  §2 values of settings
  §3 the settings of each command
  §4 the settings of the program
  §5 reading a command line
-/
import TransitionDiagram.CommandLine.Grammar
import TransitionDiagram.CommandLine.Logging
import TransitionDiagram.Decimal.Reading
import TransitionDiagram.Picture.Style

namespace TransitionDiagram.CommandLine

/-! ## §1 Commands and options -/

/-- What the program is to do. A path that is absent stands for standard input or output. -/
inductive Command where
  /-- Draw the picture of a text. -/
  | render (input output : Option String) (picture : PictureConfig Float)
  /-- List the machine of a text, as JSON or as text. -/
  | parse (input : Option String) (json : Bool)
  /-- Follow a file and draw it again after each change and a pause. -/
  | watch (input : String) (picture : PictureConfig Float) (quietMillis : Nat)

/-- The settings of the whole program. -/
structure Globals where
  verbose : Bool := false
  logLevel : LogLevel := .warn
  logFormat : LogFormat := .compact
  deriving DecidableEq, Repr

/-- A command with the settings of the program. -/
structure Options where
  globals : Globals
  command : Command

/-! ## §2 Values -/

/-- A setting whose value has one of some names. -/
def choice {β ρ : Type} (ofName? : String → Option β) (long : String) (change : β → ρ → ρ) :
    Effect ρ :=
  .value fun text record =>
    match ofName? text with
    | some choice => .ok (change choice record)
    | none => .error (.invalidValue long)

/-- A setting whose value is read from its text. -/
def readable {β ρ : Type} (read? : String → Option β) (long : String) (change : β → ρ → ρ) :
    Effect ρ :=
  .value fun text record =>
    match read? text with
    | some value => .ok (change value record)
    | none => .error (.unreadableValue long text)

/-- The path in a text that is not empty. -/
def path? (text : String) : Option String :=
  if text.isEmpty then none else some text

/-- Natural numbers of 64 bits. -/
def word? : String → Option Nat :=
  Decimal.natBelow? (Nat.pow 2 64)

/-- The setting that shows help. -/
def help {ρ : Type} : Setting ρ :=
  { long := "help", letter := some 'h', effect := .request .helpRequested }

/-! ## §3 Commands -/

/-- What is read behind a command. -/
structure Settings where
  input : Option String := none
  output : Option String := none
  json : Bool := false
  picture : PictureConfig Float := .standard
  quietMillis : Nat := 300

/-- The path to read from. -/
def inputSetting : Setting Settings :=
  { long := "input", letter := some 'i'
    effect := choice path? "input" fun path s => { s with input := some path } }

/-- The path to write to. -/
def outputSetting : Setting Settings :=
  { long := "output", letter := some 'o'
    effect := choice path? "output" fun path s => { s with output := some path } }

/-- The settings of a picture. -/
def pictureSettings : List (Setting Settings) :=
  [{ long := "style", letter := none
     effect := choice Style.ofName? "style" fun style s =>
      { s with picture := { s.picture with style } } },
   { long := "width", letter := none
     effect := readable Decimal.float? "width" fun width s =>
      { s with picture := { s.picture with size := { s.picture.size with width } } } },
   { long := "height", letter := none
     effect := readable Decimal.float? "height" fun height s =>
      { s with picture := { s.picture with size := { s.picture.size with height } } } }]

/-- The listing as JSON. -/
def jsonSetting : Setting Settings :=
  { long := "json", letter := none, effect := .mark fun s => { s with json := true } }

/-- The pause after a change, in milliseconds. -/
def quietSetting : Setting Settings :=
  { long := "debounce-ms", letter := none
    effect := readable word? "debounce-ms" fun quietMillis s => { s with quietMillis } }

/-- The kinds of commands. -/
inductive CommandKind where
  | render
  | parse
  | watch
  deriving DecidableEq, Repr

namespace CommandKind

/-- All kinds. -/
def all : List CommandKind := [render, parse, watch]

/-- The name of a command. -/
def name : CommandKind → String
  | render => "render"
  | parse => "parse"
  | watch => "watch"

/-- The command of that name. -/
def ofName? (name : String) : Option CommandKind :=
  all.find? (·.name == name)

/-- The settings of a command. -/
def settings : CommandKind → List (Setting Settings)
  | render => help :: inputSetting :: outputSetting :: pictureSettings
  | parse => [help, inputSetting, jsonSetting]
  | watch => help :: inputSetting :: quietSetting :: pictureSettings

/-- The command with its settings. Only following needs a file. -/
def command (kind : CommandKind) (s : Settings) : Except ArgumentFault Command :=
  match kind, s.input with
  | render, input => .ok (.render input s.output s.picture)
  | parse, input => .ok (.parse input s.json)
  | watch, none => .error (.missingSetting "input")
  | watch, some input => .ok (.watch input s.picture s.quietMillis)

/-- Reads the arguments behind the name of a command. -/
def read (kind : CommandKind) (arguments : List String) : Except ArgumentFault Command := do
  let grammar : Grammar Settings := { settings := kind.settings, commands := [] }
  let (r, _) ← grammar.readAll { record := {} } arguments
  kind.command (← r.settle).record

end CommandKind

/-! ## §4 The program -/

/-- The settings of the program, and its commands. -/
def programGrammar : Grammar Globals where
  settings :=
    [help,
     { long := "version", letter := some 'V', effect := .request .versionRequested },
     { long := "verbose", letter := some 'v', effect := .mark fun g => { g with verbose := true } },
     { long := "log-level", letter := none
       effect := choice LogLevel.ofName? "log-level" fun logLevel g => { g with logLevel } },
     { long := "log-format", letter := none
       effect := choice LogFormat.ofName? "log-format" fun logFormat g => { g with logFormat } }]
  commands := helpCommand :: CommandKind.all.map CommandKind.name

/-! ## §5 Command lines -/

/-- What asking for help on some commands leads to: only commands of the program have help, and
they have no commands of their own. -/
def helpOn : List String → ArgumentFault
  | [] => .helpRequested
  | name :: rest =>
    if name ∈ programGrammar.commands then
      match rest with
      | [] => .helpRequested
      | argument :: _ => .unknownCommand argument
    else .unknownCommand name

/-- Reads a command line. A fault behind the command is reported before one of a value that is
pending when the command is met. -/
def Options.read (arguments : List String) : Except ArgumentFault Options := do
  let (r, stop) ← programGrammar.readAll { record := {} } arguments
  match stop with
  | .atEnd =>
    let r ← r.settle
    .error (if r.given.isEmpty then .nothingGiven else .missingCommand)
  | .atCommand name rest =>
    match CommandKind.ofName? name with
    | none => .error (helpOn rest)
    | some kind =>
      let command ← kind.read rest
      return { globals := (← r.settle).record, command }

end TransitionDiagram.CommandLine
