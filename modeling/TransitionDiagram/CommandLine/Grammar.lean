/-
TransitionDiagram.CommandLine.Grammar: settings on a command line.

A command line is read argument by argument into a record. An argument names a setting, gives the
value of the setting before it, or names a command, at which the reading stops.

* `--long` names a setting, `--long=value` also gives its value.
* `-abc` names the settings with the letters `a`, `b` and `c`. After a letter whose setting needs
  a value, the rest of the argument is that value, without an equals sign in front.
* `--` ends the settings. What follows is neither a setting nor a value nor a command.
* A setting is given once.

A value is stored when it is met, and checked and put into the record when the next setting is
met or the arguments end. So a fault that an argument has in itself is reported before a fault of
the value before it.

  §1 faults
  §2 settings
  §3 the state of a reading
  §4 single arguments
  §5 whole command lines
-/

namespace TransitionDiagram.CommandLine

/-! ## §1 Faults -/

/-- Why reading a command line ends early. -/
inductive ArgumentFault where
  /-- Help is asked for. -/
  | helpRequested
  /-- The version is asked for. -/
  | versionRequested
  /-- Nothing at all is given, so help is shown. -/
  | nothingGiven
  /-- A command is needed and none is named. -/
  | missingCommand
  /-- There is no such command. -/
  | unknownCommand (argument : String)
  /-- There is no such setting, or the argument has no place. -/
  | unknownArgument (argument : String)
  /-- A setting is given twice. -/
  | repeated (setting : String)
  /-- A setting lacks its value, or the value is none of those allowed. -/
  | invalidValue (setting : String)
  /-- The value of a setting cannot be read. -/
  | unreadableValue (setting value : String)
  /-- A setting without values is given one. -/
  | unexpectedValue (setting : String)
  /-- A setting that must be given is not. -/
  | missingSetting (setting : String)
  deriving DecidableEq, Repr

namespace ArgumentFault

/-- Whether a fault only asks for a text to be shown. -/
def isRequest : ArgumentFault → Bool
  | helpRequested | versionRequested => true
  | _ => false

/-- The exit code after the fault. -/
def exitCode (fault : ArgumentFault) : Nat :=
  if fault.isRequest then 0 else 2

/-- The fault in words. -/
def message : ArgumentFault → String
  | helpRequested => "help requested"
  | versionRequested => "version requested"
  | nothingGiven => "a command is required"
  | missingCommand => "a command is required"
  | unknownCommand argument => "unknown command '" ++ argument ++ "'"
  | unknownArgument argument => "unexpected argument '" ++ argument ++ "'"
  | repeated setting => "'" ++ setting ++ "' is given more than once"
  | invalidValue setting => "invalid or missing value for '" ++ setting ++ "'"
  | unreadableValue setting value => "invalid value '" ++ value ++ "' for '" ++ setting ++ "'"
  | unexpectedValue setting => "'" ++ setting ++ "' takes no value"
  | missingSetting setting => "'" ++ setting ++ "' is required"

end ArgumentFault

/-! ## §2 Settings -/

/-- What a setting does to the record. -/
inductive Effect (ρ : Type) where
  /-- The setting stands alone. -/
  | mark (change : ρ → ρ)
  /-- The setting needs a value, which may be refused. -/
  | value (change : String → ρ → Except ArgumentFault ρ)
  /-- The setting ends the reading. -/
  | request (fault : ArgumentFault)

/-- A setting with its long name and perhaps a letter. -/
structure Setting (ρ : Type) where
  long : String
  letter : Option Char
  effect : Effect ρ

/-- The settings and commands of a command line. -/
structure Grammar (ρ : Type) where
  settings : List (Setting ρ)
  commands : List String

/-- The command that asks for help on commands. -/
def helpCommand : String := "help"

/-! ## §3 The state of a reading -/

/-- A record read in part: the names of the settings that it has, and a setting that is not in it
yet, with its value if that is known. -/
structure Reading (ρ : Type) where
  record : ρ
  given : List String := []
  pending : Option (Setting ρ × Option String) := none
  /-- Whether `--` was read. -/
  ended : Bool := false

namespace Reading

variable {ρ : Type}

/-- Puts a setting into the record. -/
def apply (r : Reading ρ) (s : Setting ρ) (value : Option String) :
    Except ArgumentFault (Reading ρ) :=
  match s.effect, value with
  | .request fault, _ => .error fault
  | .value _, none => .error (.invalidValue s.long)
  | .mark change, _ =>
    if s.long ∈ r.given then .error (.repeated s.long)
    else .ok { r with record := change r.record, given := s.long :: r.given }
  | .value change, some text =>
    if s.long ∈ r.given then .error (.repeated s.long)
    else do
      let record ← change text r.record
      return { r with record, given := s.long :: r.given }

/-- Puts the setting that is pending into the record. -/
def settle (r : Reading ρ) : Except ArgumentFault (Reading ρ) :=
  match r.pending with
  | none => .ok r
  | some (s, value) => { r with pending := none }.apply s value

/-- Puts the setting that is pending into the record, and then another one. -/
def give (r : Reading ρ) (s : Setting ρ) (value : Option String) :
    Except ArgumentFault (Reading ρ) := do
  (← r.settle).apply s value

/-- Puts the setting that is pending into the record, and awaits the value of another one. -/
def await (r : Reading ρ) (s : Setting ρ) : Except ArgumentFault (Reading ρ) := do
  return { ← r.settle with pending := some (s, none) }

/-- Whether the next argument may be a value. -/
def awaitsValue (r : Reading ρ) : Bool :=
  match r.pending with
  | some (_, none) => true
  | _ => false

end Reading

/-! ## §4 Single arguments -/

namespace Grammar

variable {ρ : Type}

/-- Reads an argument of the form `--name` or `--name=value`. -/
def readLong (g : Grammar ρ) (r : Reading ρ) (argument : List Char) :
    Except ArgumentFault (Reading ρ) :=
  let name := String.ofList (argument.takeWhile (· ≠ '='))
  let attached : Option String :=
    match argument.dropWhile (· ≠ '=') with
    | [] => none
    | _ :: value => some (String.ofList value)
  match g.settings.find? (·.long == name) with
  | none => .error (.unknownArgument ("--" ++ name))
  | some s =>
    match s.effect, attached with
    | .value _, none => r.await s
    | .value _, some value => r.give s value
    | _, none => r.give s none
    | _, some _ => .error (.unexpectedValue s.long)

/-- Reads the letters after a dash. -/
def readLetters (g : Grammar ρ) (r : Reading ρ) : List Char → Except ArgumentFault (Reading ρ)
  | [] => .ok r
  | c :: rest =>
    match g.settings.find? (·.letter == some c) with
    | none => .error (.unknownArgument ("-" ++ c.toString))
    | some s =>
      match s.effect, rest with
      | .value _, [] => r.await s
      | .value _, '=' :: value => r.give s (some (String.ofList value))
      | .value _, value => r.give s (some (String.ofList value))
      | _, _ => do
        let r ← r.give s none
        readLetters g r rest

/-- What is wrong with an argument that has no place. A command out of place is no command. -/
def misplaced (g : Grammar ρ) (argument : String) : ArgumentFault :=
  if g.commands.isEmpty || argument ∈ g.commands then .unknownArgument argument
  else .unknownCommand argument

/-- Reads an argument that is no setting. -/
def readOther (g : Grammar ρ) (r : Reading ρ) (argument : String) :
    Except ArgumentFault (Reading ρ) :=
  match r.ended, r.pending with
  | false, some (s, none) => .ok { r with pending := some (s, some argument) }
  | _, _ => .error (g.misplaced argument)

/-- Reads an argument that is no command. -/
def readArgument (g : Grammar ρ) (r : Reading ρ) (argument : String) :
    Except ArgumentFault (Reading ρ) :=
  if r.ended then g.readOther r argument
  else
    match argument.toList with
    | ['-', '-'] => .ok { r with ended := true }
    | '-' :: '-' :: name => g.readLong r name
    | ['-'] => g.readOther r argument
    | '-' :: letters => g.readLetters r letters
    | _ => g.readOther r argument

/-! ## §5 Whole command lines -/

/-- Where a reading stops: at a command, with the arguments after it, or at the end. -/
inductive Stop where
  | atEnd
  | atCommand (name : String) (rest : List String)
  deriving DecidableEq, Repr

/-- Reads arguments up to a command. -/
def readAll (g : Grammar ρ) (r : Reading ρ) :
    List String → Except ArgumentFault (Reading ρ × Stop)
  | [] => .ok (r, .atEnd)
  | argument :: rest =>
    if !r.ended && !r.awaitsValue && argument ∈ g.commands then
      .ok (r, .atCommand argument rest)
    else do
      let r ← g.readArgument r argument
      readAll g r rest

end Grammar

end TransitionDiagram.CommandLine
