/-
TransitionDiagram.CommandLine.Logging: the names of log levels and log formats.

A format is known by its name in any case; a name that is unknown is reported as it was given.
-/

namespace TransitionDiagram

/-- How much is logged. -/
inductive LogLevel where
  | trace
  | debug
  | info
  | warn
  | error
  deriving DecidableEq, Repr, Inhabited

namespace LogLevel

/-- All levels, from the one that logs most. -/
def all : List LogLevel := [trace, debug, info, warn, error]

/-- The name of a level. -/
def name : LogLevel → String
  | trace => "trace"
  | debug => "debug"
  | info => "info"
  | warn => "warn"
  | error => "error"

/-- The level of exactly that name. -/
def ofName? (name : String) : Option LogLevel :=
  all.find? (·.name == name)

end LogLevel

/-- How a log is written. -/
inductive LogFormat where
  /-- One line for each event. -/
  | compact
  /-- Several lines for each event. -/
  | pretty
  /-- One JSON object for each event. -/
  | json
  deriving DecidableEq, Repr, Inhabited

namespace LogFormat

/-- All formats. -/
def all : List LogFormat := [compact, pretty, json]

/-- The name of a format. -/
def name : LogFormat → String
  | compact => "compact"
  | pretty => "pretty"
  | json => "json"

/-- The format of exactly that name. -/
def ofName? (name : String) : Option LogFormat :=
  all.find? (·.name == name)

/-- A name that no format has. -/
structure Unknown where
  name : String
  deriving DecidableEq, Repr

/-- The unknown name in words. -/
def Unknown.message (u : Unknown) : String :=
  "Unknown log format: " ++ u.name

/-- Why a log cannot be set up, in words. -/
def Unknown.setupMessage (u : Unknown) : String :=
  "Invalid log format: " ++ u.message

/-- The format of that name in any case. The names are ASCII, and no other letter has one of
theirs as its lower case. -/
def parse (name : String) : Except Unknown LogFormat :=
  match ofName? (name.map Char.toLower) with
  | some format => .ok format
  | none => .error { name }

end LogFormat

end TransitionDiagram
