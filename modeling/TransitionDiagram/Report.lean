/-
TransitionDiagram.Report: a machine listed as text or as JSON.

The text counts the states and lists them, then counts the transitions and lists their texts. The
JSON is an object with the states, as an array of strings, and the transitions, as an array of
objects whose members `name` and `action` are left out where they are absent. It is indented by two
blanks per level, with every item on lines of its own; an empty array is `[]`.

Both are built as lists of lines. A quoted text holds no line feed, so the JSON has exactly the
lines that it was built from.

  §1 the listing as text
  §2 JSON arrays and objects as lines
  §3 the listing as JSON
-/
import TransitionDiagram.Machine
import TransitionDiagram.Text.Quoted

namespace TransitionDiagram.Report

open Text (quote joinLines)

/-- A line of a report. -/
abbrev Line := List Char

/-! ## §1 Text -/

/-- The lines of a listing: what is listed, how many there are, and one line for each. -/
def countedLines (title : String) (items : List String) : List Line :=
  (title ++ " (" ++ toString items.length ++ "):").toList ::
    items.map fun item => ' ' :: ' ' :: item.toList

/-- The machine as text. -/
def text (m : Machine) : String :=
  String.ofList <| joinLines <|
    countedLines "States" m.states ++ [] ::
      countedLines "Transitions" (m.transitions.map Transition.toText)

/-! ## §2 JSON as lines -/

/-- Blanks in front of every line. -/
def indent (columns : Nat) (lines : List Line) : List Line :=
  lines.map (List.replicate columns ' ' ++ ·)

/-- A comma after the last line. -/
def endWithComma : List Line → List Line
  | [] => []
  | [line] => [line ++ [',']]
  | line :: rest => line :: endWithComma rest

/-- The lines of several items, with a comma after each but the last. -/
def separated : List (List Line) → List Line
  | [] => []
  | [item] => item
  | item :: rest => endWithComma item ++ separated rest

/-- The lines of an array. -/
def arrayLines : List (List Line) → List Line
  | [] => [['[', ']']]
  | items => ['['] :: (indent 2 (separated items) ++ [[']']])

/-- The lines of a member: its name and a colon stand before the first line of its value. -/
def memberLines (name : String) : List Line → List Line
  | [] => []
  | line :: rest => (quote name.toList ++ [':', ' '] ++ line) :: rest

/-- The lines of an object. -/
def objectLines (members : List (List Line)) : List Line :=
  ['\x7b'] :: (indent 2 (separated members) ++ [['\x7d']])

/-- The line of a string. -/
def stringLines (s : String) : List Line :=
  [quote s.toList]

/-! ## §3 JSON -/

/-- The lines of a member that may be absent. -/
def optionalMember (name : String) : Option String → List (List Line)
  | none => []
  | some value => [memberLines name (stringLines value)]

/-- The lines of a transition. -/
def transitionLines (t : Transition) : List Line :=
  objectLines <|
    [memberLines "from" (stringLines t.source), memberLines "to" (stringLines t.target)] ++
      optionalMember "name" t.name ++ optionalMember "action" t.action

/-- The lines of a machine. -/
def machineLines (m : Machine) : List Line :=
  objectLines [
    memberLines "states" (arrayLines (m.states.map stringLines)),
    memberLines "transitions" (arrayLines (m.transitions.map transitionLines))]

/-- The machine as JSON. -/
def json (m : Machine) : String :=
  String.ofList (joinLines (machineLines m))

end TransitionDiagram.Report
