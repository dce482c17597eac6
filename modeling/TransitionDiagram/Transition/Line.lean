/-
TransitionDiagram.Transition.Line: reading a transition from a line of text.

The line is read from the left, and every part takes as much as it can:

* the source is one character and all that follows it before the next arrow `->`;
* the target is one character after the arrow and all that follows it before the next colon;
* the name runs from that colon to the next slash, the action from that slash to the end.

Blanks around a part do not belong to it. A name or an action of blanks alone is absent, but a
source or target of blanks alone is the state with the empty name. A line without a source, an
arrow and a target, in this order, holds no transition. Nothing is special about a line feed.

  §1 the first arrow
  §2 the label: name and action
  §3 the whole line
-/
import TransitionDiagram.Transition
import TransitionDiagram.Text.Blank

namespace TransitionDiagram.Transition

open Text (trim)

/-! ## §1 The first arrow -/

/-- What stands before and after the first arrow. -/
def splitArrow : List Char → Option (List Char × List Char)
  | [] => none
  | '-' :: '>' :: after => some ([], after)
  | c :: rest => (splitArrow rest).map fun (before, after) => (c :: before, after)

/-! ## §2 The label -/

/-- A part of a label without the blanks around it, absent if nothing else is in it. -/
def labelPart (part : List Char) : Option String :=
  match trim part with
  | [] => none
  | part => some (String.ofList part)

/-- The name in what follows the colon. -/
def nameOf (label : List Char) : Option String :=
  labelPart (label.takeWhile (· ≠ '/'))

/-- The action in what follows the colon. -/
def actionOf (label : List Char) : Option String :=
  labelPart ((label.dropWhile (· ≠ '/')).drop 1)

/-! ## §3 The whole line -/

/-- The transition with the given source, whose target and label are still to be read. -/
def ofTarget? (source : List Char) : List Char → Option Transition
  | [] => none
  | first :: rest =>
    let label := (rest.dropWhile (· ≠ ':')).drop 1
    some {
      source := String.ofList (trim source)
      target := String.ofList (trim (first :: rest.takeWhile (· ≠ ':')))
      name := nameOf label
      action := actionOf label }

/-- The transition in a line. -/
def ofLine? : List Char → Option Transition
  | [] => none
  | first :: rest =>
    match splitArrow rest with
    | none => none
    | some (before, after) => ofTarget? (first :: before) after

end TransitionDiagram.Transition
