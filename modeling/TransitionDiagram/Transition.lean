/-
TransitionDiagram.Transition: one transition of a state machine and its text.

A transition leads from one state to another, states being named by texts. It may carry a name and
an action. Its text is

    source->target: name / action

without the parts that are absent.
-/

namespace TransitionDiagram

/-- A directed transition between two states. An absent name is not the same as an empty one. -/
structure Transition where
  source : String
  target : String
  name : Option String := none
  action : Option String := none
  deriving DecidableEq, Repr, Inhabited

namespace Transition

/-- The states at the two ends, the one it leaves first. -/
def endpoints (t : Transition) : List String :=
  [t.source, t.target]

theorem mem_endpoints {t : Transition} {id : String} :
    id ∈ t.endpoints ↔ id = t.source ∨ id = t.target := by
  simp [endpoints]

/-- A part of the text that a mark introduces, or nothing where the part is absent. -/
def introduced (mark : String) : Option String → String
  | none => ""
  | some part => mark ++ part

/-- The transition as a line of text. -/
def toText (t : Transition) : String :=
  t.source ++ "->" ++ t.target ++ introduced ": " t.name ++ introduced " / " t.action

end Transition

end TransitionDiagram
