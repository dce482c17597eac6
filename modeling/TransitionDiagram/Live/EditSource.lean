/-
TransitionDiagram.Live.EditSource: texts that are edited while they are shown.
-/
import TransitionDiagram.Fault

namespace TransitionDiagram

/-- Something that is edited and can be read as a whole. -/
class EditSource (α E : Type) where
  /-- The text as it is now. -/
  contents : E → Except (Fault α) String

/-- A text in memory. Reading it is refused while there is a reason to refuse. -/
structure TextBuffer where
  text : String
  refusal : Option String := none
  deriving DecidableEq, Repr, Inhabited

namespace TextBuffer

/-- Replaces the text. -/
def setText (b : TextBuffer) (text : String) : TextBuffer :=
  { b with text }

/-- Adds to the end of the text. -/
def push (b : TextBuffer) (text : String) : TextBuffer :=
  { b with text := b.text ++ text }

instance {α : Type} : EditSource α TextBuffer where
  contents b :=
    match b.refusal with
    | none => .ok b.text
    | some reason => .error (.surface reason)

end TextBuffer

end TransitionDiagram
