/-
TransitionDiagram.Fault: what can go wrong, and how it is said.

Reading a text never fails. A fault comes from the surface that is drawn on, from the source of an
edited text, from a file, or from a clock.

  §1 handles of nodes and calls on a surface
  §2 faults of files
  §3 all faults
  §4 messages
-/
import TransitionDiagram.Picture.Shape

namespace TransitionDiagram

/-! ## §1 Handles and calls -/

/-- The name of a node on a surface. -/
structure Handle where
  index : Nat
  deriving DecidableEq, Repr, Inhabited

/-- A number sign and the number of the node. -/
def Handle.toText (h : Handle) : String :=
  "#" ++ toString h.index

/-- The calls on a surface that can fail. -/
inductive SurfaceCall where
  | createText
  | measure
  | addChild
  | removeChild
  | setPosition
  | update
  deriving DecidableEq, Repr

namespace SurfaceCall

/-- All calls that can fail. -/
def all : List SurfaceCall :=
  [createText, measure, addChild, removeChild, setPosition, update]

/-- The name of a call. -/
def name : SurfaceCall → String
  | createText => "create_text"
  | measure => "measure"
  | addChild => "add_child"
  | removeChild => "remove_child"
  | setPosition => "set_position"
  | update => "update"

/-- The call of that name. -/
def ofName? (name : String) : Option SurfaceCall :=
  all.find? (·.name == name)

end SurfaceCall

/-! ## §2 Faults of files -/

/-- A fault of the file at some path. -/
inductive FileFault where
  /-- The file cannot be read, for the reason given. -/
  | unreadable (path reason : String)
  /-- The file cannot be written, for the reason given. -/
  | unwritable (path reason : String)
  /-- The state of the file cannot be told, for the reason given. -/
  | unknownState (path reason : String)
  /-- There is no such file. -/
  | missing (path : String)
  deriving DecidableEq, Repr

/-- The fault in words. -/
def FileFault.message : FileFault → String
  | unreadable path reason => "Failed to read input file '" ++ path ++ "': " ++ reason
  | unwritable path reason => "Failed to write output file '" ++ path ++ "': " ++ reason
  | unknownState path reason => "Failed to stat '" ++ path ++ "': " ++ reason
  | missing path => "Input file '" ++ path ++ "' not found"

/-! ## §3 Faults -/

/-- Everything that can go wrong. -/
inductive Fault (α : Type) where
  /-- A surface or a source refuses, in words of its own. -/
  | surface (message : String)
  /-- A node that is no text cannot be measured. -/
  | notText (node : Handle) (content : Content α)
  /-- No node has this handle, or it is not where it is looked for. -/
  | unknownNode (node : Handle)
  /-- A node lies below itself, so that drawing would not end. -/
  | endless (node : Handle)
  /-- A call on a surface is not available. -/
  | unavailable (call : SurfaceCall)
  /-- No node is kept for this state. -/
  | missingState (id : String)
  /-- There is no text to follow. -/
  | noInput
  /-- A clock reading in milliseconds is not a time. -/
  | invalidTimestamp (millis : α)
  /-- Input or output fails, for the reason given. -/
  | inputOutput (reason : String)
  /-- A file cannot be used. -/
  | file (fault : FileFault)
  deriving DecidableEq, Repr

/-! ## §4 Messages -/

/-- The fault in words. -/
def Fault.message : Fault Float → String
  | surface message => "Surface error: " ++ message
  | notText node content =>
    "Surface error: Cannot measure non-text node " ++ node.toText ++ " (" ++ content.describe ++ ")"
  | unknownNode node => "Unknown scene node: " ++ node.toText
  | endless node => "Endless scene below node: " ++ node.toText
  | unavailable call => call.name ++ " unavailable"
  | missingState id => "No visual node for state: " ++ id
  | noInput => "No input source bound"
  | invalidTimestamp millis => "Invalid timestamp: " ++ Decimal.plain.text millis ++ " ms"
  | inputOutput reason => "IO error: " ++ reason
  | file fault => fault.message

end TransitionDiagram
