/-
TransitionDiagram.Watch.Sighting: what is seen of a file at one moment.

A file is missing, or its state cannot be told, or it is there: with a stamp, which is when it was
last changed, if the system tells that, and how long it is, and with its contents, which may be
unreadable. Something else than a file may be there too, such as a directory, which has a stamp but
cannot be read.
-/
import TransitionDiagram.Live.EditSource

namespace TransitionDiagram

/-- When a file was last changed, and its length in bytes. -/
structure Stamp where
  /-- Nanoseconds since some fixed moment, if the time is told. -/
  modified : Option Int
  length : Nat
  deriving DecidableEq, Repr

/-- What is seen of a file; reasons are given in words. -/
inductive Sighting where
  | missing
  | unknown (reason : String)
  | present (stamp : Stamp) (contents : Except String String)

/-- The file at a path as it was last seen. -/
structure FileView where
  path : String
  contents : Except String String

instance {α : Type} : EditSource α FileView where
  contents view :=
    match view.contents with
    | .ok text => .ok text
    | .error reason => .error (.file (.unreadable view.path reason))

end TransitionDiagram
