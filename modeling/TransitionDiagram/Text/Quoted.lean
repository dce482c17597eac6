/-
TransitionDiagram.Text.Quoted: texts between double quotes.

A quote and a backslash inside the text follow a backslash. Control characters are written with a
letter where they have one (`\b`, `\f`, `\n`, `\r`, `\t`) and as four hexadecimal digits otherwise.
Every other character stands for itself, so a quoted text never spans two lines.
-/

namespace TransitionDiagram.Text

/-- How a character is written between quotes. -/
def escape (c : Char) : List Char :=
  if c = '"' then ['\\', '"']
  else if c = '\\' then ['\\', '\\']
  else if c = '\x08' then ['\\', 'b']
  else if c = '\x0c' then ['\\', 'f']
  else if c = '\n' then ['\\', 'n']
  else if c = '\r' then ['\\', 'r']
  else if c = '\t' then ['\\', 't']
  else if c.toNat < 0x20 then
    ['\\', 'u', '0', '0', Nat.digitChar (c.toNat / 16), Nat.digitChar (c.toNat % 16)]
  else [c]

/-- The text between double quotes. -/
def quote (s : List Char) : List Char :=
  '"' :: (s.flatMap escape ++ ['"'])

end TransitionDiagram.Text
