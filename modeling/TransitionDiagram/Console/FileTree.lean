/-
TransitionDiagram.Console.FileTree: files and directories as a value.

A tree says for each place what is there. A place is the list of the names that lead to it from
the top; a path is a text that leads to a place, from the top or from the current directory. Names
in a path stand between slashes; `.` stays where it is and `..` goes up. Every name but the last
must lead to a directory, and so must the last if a slash follows it. A path is neither empty nor
longer than what a system takes, and holds no character zero.

  §1 entries and trees
  §2 from paths to places
  §3 reading, writing, looking
-/
import TransitionDiagram.Console.Interface

namespace TransitionDiagram

/-! ## §1 Entries and trees -/

/-- What may be at a place, with when it was last changed. -/
inductive FileEntry where
  | file (contents : ByteArray) (modified : Int)
  | directory (modified : Int)

namespace FileEntry

/-- The text in some bytes. -/
def decode (bytes : ByteArray) : Except FileError String :=
  match String.fromUTF8? bytes with
  | some text => .ok text
  | none => .error .notText

/-- The text in a file. -/
def text : FileEntry → Except FileError String
  | file contents _ => decode contents
  | directory _ => .error .isDirectory

/-- The stamp of a file or directory. -/
def stamp : FileEntry → Stamp
  | file contents modified => { modified := some modified, length := contents.size }
  | directory modified => { modified := some modified, length := 0 }

end FileEntry

/-- What is where, and the place of the current directory. -/
structure FileTree where
  entries : List (List String × FileEntry)
  current : List String

namespace FileTree

/-- A tree with nothing but the directories down to the current one. -/
def empty : FileTree where
  entries := [([], .directory 0), (["current"], .directory 0)]
  current := ["current"]

/-- What is at a place. -/
def entry? (tree : FileTree) (place : List String) : Option FileEntry :=
  tree.entries.lookup place

/-- The tree without anything at a place. -/
def erase (tree : FileTree) (place : List String) : FileTree :=
  { tree with entries := tree.entries.filter (·.1 ≠ place) }

/-- The tree with something at a place. -/
def insert (tree : FileTree) (place : List String) (entry : FileEntry) : FileTree :=
  { tree with entries := (place, entry) :: (tree.erase place).entries }

/-- The place of a name in the current directory. -/
def placeOf (tree : FileTree) (name : String) : List String :=
  tree.current ++ [name]

/-! ## §2 Paths -/

/-- The texts between slashes. -/
def splitSlashes (path : List Char) : List (List Char) :=
  path.foldr (fun c parts =>
    if c = '/' then [] :: parts
    else
      match parts with
      | [] => [[c]]
      | part :: rest => (c :: part) :: rest) [[]]

/-- The names in a path. -/
def names (path : String) : List String :=
  (splitSlashes path.toList).filterMap fun name =>
    if name.isEmpty then none else some (String.ofList name)

/-- Whether a slash ends a path. -/
def endsInSlash (path : String) : Bool :=
  path.toList.getLast? = some '/'

/-- The longest name that a directory can hold, in bytes. -/
def longestName : Nat := 255

/-- The longest path, in bytes. -/
def longestPath : Nat := 4095

/-- Refuses a text that is no path, whatever the tree. -/
def checkPath (path : String) : Except FileError Unit :=
  if '\x00' ∈ path.toList then .error .zeroInPath
  else if path.isEmpty then .error .notFound
  else if longestPath < path.utf8ByteSize then .error .nameTooLong
  else .ok ()

/-- The place that some names lead to from a place. -/
def follow (tree : FileTree) (place : List String) : List String → Except FileError (List String)
  | [] => .ok place
  | name :: rest =>
    match tree.entry? place with
    | none => .error .notFound
    | some (.file _ _) => .error .notDirectory
    | some (.directory _) =>
      if name = "." then follow tree place rest
      else if name = ".." then follow tree place.dropLast rest
      else if longestName < name.utf8ByteSize then .error .nameTooLong
      else follow tree (place ++ [name]) rest

/-- Where a path begins. -/
def origin (tree : FileTree) (path : String) : List String :=
  if path.toList.head? = some '/' then [] else tree.current

/-- The place that a path leads to. Nothing need be there. -/
def resolve (tree : FileTree) (path : String) : Except FileError (List String) := do
  checkPath path
  tree.follow (tree.origin path) (names path ++ if endsInSlash path then ["."] else [])

/-- The place to write to. A path that ends in a slash names no file, whatever its last name leads
to. -/
def resolveNew (tree : FileTree) (path : String) : Except FileError (List String) := do
  checkPath path
  if endsInSlash path then
    let _ ← tree.follow (tree.origin path) ((names path).dropLast ++ ["."])
    .error .isDirectory
  else tree.follow (tree.origin path) (names path)

/-! ## §3 Files -/

/-- What a path leads to. -/
def find (tree : FileTree) (path : String) : Except FileError FileEntry := do
  match tree.entry? (← tree.resolve path) with
  | none => .error .notFound
  | some entry => .ok entry

/-- The text of the file at a path. -/
def read (tree : FileTree) (path : String) : Except FileError String := do
  (← tree.find path).text

/-- The tree with a text in the file at a path. -/
def write (tree : FileTree) (path text : String) : Except FileError FileTree := do
  let place ← tree.resolveNew path
  match tree.entry? place with
  | some (.directory _) => .error .isDirectory
  | _ => .ok (tree.insert place (.file text.toUTF8 0))

/-- What is seen at a path. -/
def look (tree : FileTree) (path : String) : Sighting :=
  match tree.find path with
  | .error .notFound => .missing
  | .error e => .unknown e.reason
  | .ok entry =>
    .present entry.stamp (entry.text.mapError FileError.reason)

end FileTree

end TransitionDiagram
