import EdgeRouting.KeyMap
import EdgeRouting.Text.Bytes

/-!
# Files

Files are known by what it gives to read them: a text, or the reason why there is none.
`Files.ofTexts` is a directory that is given as a whole, by the paths and texts of its files.  It
lies in other directories, of which nothing is known but that they are there, somewhere under the
root of a system.
-/

namespace EdgeRouting

inductive FileError where
  | notFound
  /-- A part of the path that should be a directory is a file. -/
  | notADirectory
  /-- No file can have this name. -/
  | invalidName
  /-- The path, or a name in it, is longer than any that a file can have. -/
  | nameTooLong
  /-- There is a file, but it may not be opened. -/
  | denied
  /-- The path is that of a directory: it can be opened, but not read. -/
  | directory
  /-- The file is not a text in UTF-8. -/
  | notText
  deriving DecidableEq, Repr

abbrev Files := (path : String) → Except FileError String

namespace Files

/-- The parts of a path between slashes. -/
def components (path : String) : List String := path.splitOn "/"

/-- The most bytes that a name can have. -/
def longestName : Nat := 255

/-- The most bytes that a path can have. -/
def longestPath : Nat := 4095

/-- Files by the names that lead to them, and their texts. -/
abbrev Tree := List (List String × String)

/-- The file that is known of every system: its null device, which reads as an empty text. -/
def systemTree : Tree := [(["dev", "null"], "")]

/-- The directories that are known to lie in the root of every system. -/
def systemDirectories : List String := ["dev", "etc", "proc", "run", "sys", "tmp", "usr", "var"]

/-- Where a walk along a path stands.  Names are given in reverse. -/
inductive Place where
  /-- Under the directory that is given. -/
  | given (names : List String)
  /-- Under the root of the system. -/
  | rooted (names : List String)
  /-- In one of the directories that the given one lies in. -/
  | around
  deriving DecidableEq, Repr

namespace Place

def text? (tree : Tree) : Place → Option String
  | given names => (tree.find? fun file => file.1 = names.reverse).map Prod.snd
  | rooted names => (systemTree.find? fun file => file.1 = names.reverse).map Prod.snd
  | around => none

def parent : Place → Place
  | given (_ :: names) => given names
  | rooted (_ :: names) => rooted names
  | rooted [] => rooted []
  | _ => around

/-- The names lead to a file or a directory of the tree. -/
def isKnown (tree : Tree) (names : List String) : Bool :=
  tree.any fun file => names.reverse.isPrefixOf file.1

/-- The file or directory of this name in a directory. -/
def child? (tree : Tree) (name : String) : Place → Option Place
  | given names => if isKnown tree (name :: names) then some (given (name :: names)) else none
  | rooted names =>
      let isDirectory := names.isEmpty && systemDirectories.contains name
      if isDirectory || isKnown systemTree (name :: names) then some (rooted (name :: names))
      else none
  | around => none

/-- The place that a part of a path leads to from a directory. -/
def enter (tree : Tree) (place : Place) (part : String) : Except FileError Place :=
  if part = "" ∨ part = "." then .ok place
  else if part = ".." then .ok place.parent
  else if longestName < Text.byteCount part.toList then .error .nameTooLong
  else
    match place.child? tree part with
    | some next => .ok next
    | none => .error .notFound

end Place

/-- Walks along the rest of a path. -/
def walk (tree : Tree) (place : Place) : List String → Except FileError String
  | [] =>
      match place.text? tree with
      | some text => .ok text
      | none => .error .directory
  | part :: rest =>
      if (place.text? tree).isSome then .error .notADirectory
      else
        match place.enter tree part with
        | .error error => .error error
        | .ok next => walk tree next rest

/-- The files with these paths and texts; all other paths lead to directories or nowhere. -/
def ofTexts (texts : KeyMap String String) : Files := fun path =>
  if path.toList.contains '\x00' then .error .invalidName
  else if path = "" then .error .notFound
  else if longestPath < Text.byteCount path.toList then .error .nameTooLong
  else
    walk (texts.entries.map fun file => (components file.1, file.2))
      (if path.toList.head? = some '/' then .rooted [] else .given []) (components path)

end Files

end EdgeRouting
