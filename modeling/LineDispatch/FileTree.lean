import LineDispatch.Config

/-!
# File trees

The files below a working directory, and what a path finds there.  A path is
walked step by step: a name enters a directory or ends at a file, a dot stays,
two dots go up, also out of the tree, where no file is known.
-/

namespace LineDispatch

/-- The files below a directory, each by the names on its path, with its bytes. -/
abbrev FileTree := List (List Text × List UInt8)

namespace FileTree

/-- Where a walk has come to. -/
inductive Place
  /-- The directory at a path below the working directory. -/
  | inside (path : List Text)
  /-- A directory that does not belong to the tree. -/
  | outside
  | file (content : List UInt8)
deriving DecidableEq, Repr

/-- Whether a path is that of a directory. -/
def isDirectory (tree : FileTree) (path : List Text) : Bool :=
  path = [] || tree.any fun (file, _) => path.isPrefixOf file && path != file

/-- One step from a place, if it leads anywhere. -/
def step (tree : FileTree) (place : Place) (name : Text) : Option Place :=
  match place with
  | .file _ => none
  | .outside => if name = ['.'] ∨ name = ['.', '.'] ∨ name = [] then some .outside else none
  | .inside path =>
    if name = ['.'] ∨ name = [] then some place
    else if name = ['.', '.'] then some (if path = [] then .outside else .inside path.dropLast)
    else
      let next := path ++ [name]
      match tree.lookup next with
      | some content => some (.file content)
      | none => if tree.isDirectory next then some (.inside next) else none

/-- What a path finds.  A path that begins with a slash starts outside of the tree. -/
def find (tree : FileTree) (path : Text) : FileContent :=
  let start : Place := if path.opensWith '/' then .outside else .inside []
  match (path.splitOn '/').foldlM tree.step start with
  | some (.file content) => .bytes content
  | some _ => .directory
  | none => .missing

end FileTree

end LineDispatch
