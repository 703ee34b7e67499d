import ColorLiteral.Path

/-!
# Files and directories

The files that a loader can see. Every directory above a file or directory exists as well.
-/

namespace ColorLiteral

/-- A file: its bytes and the time of its last change. -/
structure File where
  bytes : List UInt8
  modified : Int
  deriving DecidableEq, Repr

/-- A tree of files and directories. -/
structure FileTree where
  files : List (Path × File)
  directories : List Path
  deriving DecidableEq, Repr

namespace FileTree

/-- A tree without files. -/
def empty : FileTree := ⟨[], []⟩

/-- The file at a path. -/
def file? (tree : FileTree) (p : Path) : Option File := tree.files.lookup p

/-- Whether a path is a directory. -/
def isDirectory (tree : FileTree) (p : Path) : Bool :=
  tree.directories.any (·.isWithin p) || tree.files.any fun (q, _) => q.isWithin p && q != p

/-- The tree with a directory. -/
def makeDirectory (tree : FileTree) (p : Path) : FileTree :=
  { tree with directories := p :: tree.directories }

/-- The tree with a file in place of any file at its path. -/
def write (tree : FileTree) (p : Path) (f : File) : FileTree :=
  ⟨(p, f) :: tree.files.filter (·.1 != p), p.parent :: tree.directories⟩

/-- Whether there is a file or directory at a path. -/
def exists? (tree : FileTree) (p : Path) : Bool := (tree.file? p).isSome || tree.isDirectory p

/-- The tree without a path and everything below it. The directory around it stays. -/
def delete (tree : FileTree) (p : Path) : FileTree :=
  let kept := tree.directories.filter fun q => !q.isWithin p
  ⟨tree.files.filter fun (q, _) => !q.isWithin p,
    if tree.exists? p then p.parent :: kept else kept⟩

end FileTree

end ColorLiteral
