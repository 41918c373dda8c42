/-!
# File trees

What lies under a directory: files with their bytes, and directories.  A path is
followed part by part.  The part `.` stays, and `..` goes back.  A file has no parts
below it, so a path that ends in a slash never names a file.

A path starts in the working directory, or in the root when it starts with a slash.
The working directory lies in a directory of its own, of which nothing else is known.
Nothing lies above the root, and of what lies below it only that is known which is
there on every system.
-/

namespace CheckHarness

/-- What a path leads to. -/
inductive Lookup where
  | missing
  | directory
  | file (bytes : List UInt8)
deriving DecidableEq, Repr

/-- Files and directories by the names that lead to them from one directory.  The
directories on the way to one of them need not be listed. -/
structure FileTree where
  nodes : List (List String × Lookup) := []
deriving DecidableEq, Repr

namespace FileTree

/-- The parts of a path.  A repeated slash counts once.  A trailing slash leaves the
part `.`, which only a directory has. -/
def parts (path : String) : List String :=
  let pieces := path.splitOn "/"
  let named := pieces.filter (· ≠ "")
  if pieces.getLast? = some "" then named ++ ["."] else named

/-- A tree from paths and what lies there. -/
def ofList (nodes : List (String × Lookup)) : FileTree :=
  ⟨nodes.map fun (path, node) => ((parts path).filter (· ≠ "."), node)⟩

/-- What lies at a place below the directory.  A place with something below it is a
directory. -/
def at? (tree : FileTree) (place : List String) : Lookup :=
  if place = [] then .directory
  else
    match tree.nodes.find? fun node => node.1 = place with
    | some node => node.2
    | none =>
      if tree.nodes.any fun node => place.isPrefixOf node.1 then .directory else .missing

/-- Whether the parts of a path only stay or go back. -/
def onlyBack (parts : List String) : Bool := parts.all fun part => part = "." ∨ part = ".."

/-- Follows the parts of a path from a place below the directory, which may be the
root. -/
def follow (tree : FileTree) (isRoot : Bool) :
    (place : List String) → (parts : List String) → Lookup
  | place, [] => tree.at? place
  | place, part :: rest =>
    if tree.at? place ≠ .directory then .missing
    else if part = "." then follow tree isRoot place rest
    else if part = ".." then
      if place = [] && !isRoot then if onlyBack rest then .directory else .missing
      else follow tree isRoot place.dropLast rest
    else follow tree isRoot (place ++ [part]) rest

/-- What lies below the root on every system: a file that is always empty, and
directories. -/
def system : FileTree :=
  ⟨(["dev", "null"], .file []) ::
    ["bin", "etc", "home", "lib", "opt", "proc", "root", "run", "sbin", "sys", "tmp", "usr",
      "var"].map fun name => ([name], .directory)⟩

/-- How long a path may be, in bytes. -/
def pathLimit : Nat := 4095

/-- What a path leads to from the working directory.  The empty path and paths that
are too long lead nowhere. -/
def lookup (tree : FileTree) (path : String) : Lookup :=
  if path = "" ∨ pathLimit < path.utf8ByteSize then .missing
  else if path.startsWith "/" then system.follow true [] (parts path)
  else tree.follow false [] (parts path)

end FileTree

end CheckHarness
