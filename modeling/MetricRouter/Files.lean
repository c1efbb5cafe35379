/-!
# Files

A tree of files, and the rules by which a path leads to one of them.

* `FileTree.walk` — what stands where a path leads, name by name;
* `FileTree.read` — the text there, or the reason why there is none.
-/

namespace MetricRouter

/-- Why no text can be read at a path. -/
inductive PathFault where
  /-- The path holds a NUL. -/
  | nul
  | notFound
  /-- The path goes on behind a file. -/
  | notDirectory
  | isDirectory
  | tooLong
  deriving DecidableEq, Repr

/-- The reason in words. -/
def PathFault.message : PathFault → String
  | nul => "file name contained an unexpected NUL byte"
  | notFound => "No such file or directory (os error 2)"
  | notDirectory => "Not a directory (os error 20)"
  | isDirectory => "Is a directory (os error 21)"
  | tooLong => "File name too long (os error 36)"

/-- A file with its text, or a directory with what stands in it. -/
inductive FileTree where
  | file (text : String)
  | directory (entries : List (String × FileTree))

namespace FileTree

/-- A name of more bytes is refused. -/
def nameLimit : Nat := 255

/-- A path of this many bytes or more is refused. -/
def pathLimit : Nat := 4096

/-- What stands where some names lead, from a place on that is given with all that it stands in, innermost
first. The directory around the outermost one is that one itself. -/
def walk : List FileTree → List String → Except PathFault FileTree
  | [], _ => .error .notFound
  | place :: _, [] => .ok place
  | .file _ :: _, _ :: _ => .error .notDirectory
  | .directory entries :: outer, name :: rest =>
    if name == "" || name == "." then walk (.directory entries :: outer) rest
    else if name == ".." then walk (if outer.isEmpty then [.directory entries] else outer) rest
    else if nameLimit < name.utf8ByteSize then .error .tooLong
    else
      match entries.lookup name with
      | some place => walk (place :: .directory entries :: outer) rest
      | none => .error .notFound

/-- The text that a path leads to: from the root if it starts with a slash, and else from a place that is
given with all that it stands in, innermost first. -/
def read (root : FileTree) (place : List FileTree) (path : String) : Except PathFault String :=
  if path.contains '\x00' then .error .nul
  else if path.isEmpty then .error .notFound
  else if pathLimit ≤ path.utf8ByteSize then .error .tooLong
  else
    match walk (if path.startsWith "/" then [root] else place) (path.splitOn "/") with
    | .ok (.file text) => .ok text
    | .ok (.directory _) => .error .isDirectory
    | .error e => .error e

end FileTree

end MetricRouter
