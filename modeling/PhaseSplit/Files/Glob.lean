import PhaseSplit.Files.NamePattern
import PhaseSplit.Files.Tree

/-!
# Paths by pattern

The paths of a file tree that fit a path whose names may be patterns.  A name that starts with a dot
is found only by a pattern that starts with one.

* `FileTree.namesMatching` — the names in one directory that fit a pattern;
* `FileTree.pathsMatching` — the paths that fit a pattern in a directory which may be a pattern
  itself.
-/

namespace PhaseSplit.FileTree

/-- Whether a name is hidden. -/
def isHidden (name : Text) : Bool := name.head? = some Path.dot

/-- The place of the directory that a path names; the empty path names the home directory. -/
def directoryPlace? (t : FileTree) (path : Text) : Option Place :=
  if path = [] then some t.home
  else
    match t.resolve path with
    | .ok p => if t.node? p = some .directory then some p else none
    | .error _ => none

/-- The names in the directory of a path, of directories only where asked. -/
def namesUnder (t : FileTree) (directoriesOnly : Bool) (path : Text) : List Text :=
  match t.directoryPlace? path with
  | none => []
  | some p =>
    (t.namesIn p).filter fun name =>
      !directoriesOnly || t.node? (p ++ [name]) == some .directory

/-- The names in the directory of a path that fit a pattern. -/
def namesMatching (t : FileTree) (directoriesOnly : Bool) (path pattern : Text) : List Text :=
  (t.namesUnder directoriesOnly path).filter fun name =>
    (isHidden pattern || !isHidden name) && (NamePattern.read pattern).accepts name

/-- The name itself, if a path with this name in the directory names something. -/
def namesEqual (t : FileTree) (path name : Text) : List Text :=
  let found := if name = [] then t.isDirectory path else t.pathExists (Path.join path name)
  if found then [name] else []

/-- The directories that a path names, if its names may be patterns; `fuel` bounds their number. -/
def directoriesMatching (t : FileTree) : (fuel : Nat) → (path : Text) → List Text
  | 0, path => [path]
  | fuel + 1, path =>
    if !NamePattern.hasSpecial path then [path]
    else
      let above := Path.directory path
      let name := Path.fileName path
      let heads :=
        if above = [] || above = path then [above] else t.directoriesMatching fuel above
      heads.flatMap fun head =>
        let names :=
          if NamePattern.hasSpecial name then t.namesMatching true head name
          else t.namesEqual head name
        names.map (Path.join head)

/-- The paths that fit a pattern in a directory, whose own names may be patterns. -/
def pathsMatching (t : FileTree) (directory pattern : Text) : List Text :=
  let path := Path.join directory pattern
  let above := Path.directory path
  (t.directoriesMatching (above.length + 1) above).flatMap fun head =>
    (t.namesMatching false head (Path.fileName path)).map (Path.join head)

theorem directoriesMatching_of_not_hasSpecial (t : FileTree) (fuel : Nat) {path : Text}
    (h : NamePattern.hasSpecial path = false) : t.directoriesMatching fuel path = [path] := by
  cases fuel <;> simp [directoriesMatching, h]

end PhaseSplit.FileTree
