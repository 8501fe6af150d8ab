import PhaseSplit.Files.Path
import PhaseSplit.Text.Quoted
import PhaseSplit.Text.Utf8

/-!
# File trees

A file tree as a value: files and directories by place.  A path is resolved to a place from the
root or from the home directory, and every operation gives a new tree or the reason why not.  Names
and paths are of limited length, counted in bytes.

* `FileTree.resolve` — the place that a path names;
* `FileTree.read`, `create`, `remove`, `makeDirectories` — the operations;
* `FileFault` — why an operation is refused, with the path as it was given.
-/

namespace PhaseSplit

/-- What stands at a place. -/
inductive Node
  | file (content : List UInt8)
  | directory
  deriving DecidableEq

/-- A place: the names from the root down. -/
abbrev Place := List Text

/-- Files and directories by place, and the directory from which relative paths start.  The root
is a directory. -/
structure FileTree where
  nodes : List (Place × Node)
  home : Place

/-- Why an operation on files is refused. -/
inductive FileReason
  | notFound
  | alreadyExists
  | notDirectory
  | isDirectory
  | tooLong
  | nullCharacter
  | unwritable (u : Text.Unwritable)
  deriving DecidableEq

/-- An operation that is refused, with the path it was given. -/
structure FileFault where
  reason : FileReason
  path : Text
  deriving DecidableEq

/-- The words for a refused operation. -/
def FileFault.message (e : FileFault) : Text :=
  let coded (words : String) : Text := Text.lit words ++ Text.lit ": " ++ e.path.quoted
  match e.reason with
  | .notFound => coded "[Errno 2] No such file or directory"
  | .alreadyExists => coded "[Errno 17] File exists"
  | .notDirectory => coded "[Errno 20] Not a directory"
  | .isDirectory => coded "[Errno 21] Is a directory"
  | .tooLong => coded "[Errno 36] File name too long"
  | .nullCharacter => Text.lit "embedded null byte"
  | .unwritable u => u.message

/-- The largest number of bytes of a name. -/
def maxNameBytes : Nat := 255

/-- The largest number of bytes of a path. -/
def maxPathBytes : Nat := 4095

namespace FileTree

/-! ## Looking -/

/-- What stands at a place. -/
def node? (t : FileTree) (p : Place) : Option Node :=
  if p = [] then some .directory else (t.nodes.find? (·.1 = p)).map (·.2)

/-- The place reached from `here` by names one after another; every name but the last must lead
to a directory.  A name is looked at when the directory before it has been reached. -/
def walk (t : FileTree) : (here : Place) → List Text → Except FileReason Place
  | here, [] => .ok here
  | here, name :: names =>
    match t.node? here with
    | none => .error .notFound
    | some (.file _) => .error .notDirectory
    | some .directory =>
      if name = [] || name = Text.lit "." then walk t here names
      else if name = Text.lit ".." then walk t here.dropLast names
      else if maxNameBytes < name.encode.length then .error .tooLong
      else walk t (here ++ [name]) names

/-- The place that a path names, whether or not something stands there. -/
def resolve (t : FileTree) (path : Text) : Except FileReason Place :=
  match Text.unwritable? Glyph.isHalf path with
  | some u => .error (.unwritable u)
  | none =>
    if path.contains (.char '\x00') then .error .nullCharacter
    else if path = [] then .error .notFound
    else if maxPathBytes < path.encode.length then .error .tooLong
    else t.walk (if path.head? = some Path.slash then [] else t.home) (Text.splitAt Path.slash path)

/-- What a path names. -/
def at? (t : FileTree) (path : Text) : Option Node :=
  match t.resolve path with
  | .ok p => t.node? p
  | .error _ => none

/-- Whether a path names something. -/
def pathExists (t : FileTree) (path : Text) : Bool := (t.at? path).isSome

/-- Whether a path names a directory. -/
def isDirectory (t : FileTree) (path : Text) : Bool := t.at? path = some .directory

/-- The names in the directory at a place. -/
def namesIn (t : FileTree) (p : Place) : List Text :=
  t.nodes.filterMap fun (q, _) =>
    match q.getLast? with
    | some name => if q.dropLast = p then some name else none
    | none => none

/-! ## Changing -/

/-- The tree with a node at a place. -/
def put (t : FileTree) (p : Place) (node : Node) : FileTree :=
  { t with nodes := (p, node) :: t.nodes.filter (·.1 ≠ p) }

/-- The tree without a place. -/
def erase (t : FileTree) (p : Place) : FileTree :=
  { t with nodes := t.nodes.filter (·.1 ≠ p) }

theorem node?_put_self (t : FileTree) {p : Place} (node : Node) (h : p ≠ []) :
    (t.put p node).node? p = some node := by
  simp [node?, put, h]

theorem node?_put_of_ne (t : FileTree) {p q : Place} (node : Node) (h : q ≠ p) :
    (t.put p node).node? q = t.node? q := by
  have hp : p ≠ q := fun he => h he.symm
  by_cases hq : q = []
  · simp [node?, hq]
  · have hf : ∀ nodes : List (Place × Node),
        (nodes.filter (·.1 ≠ p)).find? (·.1 = q) = nodes.find? (·.1 = q) := by
      intro nodes
      rw [List.find?_filter]
      congr 1
      funext x
      by_cases hx : x.1 = q <;> simp_all
    simp only [node?, put, hq, if_false, List.find?_cons, hp, decide_false, hf]

theorem node?_erase_self (t : FileTree) {p : Place} (h : p ≠ []) : (t.erase p).node? p = none := by
  simp [node?, erase, h]

theorem node?_erase_of_ne (t : FileTree) {p q : Place} (h : q ≠ p) :
    (t.erase p).node? q = t.node? q := by
  by_cases hq : q = []
  · simp [node?, hq]
  · simp only [node?, erase, hq, if_false, List.find?_filter]
    congr 2
    funext x
    by_cases hx : x.1 = q <;> simp_all

/-- The place of a path, with the reason tied to the path. -/
def locate (t : FileTree) (path : Text) : Except FileFault Place :=
  match t.resolve path with
  | .ok p => .ok p
  | .error reason => .error ⟨reason, path⟩

/-- The content of a file. -/
def read (t : FileTree) (path : Text) : Except FileFault (List UInt8) := do
  let p ← t.locate path
  match t.node? p with
  | some (.file content) => .ok content
  | some .directory => .error ⟨.isDirectory, path⟩
  | none => .error ⟨.notFound, path⟩

/-- The tree with a file of this content, new or in the place of an older one. -/
def write (t : FileTree) (path : Text) (content : List UInt8) : Except FileFault FileTree := do
  let p ← t.locate path
  match t.node? p with
  | some .directory => .error ⟨.isDirectory, path⟩
  | _ => .ok (t.put p (.file content))

/-- The tree without a file. -/
def remove (t : FileTree) (path : Text) : Except FileFault FileTree := do
  let p ← t.locate path
  match t.node? p with
  | some (.file _) => .ok (t.erase p)
  | some .directory => .error ⟨.isDirectory, path⟩
  | none => .error ⟨.notFound, path⟩

/-- The tree with a new directory in a directory. -/
def makeDirectory (t : FileTree) (path : Text) : Except FileFault FileTree := do
  let bare := Path.dropSlashes path
  match t.resolve (if bare = [] then path else bare) with
  | .error reason => .error ⟨reason, path⟩
  | .ok p =>
    match t.node? p with
    | some _ => .error ⟨.alreadyExists, path⟩
    | none => .ok (t.put p .directory)

/-- The directory above a path that has to be made before it. -/
def missingAbove? (t : FileTree) (path : Text) : Option Text :=
  let (head, tail) := Path.headAndTail path
  if head ≠ [] && tail ≠ [] && !t.pathExists head then some head else none

/-- The number of directories above a path that have to be made before it, one after the other;
`fuel` bounds it. -/
def countMissingAbove (t : FileTree) : (fuel : Nat) → (path : Text) → Nat
  | 0, _ => 0
  | fuel + 1, path =>
    match t.missingAbove? path with
    | some head => t.countMissingAbove fuel head + 1
    | none => 0

/-- The tree with a directory at a path, which is new or has been there, and why it is missing. -/
def ensureDirectory (t : FileTree) (path : Text) : FileTree × Option FileFault :=
  match t.makeDirectory path with
  | .ok t => (t, none)
  | .error e => (t, if t.isDirectory path then none else some e)

/-- The tree with a directory at a path, those above it made first, and why that one is missing;
`fuel` bounds their number. -/
def makeDirectoriesWithin : (fuel : Nat) → FileTree → (path : Text) → FileTree × Option FileFault
  | 0, t, _ => (t, none)
  | fuel + 1, t, path =>
    match t.missingAbove? path with
    | none => t.ensureDirectory path
    | some head =>
      let (t, fault) := makeDirectoriesWithin fuel t head
      match fault.filter (·.reason ≠ .alreadyExists) with
      | some e => (t, some e)
      | none =>
        if (Path.headAndTail path).2 = Text.lit "." then (t, none) else t.ensureDirectory path

/-- The number of directories above a path that have to be made before it. -/
def missingAbove (t : FileTree) (path : Text) : Nat := t.countMissingAbove (path.length + 1) path

/-- The tree with a directory at a path, those above it made first, and why that one is missing, if
it is.  A directory that is there is kept, and so are those that were made before a fault. -/
def makeDirectories (t : FileTree) (path : Text) : FileTree × Option FileFault :=
  makeDirectoriesWithin (path.length + 1) t path

end FileTree

end PhaseSplit
