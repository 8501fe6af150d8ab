import PhaseSplit.Files.Archive
import PhaseSplit.Files.Tree
import PhaseSplit.Text.DecimalDigit

/-!
# Resources

A library that reads and writes tables takes most paths for the files that they name, but not all
of them: a tilde stands for a home, a scheme before a colon starts an address, and the name of an
archive says that the file is packed.

* `Path.isOrdinary` — whether a path stands for the file that it names and nothing else;
* `AccessFault` — why a library cannot read or write what a path stands for.
-/

namespace PhaseSplit

/-! ## Ordinary paths -/

namespace Path

/-- The tilde that stands for a home. -/
def tilde : Glyph := .char '~'

/-- The colon after a scheme. -/
def colon : Glyph := .char ':'

/-- Whether a glyph is a letter of ASCII. -/
def isAsciiLetter (g : Glyph) : Bool :=
  match g with
  | .char c => c.isAlpha
  | _ => false

/-- Whether a glyph may stand in a scheme. -/
def isSchemeGlyph (g : Glyph) : Bool :=
  isAsciiLetter g || g.asciiDigit?.isSome || (Text.lit "+-.").contains g

/-- A path as an address: without spaces and control characters at its start, and without tabs and
line ends. -/
def asAddress (path : Text) : Text :=
  (path.dropWhile (·.code ≤ 32)).filter fun g => !(Text.lit "\t\r\n").contains g

/-- Whether an address starts with a scheme. -/
def hasScheme (address : Text) : Bool :=
  let scheme := address.takeWhile (· ≠ colon)
  scheme.length < address.length && scheme.head?.any isAsciiLetter && scheme.all isSchemeGlyph

/-- Whether an address starts with the name of a host. -/
def hasHostName (address : Text) : Bool := [slash, slash].isPrefixOf address

/-- Whether a path stands for the file that it names: it does not start with a tilde or like an
address, nor is its name that of a packed file. -/
def isOrdinary (path : Text) : Bool :=
  path.head? ≠ some tilde && !hasScheme (asAddress path) && !hasHostName (asAddress path)
    && !Archive.isPacked path

end Path

/-! ## Faults -/

/-- A fault of a library, in its words; it may be one that the system has made of it. -/
structure LibraryFault where
  isOfSystem : Bool
  message : Text
  deriving DecidableEq

/-- Why a library cannot read or write what a path stands for. -/
inductive AccessFault
  | file (e : FileFault)
  | archive (e : ArchiveFault)
  | library (e : LibraryFault)
  deriving DecidableEq

end PhaseSplit
