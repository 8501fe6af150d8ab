import PhaseSplit.Files.Path

/-!
# Archives

A file whose name ends like that of an archive is taken for one.  What can be told without opening
it is told here: whether its bytes have the marks of an archive of that kind, and else why it is
none.

* `Archive.ofPath?` — the kind of archive that a path names;
* `Archive.isPacked` — whether a path names a packed file, be it an archive or a single file;
* `Archive.hasMarks` — whether some bytes may be an archive of a kind;
* `Archive.fault` — why other bytes are none.
-/

namespace PhaseSplit

/-- The kinds of archives. -/
inductive Archive
  | zip
  | bzip2
  | tar
  | zstandard
  deriving DecidableEq

/-- Why a file cannot be opened or made as an archive. -/
inductive ArchiveFault
  | noZip
  | noBzip2
  | endOfBzip2
  | noTar (size : Nat)
  | noMeans
  deriving DecidableEq

namespace Archive

/-- The number of bytes in front of each file in a tar archive. -/
def tarHeaderSize : Nat := 512

/-- The endings of the names of archives. -/
def endings : List (String × Archive) :=
  [(".zip", zip), (".bz2", bzip2), (".tar", tar), (".zst", zstandard)]

/-- The endings of the names of single packed files. -/
def singleEndings : List String := [".gz", ".xz"]

/-- Whether a path ends in some characters, be they small letters or capitals. -/
def endsIn (path : Text) (ending : String) : Bool :=
  (Text.lit ending).reverse.isPrefixOf path.asciiLower.reverse

/-- The kind of archive that a path names. -/
def ofPath? (path : Text) : Option Archive :=
  (endings.find? fun (ending, _) => endsIn path ending).map (·.2)

/-- Whether a path names a packed file. -/
def isPacked (path : Text) : Bool :=
  (ofPath? path).isSome || singleEndings.any (endsIn path)

/-- The starts of bzip2 archives: a level, which is a digit, stands in their fourth place, and the
bytes after it say whether anything is packed in the archive. -/
def bzip2Starts : List (List UInt8) :=
  [0x31, 0x32, 0x33, 0x34, 0x35, 0x36, 0x37, 0x38, 0x39].flatMap fun level =>
    [[0x42, 0x5A, 0x68, level, 0x31, 0x41, 0x59, 0x26, 0x53, 0x59],
      [0x42, 0x5A, 0x68, level, 0x17, 0x72, 0x45, 0x38, 0x50, 0x90]]

/-- The bytes that stand in front of the list of files of a zip archive. -/
def zipMark : List UInt8 := [0x50, 0x4B, 0x05, 0x06]

/-- The name of the format in the header of a tar archive. -/
def tarMark : List UInt8 := [0x75, 0x73, 0x74, 0x61, 0x72]

/-- The place of the name of the format in the header of a tar archive. -/
def tarMarkPlace : Nat := 257

/-- The starts of files in which a tar archive may be packed once more. -/
def packedStarts : List (List UInt8) :=
  [[0x1F, 0x8B], [0x42, 0x5A, 0x68], [0xFD, 0x37, 0x7A, 0x58, 0x5A, 0x00]]

/-- Whether a mark stands somewhere in some bytes. -/
def holds (mark : List UInt8) : List UInt8 → Bool
  | [] => mark.isEmpty
  | b :: bs => mark.isPrefixOf (b :: bs) || holds mark bs

/-- Whether some bytes have the marks of an archive of a kind. -/
def hasMarks (content : List UInt8) : Archive → Bool
  | zip => holds zipMark content
  | bzip2 => bzip2Starts.any (·.isPrefixOf content)
  | tar =>
    packedStarts.any (·.isPrefixOf content) || tarMark.isPrefixOf (content.drop tarMarkPlace)
      || (tarHeaderSize ≤ content.length && (content.take tarHeaderSize).all (· = 0))
  | zstandard => false

/-- Why a file of this content, without the marks of a kind of archive, is none. -/
def fault (content : List UInt8) : Archive → ArchiveFault
  | zip => .noZip
  | bzip2 => if bzip2Starts.any content.isPrefixOf then .endOfBzip2 else .noBzip2
  | tar => .noTar content.length
  | zstandard => .noMeans

end Archive

/-- The words for a file that cannot be opened or made as an archive. -/
def ArchiveFault.message : ArchiveFault → Text
  | .noZip => Text.lit "File is not a zip file"
  | .noBzip2 => Text.lit "Invalid data stream"
  | .endOfBzip2 =>
    Text.lit "Compressed file ended before the end-of-stream marker was reached"
  | .noTar size =>
    let attempt (method words : String) : Text :=
      Text.lit "\n- method " ++ Text.lit method ++ Text.lit ": ReadError('" ++ Text.lit words
        ++ Text.lit "')"
    Text.lit "file could not be opened successfully:"
      ++ attempt "gz" (if size = 0 then "empty file" else "not a gzip file")
      ++ attempt "bz2" "not a bzip2 file"
      ++ attempt "xz" "not an lzma file"
      ++ attempt "tar" (if size = 0 then "empty file"
        else if size < Archive.tarHeaderSize then "truncated header" else "invalid header")
  | .noMeans =>
    Text.lit "Missing optional dependency 'zstandard'.  Use pip or conda to install zstandard."

end PhaseSplit
